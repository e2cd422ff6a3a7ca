import Rabia.Engine.Counters

/-!
# Lives of a node

The process of a node can end at any moment and be started again. What outlives
it is the persisted state; `launch` builds a new engine on it and initialises it.
A process can also end in the middle of a handler: then only some of the effects
got out, and `save_state` ran or did not.

The phase counter is in memory. It is written to the persistence layer only after
a commit, so a restart can set it back to phases that were proposed in
(`proposed_again`); the order of the two counters survives restarts
(`commit_counters_ordered`).
-/

namespace Rabia

open Rabia.Lib Rabia.Lib.Proc Engine

/-- A node over the lives of its process. -/
structure Life (SM : Type) where
  engine : RabiaEngine SM
  /-- The process is running: `initialize` succeeded. -/
  up : Bool
  /-- What the node did in all its lives. -/
  trace : List Effect

/-- What can happen to a node. -/
inductive Occurrence (SM : Type) where
  /-- The process starts, after the last one ended, with this state machine. -/
  | launch (env : Env) (stateMachine : SM)
  | happens (env : Env) (event : Event)
  /-- The process ends while it handles an event. The first `sent` effects got out;
  `saved` tells whether the handler was past its call of `save_state`. -/
  | crash (env : Env) (event : Event) (sent : Nat) (saved : Bool)

namespace Life

variable {SM : Type} [StateMachine SM]

/-- A node before its first start, with nothing persisted. -/
def new (nodeId : NodeId) (config : RabiaConfig) (clusterConfig : ClusterConfig)
    (stateMachine : SM) : Life SM :=
  ⟨RabiaEngine.new nodeId config clusterConfig stateMachine none, false, []⟩

/-- The new engine that takes over what is persisted. -/
def relaunched (e : RabiaEngine SM) (stateMachine : SM) : RabiaEngine SM :=
  RabiaEngine.new e.nodeId e.config e.clusterConfig stateMachine e.persistence

def step (l : Life SM) : Occurrence SM → Life SM
  | .launch env stateMachine =>
    let o := initializeEngine env (relaunched l.engine stateMachine)
    -- `run` returns when `initialize` fails
    ⟨o.state, o.result.toBool, l.trace ++ o.effects⟩
  | .happens env event =>
    if l.up = true then
      let o := handle env event l.engine
      ⟨o.state, true, l.trace ++ o.effects⟩
    else l
  | .crash env event sent saved =>
    if l.up = true then
      let o := handle env event l.engine
      let persistence := if saved then o.state.persistence else l.engine.persistence
      ⟨{ l.engine with persistence := persistence }, false, l.trace ++ o.effects.take sent⟩
    else l

section Steps

variable {l : Life SM} (env : Env) (event : Event)

theorem step_happens (up : l.up = true) :
    l.step (.happens env event) = ⟨(handle env event l.engine).state, true,
      l.trace ++ (handle env event l.engine).effects⟩ := if_pos up

theorem step_happens_down (down : ¬ l.up = true) : l.step (.happens env event) = l :=
  if_neg down

theorem step_crash (up : l.up = true) (sent : Nat) (saved : Bool) :
    l.step (.crash env event sent saved) =
      ⟨{ l.engine with persistence := if saved then (handle env event l.engine).state.persistence
          else l.engine.persistence }, false,
        l.trace ++ (handle env event l.engine).effects.take sent⟩ := if_pos up

theorem step_crash_down (down : ¬ l.up = true) (sent : Nat) (saved : Bool) :
    l.step (.crash env event sent saved) = l := if_neg down

end Steps

/-! ## Starting -/

/-- The phase that `initialize` sets the counter to. -/
def restoredPhase (persistence : Option PersistedState) : PhaseId :=
  (persistence.map (·.currentPhase)).getD 0

/-- The commit mark that `initialize` sets. -/
def restoredMark (persistence : Option PersistedState) : PhaseId :=
  (persistence.map (·.lastCommittedPhase)).getD 0

/-- Neither counter nor the persisted state changed, and nothing was sent. -/
def Idle (e : RabiaEngine SM) (w : List Effect) (e' : RabiaEngine SM) : Prop :=
  SameCounters e.engineState e'.engineState ∧ e'.persistence = e.persistence ∧ w = []

omit [StateMachine SM] in
theorem idle_path : Path (@Idle SM) where
  nil e := ⟨⟨rfl, rfl⟩, rfl, rfl⟩
  append h h' := by
    obtain ⟨counters, persistence, rfl⟩ := h
    obtain ⟨counters', persistence', rfl⟩ := h'
    exact ⟨⟨counters'.1.trans counters.1, counters'.2.trans counters.2⟩,
      persistence'.trans persistence, rfl⟩

theorem idle_restoreSnapshot (snapshot : Snapshot) :
    Within Idle (restoreSnapshot snapshot : EngineM SM Unit) := by
  refine Within.bind idle_path (Within.read idle_path _) fun _ => ?_
  refine Within.bind idle_path ?_ fun _ => Within.ofExcept idle_path _
  exact fun e => ⟨⟨rfl, rfl⟩, rfl, rfl⟩

omit [StateMachine SM] in
/-- The end of `initialize`: look who is connected. -/
theorem idle_connect (env : Env) :
    Within Idle (ofExcept env.connectedNodes >>= fun connectedNodes =>
      modifyState (EngineState.updateActiveNodes connectedNodes) : EngineM SM Unit) := by
  refine Within.bind idle_path (Within.ofExcept idle_path _) fun nodes => ?_
  exact fun e => ⟨sameCounters_updateActiveNodes nodes e.engineState, rfl, rfl⟩

/-- What `initialize` does between storing the counters and looking who is connected. -/
theorem idle_restoreRest (snapshot : Option Snapshot) :
    Within Idle (match snapshot with
      | some snapshot => restoreSnapshot snapshot
      | none => pure () : EngineM SM Unit) := by
  cases snapshot with
  | none => exact Within.pure idle_path _
  | some snapshot => exact idle_restoreSnapshot snapshot

/-- A start sends nothing and keeps what is persisted. The counters are the persisted
ones, or 0 when loading them fails. -/
theorem launch_spec (env : Env) (e : RabiaEngine SM) (stateMachine : SM) :
    let o := initializeEngine env (relaunched e stateMachine)
    o.effects = [] ∧ o.state.persistence = e.persistence ∧
      ((o.result.toBool = false ∧ o.state.engineState.currentPhase = 0 ∧
          o.state.engineState.lastCommittedPhase = 0) ∨
        (o.state.engineState.currentPhase = restoredPhase e.persistence ∧
          o.state.engineState.lastCommittedPhase = restoredMark e.persistence)) := by
  dsimp only
  unfold initializeEngine
  cases env.load with
  | error err => exact ⟨rfl, rfl, Or.inl ⟨rfl, rfl, rfl⟩⟩
  | ok _ =>
      rw [bind_ok (ofExcept_apply _ _), after_nil, read_bind]
      show _ ∧ _ ∧ _
      cases persisted : e.persistence with
      | none =>
          have persisted' : (relaunched e stateMachine).persistence = none := persisted
          obtain ⟨counters, persistence, effects⟩ := idle_connect env (relaunched e stateMachine)
          rw [persisted']
          exact ⟨effects, persistence.trans persisted, Or.inr counters⟩
      | some state =>
          have persisted' : (relaunched e stateMachine).persistence = some state := persisted
          have stored : restorePersisted state (relaunched e stateMachine) =
              (match state.snapshot with
                | some snapshot => restoreSnapshot snapshot
                | none => pure () : EngineM SM Unit)
              ((relaunched e stateMachine).mapState fun st => { st with
                currentPhase := state.currentPhase
                lastCommittedPhase := state.lastCommittedPhase }) := rfl
          obtain ⟨counters, persistence, effects⟩ := Within.bind idle_path
            (idle_restoreRest state.snapshot) (fun _ => idle_connect env)
              ((relaunched e stateMachine).mapState fun st => { st with
                currentPhase := state.currentPhase
                lastCommittedPhase := state.lastCommittedPhase })
          rw [persisted']
          dsimp only
          rw [bind_congr _ stored]
          exact ⟨effects, persistence.trans persisted, Or.inr counters⟩

/-! ## Phase numbers of proposals -/

/-- A start restores a counter that has reached every phase the node proposed in,
and an advance does not wrap the counter. -/
def Recovers (l : Life SM) : Occurrence SM → Prop
  | .launch _ _ => ∀ p ∈ proposedPhases l.trace, p ≤ restoredPhase l.engine.persistence
  | .happens _ event | .crash _ event _ _ => l.up = true → NoWrap l.engine event

instance (l : Life SM) : ∀ o, Decidable (Recovers l o)
  | .launch _ _ => inferInstanceAs (Decidable (∀ p ∈ proposedPhases l.trace, _))
  | .happens _ event | .crash _ event _ _ =>
    inferInstanceAs (Decidable (l.up = true → NoWrap l.engine event))

/-- The phases proposed in increase, up to the counter of the running engine. -/
structure Numbered (l : Life SM) : Prop where
  increasing : (proposedPhases l.trace).Pairwise (· < ·)
  reached : l.up = true → ∀ p ∈ proposedPhases l.trace, p ≤ l.engine.engineState.currentPhase

/-- One event adds no phase to those proposed in, or one above them, which the
counter then shows. -/
theorem proposed_handle {e : RabiaEngine SM} {trace : List Effect}
    (reached : ∀ p ∈ proposedPhases trace, p ≤ e.engineState.currentPhase) {env : Env}
    {event : Event} (noWrap : NoWrap e event) {w : List Effect}
    (sublist : w.Sublist (handle env event e).effects) :
    ∀ p ∈ proposedPhases w, (∀ q ∈ proposedPhases trace, q < p) ∧
      p ≤ (handle env event e).state.engineState.currentPhase := by
  intro p hp
  have among : p ∈ proposedPhases (handle env event e).effects :=
    (sublist.filterMap _).subset hp
  rcases proposed_of_deed (deed_of_handle env event e) with nothing | ⟨advances, one⟩
  · rw [nothing] at among
    cases among
  · rw [one] at among
    have next := nextPhase_eq (noWrap advances)
    rw [currentPhase_of_advances advances, List.mem_singleton.mp among]
    refine ⟨fun q hq => ?_, Nat.le_refl _⟩
    rw [next]
    exact Nat.lt_succ_of_le (reached q hq)

/-- The same for the list of all phases proposed in. -/
theorem increasing_handle {e : RabiaEngine SM} {trace : List Effect}
    (increasing : (proposedPhases trace).Pairwise (· < ·))
    (reached : ∀ p ∈ proposedPhases trace, p ≤ e.engineState.currentPhase) {env : Env}
    {event : Event} (noWrap : NoWrap e event) {w : List Effect}
    (sublist : w.Sublist (handle env event e).effects) :
    (proposedPhases (trace ++ w)).Pairwise (· < ·) := by
  rw [proposedPhases_append, List.pairwise_append]
  refine ⟨increasing, ?_, fun q hq p hp => (proposed_handle reached noWrap sublist p hp).1 q hq⟩
  have few : (proposedPhases (handle env event e).effects).Pairwise (· < ·) := by
    rcases proposed_of_deed (deed_of_handle env event e) with nothing | ⟨-, one⟩
    · rw [nothing]
      exact List.Pairwise.nil
    · rw [one]
      exact List.pairwise_singleton _ _
  exact few.sublist (sublist.filterMap _)

theorem numbered_step (l : Life SM) (o : Occurrence SM) (numbered : Numbered l)
    (recovers : Recovers l o) : Numbered (l.step o) := by
  cases o with
  | launch env stateMachine =>
      obtain ⟨effects, -, counters⟩ := launch_spec env l.engine stateMachine
      have trace : (l.step (.launch env stateMachine)).trace = l.trace := by
        show l.trace ++ (initializeEngine env (relaunched l.engine stateMachine)).effects = _
        rw [effects, List.append_nil]
      refine ⟨trace ▸ numbered.increasing, fun up p hp => ?_⟩
      rw [trace] at hp
      rcases counters with ⟨failed, -, -⟩ | ⟨restored, -⟩
      · exact absurd (failed.symm.trans up) (by decide)
      · exact (recovers p hp).trans restored.ge
  | happens env event =>
      by_cases up : l.up = true
      · have noWrap := recovers up
        have all := List.Sublist.refl (handle env event l.engine).effects
        rw [step_happens env event up]
        refine ⟨increasing_handle numbered.increasing (numbered.reached up) noWrap all, ?_⟩
        intro _ p hp
        rw [proposedPhases_append] at hp
        rcases List.mem_append.mp hp with old | new
        · exact (numbered.reached up p old).trans (counters_le_handle noWrap).1
        · exact (proposed_handle (numbered.reached up) noWrap all p new).2
      · rw [step_happens_down env event up]
        exact numbered
  | crash env event sent saved =>
      by_cases up : l.up = true
      · rw [step_crash env event up]
        refine ⟨?_, fun down => absurd down Bool.false_ne_true⟩
        exact increasing_handle numbered.increasing (numbered.reached up) (recovers up)
          (List.take_sublist sent _)
      · rw [step_crash_down env event up]
        exact numbered

/-- A node whose restarts restore a counter that has reached all phases it proposed in,
and whose counter does not wrap, proposes in distinct phases. -/
theorem proposed_phases_distinct (nodeId : NodeId) (config : RabiaConfig)
    (clusterConfig : ClusterConfig) (stateMachine : SM) (occurrences : List (Occurrence SM))
    (recovers : Along step Recovers (new nodeId config clusterConfig stateMachine) occurrences) :
    (proposedPhases
      (run step (new nodeId config clusterConfig stateMachine) occurrences).trace).Nodup := by
  have start : Numbered (new nodeId config clusterConfig stateMachine) :=
    ⟨List.Pairwise.nil, fun _ p hp => absurd hp List.not_mem_nil⟩
  have numbered := run_invariant numbered_step start recovers
  exact numbered.increasing.imp fun lower => Nat.ne_of_lt lower

/-! ## The order of the counters -/

/-- The current phase of a running engine is not the last of the `u64`. -/
def BelowMax (l : Life SM) (_ : Occurrence SM) : Prop :=
  l.up = true → l.engine.engineState.currentPhase + 1 < u64Size

instance (l : Life SM) (o : Occurrence SM) : Decidable (BelowMax l o) :=
  inferInstanceAs (Decidable (_ → _))

/-- The commit mark is not above the current phase, and every heartbeat shows that
and passes the checks of its receiver. -/
structure CountersOrdered (l : Life SM) : Prop where
  behind : l.engine.engineState.lastCommittedPhase ≤ l.engine.engineState.currentPhase
  heartbeats : ∀ x ∈ l.trace, ∀ heartbeat, x.heartBeat = some heartbeat →
    heartbeat.lastCommittedPhase ≤ heartbeat.currentPhase ∧
      ∀ now, (MessageType.heartBeat heartbeat).validate now = .ok ()

/-- Neither counter fell. -/
def Rises (e e' : RabiaEngine SM) : Prop :=
  e.engineState.currentPhase ≤ e'.engineState.currentPhase ∧
    e.engineState.lastCommittedPhase ≤ e'.engineState.lastCommittedPhase

/-- Neither counter falls, unless the process is started anew. -/
def NeverFalls (l : Life SM) : Occurrence SM → Prop
  | .launch _ _ => True
  | o => Rises l.engine (l.step o).engine

theorem neverFalls_of_belowMax (l : Life SM) (o : Occurrence SM) (below : BelowMax l o) :
    NeverFalls l o := by
  have still : Rises l.engine l.engine := ⟨Nat.le_refl _, Nat.le_refl _⟩
  cases o with
  | launch env stateMachine => trivial
  | happens env event =>
      show Rises l.engine (l.step (.happens env event)).engine
      by_cases up : l.up = true
      · rw [step_happens env event up]
        exact counters_le_handle fun _ => below up
      · rw [step_happens_down env event up]
        exact still
  | crash env event sent saved =>
      show Rises l.engine (l.step (.crash env event sent saved)).engine
      by_cases up : l.up = true
      · rw [step_crash env event up]
        exact still
      · rw [step_crash_down env event up]
        exact still

/-- The commit mark is not above the current phase in memory or on disk. -/
structure Sound (l : Life SM) : Prop extends CountersOrdered l where
  saved : ∀ persisted, l.engine.persistence = some persisted →
    persisted.lastCommittedPhase ≤ persisted.currentPhase

/-- What a running engine sends and saves in an event is in order. -/
theorem sound_handle {e : RabiaEngine SM}
    (behind : e.engineState.lastCommittedPhase ≤ e.engineState.currentPhase)
    (below : e.engineState.currentPhase + 1 < u64Size) (env : Env) (event : Event) :
    (handle env event e).state.engineState.lastCommittedPhase ≤
        (handle env event e).state.engineState.currentPhase ∧
      (∀ persisted, (handle env event e).state.persistence = some persisted →
        e.persistence = some persisted ∨
          persisted.lastCommittedPhase ≤ persisted.currentPhase) ∧
      ∀ x ∈ (handle env event e).effects, ∀ heartbeat, x.heartBeat = some heartbeat →
        heartbeat.lastCommittedPhase ≤ heartbeat.currentPhase ∧
          ∀ now, (MessageType.heartBeat heartbeat).validate now = .ok () := by
  rcases plain_cases e event with rfl | ⟨request, rfl, noQuorum⟩ | plain
  · obtain ⟨state, effects⟩ := handle_heartbeat env e
    rw [state, effects]
    refine ⟨behind, fun persisted there => Or.inl there, fun x hx heartbeat same => ?_⟩
    rw [List.mem_singleton.mp hx] at same
    cases same
    exact ⟨behind, fun now =>
      MessageType.validate_heartBeat.mpr ⟨Nat.lt_of_succ_lt below, behind⟩⟩
  · obtain ⟨state, effects⟩ := handle_declined env request noQuorum
    rw [state, effects]
    refine ⟨behind, fun persisted there => Or.inl there, fun x hx heartbeat same => ?_⟩
    rw [List.mem_singleton.mp hx] at same
    cases same
  · have climbs := climbs_of_handle env (fun _ => below) plain
    refine ⟨climbs.behind behind, climbs.saved behind, fun x hx heartbeat same => ?_⟩
    rw [(climbs.routine x hx).1] at same
    cases same

theorem sound_step (l : Life SM) (o : Occurrence SM) (sound : Sound l) (below : BelowMax l o) :
    Sound (l.step o) := by
  cases o with
  | launch env stateMachine =>
      obtain ⟨effects, persistence, counters⟩ := launch_spec env l.engine stateMachine
      refine ⟨⟨?_, fun x hx => ?_⟩, fun persisted there => ?_⟩
      · let o := initializeEngine env (relaunched l.engine stateMachine)
        show o.state.engineState.lastCommittedPhase ≤ o.state.engineState.currentPhase
        rcases counters with ⟨-, current, mark⟩ | ⟨current, mark⟩
        · exact mark.trans_le (Nat.zero_le _)
        · rw [mark]
          refine Nat.le_trans ?_ current.ge
          cases persisted : l.engine.persistence with
          | none => exact Nat.le_refl 0
          | some state => exact sound.saved state persisted
      · have there : x ∈ l.trace ++ (initializeEngine env
          (relaunched l.engine stateMachine)).effects := hx
        rw [effects, List.append_nil] at there
        exact sound.heartbeats x there
      · exact sound.saved persisted (persistence.symm.trans there)
  | happens env event =>
      by_cases up : l.up = true
      · rw [step_happens env event up]
        obtain ⟨behind, saved, heartbeats⟩ := sound_handle sound.behind (below up) env event
        refine ⟨⟨behind, fun x hx => ?_⟩, fun persisted there => ?_⟩
        · rcases List.mem_append.mp hx with old | new
          · exact sound.heartbeats x old
          · exact heartbeats x new
        · rcases saved persisted there with before | ordered
          · exact sound.saved persisted before
          · exact ordered
      · rw [step_happens_down env event up]
        exact sound
  | crash env event sent saved =>
      by_cases up : l.up = true
      · rw [step_crash env event up]
        obtain ⟨-, written, heartbeats⟩ := sound_handle sound.behind (below up) env event
        refine ⟨⟨sound.behind, fun x hx => ?_⟩, fun persisted there => ?_⟩
        · rcases List.mem_append.mp hx with old | new
          · exact sound.heartbeats x old
          · exact heartbeats x (List.mem_of_mem_take new)
        · -- the process ended before the save or after it
          cases saved with
          | false => exact sound.saved persisted there
          | true =>
              rcases written persisted there with before | ordered
              · exact sound.saved persisted before
              · exact ordered
      · rw [step_crash_down env event up]
        exact sound

/-- Over all lives of a node, as long as its current phase stays below the last of the
`u64`, the commit mark is not above the current phase, neither falls but in a restart,
and every heartbeat passes the checks of its receiver. -/
theorem commit_counters_ordered (nodeId : NodeId) (config : RabiaConfig)
    (clusterConfig : ClusterConfig) (stateMachine : SM) (occurrences : List (Occurrence SM))
    (below : Along step BelowMax (new nodeId config clusterConfig stateMachine) occurrences) :
    CountersOrdered (run step (new nodeId config clusterConfig stateMachine) occurrences) ∧
      Along step NeverFalls (new nodeId config clusterConfig stateMachine) occurrences := by
  have start : Sound (new nodeId config clusterConfig stateMachine) :=
    ⟨⟨Nat.le_refl _, fun x hx => absurd hx List.not_mem_nil⟩, fun _ there => nomatch there⟩
  exact ⟨(run_invariant sound_step start below).toCountersOrdered,
    below.mono neverFalls_of_belowMax⟩

section ThreeNodes

/-- A start with all three nodes connected. -/
def starting : Occurrence ByteLog :=
  .launch { connectedNodes := .ok {⟨0⟩, ⟨1⟩, ⟨2⟩} } ⟨[]⟩

/-- Node 0 of three, never started. -/
def nodeZero : Life ByteLog :=
  new ⟨0⟩ ⟨10⟩ (ClusterConfig.new ⟨0⟩ {⟨0⟩, ⟨1⟩, ⟨2⟩}) ⟨[]⟩

/-- Node 0 proposes in phase 1 and commits it, restarts and proposes again. -/
def savedInBetween : List (Occurrence ByteLog) :=
  [starting, .happens submission.1 submission.2, .happens (deciding 1).1 (deciding 1).2, starting,
    .happens submission.1 submission.2]

theorem proposed_phases_distinct_saved :
    (proposedPhases (run step nodeZero savedInBetween).trace).Nodup :=
  proposed_phases_distinct _ _ _ _ _ (by decide +kernel)

/-- A node that restarts after a proposal proposes in the same phase again. -/
theorem proposed_again :
    ¬ (proposedPhases (run step nodeZero [starting, .happens submission.1 submission.2, starting,
      .happens submission.1 submission.2]).trace).Nodup := by
  decide +kernel

/-- Node 0 commits phase 1 and ends right after saving that. It is started again and
sends a heartbeat. -/
def savedByCrash : List (Occurrence ByteLog) :=
  [starting, .happens submission.1 submission.2, .crash (deciding 1).1 (deciding 1).2 1 true,
    starting, .happens {} .heartbeat]

theorem commit_counters_ordered_saved :
    CountersOrdered (run step nodeZero savedByCrash) ∧
      Along step NeverFalls nodeZero savedByCrash :=
  commit_counters_ordered _ _ _ _ _ (by decide +kernel)

end ThreeNodes

end Life

end Rabia
