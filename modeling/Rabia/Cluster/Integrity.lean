import Rabia.Cluster.Agreement
import Rabia.Cluster.Circulation

/-!
# Nothing is invented

What clients submit is all that a cluster runs (`batches_submitted`), and what the batches
of the clients and the snapshots of the engines keep, every state machine keeps
(`machines_uphold`). An engine announces and marks only what it has run
(`marks_earned`).

No code of the engine makes the record of a phase. Without one, nothing is decided, run or
committed (`nothing_without_records`).
-/

namespace Rabia

open Rabia.Lib Rabia.Lib.Proc Engine

variable {SM : Type} [StateMachine SM]

namespace Cluster

/-- A condition on events that every message meets is met along a run when what happens at
the nodes meets it. -/
theorem meets_of_forall {members : List NodeId} {config : NodeId → RabiaConfig}
    {stateMachine : NodeId → SM} {ok : Event → Prop}
    (messages : ∀ sender message, ok (.message sender message)) {actions : List Action}
    (nodes : ∀ node env event, Action.atNode node env event ∈ actions → ok event) :
    Meets members config stateMachine (fun _ _ _ event => ok event) actions := by
  refine Along.mono (fun c action member => ?_) (along_of_mem (P := (· ∈ actions)) fun _ => id)
  intro o occurs
  cases action with
  | atNode node env event =>
      unfold occurrence at occurs
      dsimp only at occurs
      split_ifs at occurs
      · cases occurs
        exact nodes node env event member
      · cases occurs
  | deliver index env =>
      unfold occurrence at occurs
      dsimp only at occurs
      split at occurs
      · split_ifs at occurs
        · cases occurs
          exact messages _ _
        · cases occurs
      · cases occurs
  | duplicate index => cases occurs
  | lose index => cases occurs

end Cluster

/-! ## Batches come from clients -/

/-- A client submitted the batch at some node. -/
def Submitted (actions : List Action) (batch : CommandBatch) : Prop :=
  ∃ node env request, Action.atNode node env (.command (.processBatch request)) ∈ actions ∧
    request.batch = batch

/-- What the event submits meets `C`. -/
def Event.Submits (C : CommandBatch → Prop) (event : Event) : Prop :=
  ∀ request, event = .command (.processBatch request) → C request.batch

/-- Every batch that is proposed meets `C`. -/
def World.ProposesOnly (C : CommandBatch → Prop) (w : World SM) : Prop :=
  ∀ i p v batch, w.Said i (.proposal p v (some batch)) → C batch

theorem proposesOnly_act {C : CommandBatch → Prop} {w : World SM} {node : NodeId} {env : Env}
    {event : Event} (only : w.ProposesOnly C) (submits : event.Submits C) :
    (w.act node env event).ProposesOnly C := by
  intro i p v batch said
  rcases reason_of_said said with old | ⟨rfl, reason⟩
  · exact only i p v batch old
  · generalize same : Utterance.proposal p v (some batch) = u at reason
    cases reason with
    | proposal quorum =>
        cases same
        exact submits _ rfl
    | _ => cases same

/-- Every batch on its way, on record or at a state machine meets `C`. -/
structure World.Only (C : CommandBatch → Prop) (w : World SM) : Prop where
  proposed : w.ProposesOnly C
  recorded : ∀ i p phase batch, (w.engines i).getPhase p = some phase →
    phase.batch = some batch → C batch
  announced : ∀ i p d batch, w.Said i (.decision p d (some batch)) → C batch
  applied : ∀ i p batch, w.Said i (.applied p batch) → C batch

omit [StateMachine SM] in
theorem Traced.only {members : List NodeId} {w : World SM} (traced : Traced members w)
    {C : CommandBatch → Prop} (only : w.ProposesOnly C) : w.Only C := by
  have proposed : ∀ {p batch}, w.Proposed p batch → C batch := by
    rintro p batch ⟨j, said⟩
    exact only j p .v1 batch said
  refine ⟨only, ?_, ?_, ?_⟩
  · intro i p phase batch present recorded
    exact proposed (traced.batch i p phase batch present recorded)
  · intro i p d batch said
    exact proposed (traced.decision i p d batch said)
  · intro i p batch said
    exact proposed (traced.applied i p batch said)

theorem submits_of_actions (members : List NodeId) (config : NodeId → RabiaConfig)
    (stateMachine : NodeId → SM) (actions : List Action) :
    Cluster.Meets members config stateMachine
      (fun _ _ _ event => event.Submits (Submitted actions)) actions := by
  refine Cluster.meets_of_forall (fun _ _ _ impossible => nomatch impossible) ?_
  rintro node env event member request rfl
  exact ⟨node, env, request, member, rfl⟩

/-- In every run, whatever is proposed, recorded, announced or applied was submitted by a
client in that run. -/
theorem batches_submitted (members : List NodeId) (config : NodeId → RabiaConfig)
    (stateMachine : NodeId → SM) (actions : List Action) :
    (Cluster.world members config stateMachine actions).Only (Submitted actions) := by
  obtain ⟨traced, only⟩ := traced_invariant
    (fun _ _ _ _ _ _ _ only submits => proposesOnly_act only submits)
    (fun _ _ _ _ said => absurd said List.not_mem_nil)
    (submits_of_actions members config stateMachine actions)
  exact traced.only only

/-! ## State machines keep what batches and snapshots keep -/

namespace Engine

/-- The state machine went through the batches that the effects tell of. -/
def Replays (e : RabiaEngine SM) (w : List Effect) (e' : RabiaEngine SM) : Prop :=
  e'.stateMachine = (w.filterMap Effect.batch).foldl execute e.stateMachine

theorem steps_replays : Steps (@Replays SM _) where
  nil _ := rfl
  append {e e' e'' w w'} h h' := by
    unfold Replays at h h' ⊢
    rw [h', h, List.filterMap_append, List.foldl_append]
  mutate _ _ := rfl
  run _ _ _ := rfl
  commit _ _ := rfl
  save _ _ _ := rfl
  follow _ _ := rfl
  emit x ordinary e := by
    show e.stateMachine = _
    rw [List.filterMap_cons_none ordinary.batch]
    rfl

/-- An event that is not about a synchronisation runs the batches that it tells of. -/
theorem replays_handle (env : Env) {event : Event} (noSync : ¬ event.Syncs env)
    (e : RabiaEngine SM) : Replays e (handle env event e).effects (handle env event e).state :=
  steps_replays.handle env noSync fun _ _ => rfl

end Engine

/-- What batches that meet `C` and snapshots of engines keep of a state machine. -/
structure Upheld (C : CommandBatch → Prop) (J : SM → Prop) : Prop where
  runs : ∀ sm batch, J sm → C batch → J (execute sm batch)
  restores : ∀ sm source snapshot, J sm → J source →
    StateMachine.createSnapshot source = .ok snapshot →
      J (StateMachine.restoreSnapshot sm snapshot).2

/-- A response brings a snapshot of a state machine with `J`, if it brings one. -/
def SyncResponseMessage.From (J : SM → Prop) (response : SyncResponseMessage) : Prop :=
  ∀ snapshot, response.stateSnapshot = some snapshot →
    ∃ source, J source ∧ StateMachine.createSnapshot source = .ok snapshot

theorem Upheld.copied {C : CommandBatch → Prop} {J : SM → Prop} (upheld : Upheld C J) :
    Copied (fun e : RabiaEngine SM => J e.stateMachine) (SyncResponseMessage.From J) where
  apart _ _ held := held
  answer e _ held taken snapshot attached := ⟨e.stateMachine, held, taken snapshot attached⟩
  moved _ _ held _ _ := held
  restored _ _ snapshot held good attached := by
    obtain ⟨source, held', made⟩ := good snapshot attached
    exact upheld.restores _ source snapshot held held' made

theorem Upheld.foldl {C : CommandBatch → Prop} {J : SM → Prop} (upheld : Upheld C J)
    (batches : List CommandBatch) {sm : SM} (held : J sm) (all : ∀ batch ∈ batches, C batch) :
    J (batches.foldl execute sm) := by
  induction batches generalizing sm with
  | nil => exact held
  | cons batch batches ih =>
      refine ih (upheld.runs sm batch held (all batch List.mem_cons_self)) fun later member => ?_
      exact all later (List.mem_cons_of_mem batch member)

/-- An event in which only batches that meet `C` are applied keeps what they keep. -/
theorem Upheld.act {members : List NodeId} {w : World SM} {node : NodeId} {env : Env}
    {event : Event} {C : CommandBatch → Prop} {J : SM → Prop} (upheld : Upheld C J)
    (circulating : Circulating (fun e => J e.stateMachine) (SyncResponseMessage.From J) w)
    (genuine : w.Genuine members node event)
    (applied : ∀ i p batch, (w.act node env event).Said i (.applied p batch) → C batch) :
    Circulating (fun e => J e.stateMachine) (SyncResponseMessage.From J)
      (w.act node env event) := by
  refine circulating_act upheld.copied circulating genuine fun noSync => ?_
  show J (handle env event (w.engines node)).state.stateMachine
  rw [replays_handle env noSync (w.engines node)]
  refine upheld.foldl _ (circulating.engine node) fun batch member => ?_
  obtain ⟨x, hx, ran⟩ := List.mem_filterMap.mp member
  cases x with
  | applyBatch p batch' =>
      cases ran
      exact applied node p batch (World.said_of_effect hx rfl)
  | sendTo _ _ | broadcast _ | decide _ _ | respond _ _ | statistics _ _ => cases ran

/-- What the batches of the clients and the snapshots keep holds of all engines and of all
responses on their way. -/
theorem Upheld.circulates {C : CommandBatch → Prop} {J : SM → Prop} (upheld : Upheld C J)
    (members : List NodeId) (config : NodeId → RabiaConfig) {stateMachine : NodeId → SM}
    (start : ∀ i, J (stateMachine i)) {actions : List Action}
    (clients : ∀ batch, Submitted actions batch → C batch) :
    Circulating (fun e => J e.stateMachine) (SyncResponseMessage.From J)
      (Cluster.world members config stateMachine actions) := by
  obtain ⟨-, -, circulating⟩ := traced_invariant
    (I := fun w => w.ProposesOnly (Submitted actions) ∧
      Circulating (fun e => J e.stateMachine) (SyncResponseMessage.From J) w)
    (fun w node env event _ traced' genuine holds submits => by
      have only : (w.act node env event).ProposesOnly (Submitted actions) :=
        proposesOnly_act holds.1 submits
      refine ⟨only, upheld.act holds.2 genuine fun i p batch applied => ?_⟩
      exact clients batch ((traced'.only only).applied i p batch applied))
    ⟨fun _ _ _ _ said => absurd said List.not_mem_nil,
      circulating_start members config stateMachine start⟩
    (submits_of_actions members config stateMachine actions)
  exact circulating

/-- What the batches of the clients and the snapshots keep, every state machine keeps:
however batches reach it, by its own tally, by a decision or inside a snapshot. -/
theorem machines_uphold {C : CommandBatch → Prop} {J : SM → Prop} (upheld : Upheld C J)
    (members : List NodeId) (config : NodeId → RabiaConfig) {stateMachine : NodeId → SM}
    (start : ∀ i, J (stateMachine i)) {actions : List Action}
    (clients : ∀ batch, Submitted actions batch → C batch) (i : NodeId) :
    J ((Cluster.world members config stateMachine actions).engines i).stateMachine :=
  (upheld.circulates members config start clients).engine i

section Bytes

/-- The log after a batch has the data of all its commands at its end. -/
theorem bytes_execute (log : ByteLog) (batch : CommandBatch) :
    (execute log batch).bytes = log.bytes ++ batch.commands.flatMap Command.data := by
  show (defaultApplyCommands StateMachine.applyCommand log batch.commands).2.bytes = _
  generalize batch.commands = commands
  induction commands generalizing log with
  | nil => exact (List.append_nil _).symm
  | cons command commands ih =>
      have step : (defaultApplyCommands StateMachine.applyCommand log (command :: commands)).2 =
          (defaultApplyCommands StateMachine.applyCommand
            (⟨log.bytes ++ command.data⟩ : ByteLog) commands).2 := by
        simp only [defaultApplyCommands, StateMachine.applyCommand]
        split
        · next same => rw [same]
        · next same => rw [same]
      rw [step, ih, List.flatMap_cons, List.append_assoc]

/-- The commands of the batch carry no other byte than `b`. -/
def CommandBatch.WritesOnly (b : UInt8) (batch : CommandBatch) : Prop :=
  ∀ command ∈ batch.commands, ∀ byte ∈ command.data, byte = b

theorem upheld_writesOnly (b : UInt8) :
    Upheld (CommandBatch.WritesOnly b) (fun log : ByteLog => ∀ byte ∈ log.bytes, byte = b) where
  runs log batch held only byte member := by
    rw [bytes_execute] at member
    rcases List.mem_append.mp member with old | new
    · exact held byte old
    · obtain ⟨command, inside, written⟩ := List.mem_flatMap.mp new
      exact only command inside byte written
  restores _ _ _ _ held made := by
    cases made
    exact held

/-- Clients submit batches that write the byte 65, and node 2 writes it three times. -/
theorem machines_uphold_two_proposers :
    ((worldOf 3 (twoProposers 65 65)).engines ⟨2⟩).stateMachine.bytes = [65, 65, 65] ∧
      ∀ byte ∈ ((worldOf 3 (twoProposers 65 65)).engines ⟨2⟩).stateMachine.bytes, byte = 65 := by
  refine ⟨by decide +kernel, machines_uphold (upheld_writesOnly 65) (nodesBelow 3) newConfig
    (fun _ _ none => absurd none List.not_mem_nil) ?_ ⟨2⟩⟩
  rintro batch ⟨node, env, request, member, rfl⟩
  have submitted : ∀ b, Action.atNode node env (.command (.processBatch request)) =
      submitting 0 b ∨ Action.atNode node env (.command (.processBatch request)) =
      submitting 1 b → request.batch = writing b := by
    rintro b (same | same)
    · cases same
      rfl
    · cases same
      rfl
  have once : Action.atNode node env (.command (.processBatch request)) = submitting 0 65 ∨
      Action.atNode node env (.command (.processBatch request)) = submitting 1 65 := by
    simpa [twoProposers, creating, delivering, List.mem_replicate] using member
  rw [submitted 65 once]
  intro command inside byte written
  cases List.mem_singleton.mp inside
  exact List.mem_singleton.mp written

end Bytes

/-! ## Marks and announcements are earned -/

/-- An engine that announces the batch of a phase has run and committed it, and the phase
at its mark is one in which it ran a batch. -/
structure World.Earned (w : World SM) : Prop where
  announced : ∀ i p batch, w.Said i (.decision p .v1 (some batch)) →
    w.Said i (.applied p batch) ∧ p ≤ (w.engines i).engineState.lastCommittedPhase
  marked : ∀ i, (w.engines i).engineState.lastCommittedPhase ≠ 0 →
    ∃ batch, w.Said i (.applied (w.engines i).engineState.lastCommittedPhase batch)

/-- `make_decision` announces a batch once it is applied and committed. -/
theorem applied_of_announced {env : Env} {e : RabiaEngine SM} {event : Event} {x : Effect}
    (hx : x ∈ (handle env event e).effects) {p : PhaseId} {batch : CommandBatch}
    (uttered : x.utterance = some (.decision p .v1 (some batch))) :
    .applyBatch p batch ∈ (handle env event e).effects ∧
      p ≤ (handle env event e).state.engineState.lastCommittedPhase := by
  have reason := reason_of_deed (deed_of_handle env event e) hx uttered
  generalize same : Utterance.decision p .v1 (some batch) = u at reason
  cases reason with
  | @decision sender message m phase decision received present majority =>
      obtain ⟨rfl, rfl, stored⟩ := Utterance.decision.inj same
      have touched := touches_updatePhase m.phaseId (·.addRound2Vote sender m.vote) e
      have recorded := touched.at_self
      rw [present] at recorded
      obtain ⟨-, lands, effects⟩ := makeDecision_runs env recorded
        (show (phase.addRound2Vote sender m.vote).batch = some batch from stored.symm)
      have runs : handle env (.message sender message) e = makeDecision env m.phaseId .v1
          (e.mapState (EngineState.updatePhase m.phaseId (·.addRound2Vote sender m.vote))) := by
        rw [handle_of_received received]
        show handleVoteRound2 env sender m e = _
        rw [handleVoteRound2_apply, present, Option.map_some, Option.bind_some, majority]
      rw [runs] at hx ⊢
      rw [effects] at hx ⊢
      refine ⟨List.mem_cons_of_mem _ List.mem_cons_self, ?_⟩
      -- the announcement is the effect after the application
      rcases List.mem_cons.mp hx with rfl | hx
      · cases uttered
      rcases List.mem_cons.mp hx with rfl | hx
      · cases uttered
      split at hx
      · next committed =>
          rw [lands.committed committed.1 committed.2]
          exact le_max_right _ _
      · cases hx
  | _ => cases same

/-- The mark of an engine stays, or moves to a phase in which a batch runs. -/
theorem mark_handle (env : Env) (event : Event) (e : RabiaEngine SM) :
    (handle env event e).state.engineState.lastCommittedPhase =
        e.engineState.lastCommittedPhase ∨
      ∃ batch, .applyBatch (handle env event e).state.engineState.lastCommittedPhase batch ∈
        (handle env event e).effects := by
  have deed := deed_of_handle env event e
  generalize (handle env event e).state = e', (handle env event e).effects = w at deed ⊢
  have landed : ∀ {p batch}, Lands p batch e e' → .applyBatch p batch ∈ w →
      e'.engineState.lastCommittedPhase = e.engineState.lastCommittedPhase ∨
        ∃ batch, .applyBatch e'.engineState.lastCommittedPhase batch ∈ w := by
    intro p batch lands ran
    by_cases lasts : CommandsSucceed e batch ∧ p ≤ e.engineState.currentPhase
    · have mark := lands.committed lasts.1 lasts.2
      rcases Nat.le_total p e.engineState.lastCommittedPhase with below | above
      · rw [max_eq_left below] at mark
        exact Or.inl mark
      · rw [max_eq_right above] at mark
        rw [mark]
        exact Or.inr ⟨batch, ran⟩
    · exact Or.inl (lands.dropped lasts)
  cases deed with
  | aside _ aside => exact Or.inl aside.state.lastCommittedPhase
  | created _ _ _ mark | cleaned _ _ _ mark | proposed _ _ mark | answered _ _ _ mark
  | counted _ _ _ mark | cast _ _ _ _ _ mark | tallied _ _ _ mark | decided _ _ _ _ _ mark
  | learned _ _ _ mark => exact Or.inl mark
  | executed _ _ _ _ _ lands said =>
      refine landed lands ?_
      rcases said with rfl | rfl
      · exact List.mem_cons_of_mem _ List.mem_cons_self
      · exact List.mem_cons_of_mem _ List.mem_cons_self
  | adopted _ _ _ _ _ lands => exact landed lands List.mem_cons_self

theorem earned_act {w : World SM} {node : NodeId} {env : Env} {event : Event}
    (earned : w.Earned) : (w.act node env event).Earned := by
  constructor
  · intro i p batch said
    rcases World.said_act said with old | ⟨rfl, x, hx, uttered⟩
    · obtain ⟨applied, marked⟩ := earned.announced i p batch old
      refine ⟨applied.act node env event, ?_⟩
      by_cases same : i = node
      · rw [same, World.act_engines_self]
        rw [same] at marked
        exact marked.trans (mark_le_handle env event (w.engines node))
      · rw [World.act_engines_of_ne w env event same]
        exact marked
    · obtain ⟨applied, marked⟩ := applied_of_announced hx uttered
      rw [World.act_engines_self]
      exact ⟨World.said_of_effect applied rfl, marked⟩
  · intro i marked
    by_cases same : i = node
    · rw [same, World.act_engines_self] at marked ⊢
      rcases mark_handle env event (w.engines node) with kept | ⟨batch, ran⟩
      · rw [kept] at marked ⊢
        obtain ⟨batch, applied⟩ := earned.marked node marked
        exact ⟨batch, applied.act node env event⟩
      · exact ⟨batch, World.said_of_effect ran rfl⟩
    · rw [World.act_engines_of_ne w env event same] at marked ⊢
      obtain ⟨batch, applied⟩ := earned.marked i marked
      exact ⟨batch, applied.act node env event⟩

/-- In every run, whoever announces a batch has run it and committed its phase, and every
commit mark stands at a phase in which its engine ran a batch. -/
theorem marks_earned (members : List NodeId) (config : NodeId → RabiaConfig)
    (stateMachine : NodeId → SM) (actions : List Action) :
    (Cluster.world members config stateMachine actions).Earned :=
  (traced_invariant (fun _ _ _ _ _ _ _ earned (_ : True) => earned_act earned)
    ⟨fun _ _ _ said => absurd said List.not_mem_nil, fun _ marked => absurd rfl marked⟩
    (along_of_forall (fun _ _ _ _ => trivial) _ actions)).2

/-! ## Without records nothing happens -/

/-- The event does not make the record of a phase. -/
def Event.AsItStands (event : Event) : Prop := ∀ p, event ≠ .createPhase p

/-- No phase has a record; proposals and round-1 votes is all that was said. -/
structure World.Inert (w : World SM) : Prop where
  recordless : ∀ i p, (w.engines i).getPhase p = none
  said : ∀ i u, w.Said i u → (∃ p v batch, u = .proposal p v batch) ∨ ∃ p v, u = .round1 p v
  unmarked : ∀ i, (w.engines i).engineState.lastCommittedPhase = 0

theorem inert_act {members : List NodeId} {w : World SM} {node : NodeId} {env : Env}
    {event : Event} (genuine : w.Genuine members node event) (inert : w.Inert)
    (asItStands : event.AsItStands) : (w.act node env event).Inert := by
  have said : ∀ i u, (w.act node env event).Said i u →
      (∃ p v batch, u = .proposal p v batch) ∨ ∃ p v, u = .round1 p v := by
    intro i u uttered
    rcases reason_of_said uttered with old | ⟨rfl, reason⟩
    · exact inert.said i u old
    · cases reason with
      | proposal quorum => exact Or.inl ⟨_, _, _, rfl⟩
      | round1 received quorum => exact Or.inr ⟨_, _, rfl⟩
      | round2 received present reached => cases (inert.recordless i _).symm.trans present
      | decided received present majority => cases (inert.recordless i _).symm.trans present
      | decision received present majority => cases (inert.recordless i _).symm.trans present
      | executed received present majority stored =>
          cases (inert.recordless i _).symm.trans present
      | adopted received accepted carried above =>
          -- nobody sent the decision
          rcases inert.said _ _ (said_of_received genuine received rfl) with
            ⟨_, _, _, same⟩ | ⟨_, _, same⟩
          · cases same
          · cases same
  refine ⟨fun i p => ?_, said, fun i => ?_⟩
  · cases there : ((w.act node env event).engines i).getPhase p with
    | none => rfl
    | some phase =>
        rcases revision_of_act there with old | ⟨rfl, revision⟩
        · cases (inert.recordless i p).symm.trans old
        · cases revision with
          | fresh absent => exact absurd rfl (asItStands p)
          | kept present | proposed present _ _ | answered _ present _ | counted _ present _
          | cast _ present _ _ | tallied _ present _ | decided _ present _
          | learned _ present _ => cases (inert.recordless i p).symm.trans present
  · by_cases same : i = node
    · rw [same, World.act_engines_self]
      rcases mark_handle env event (w.engines node) with kept | ⟨batch, ran⟩
      · rw [kept]
        exact inert.unmarked node
      · rcases said node _ (World.said_of_effect ran rfl) with ⟨_, _, _, same⟩ | ⟨_, _, same⟩
        · cases same
        · cases same
    · rw [World.act_engines_of_ne w env event same]
      exact inert.unmarked i

/-- As the engine stands, with no call that makes a record, no run has a vote in round 2, a
decision or an application, every commit mark stays at 0, and the state machines change by
the snapshots of one another only. -/
theorem nothing_without_records (members : List NodeId) (config : NodeId → RabiaConfig)
    (stateMachine : NodeId → SM) {actions : List Action}
    (asItStands : ∀ node env event, Action.atNode node env event ∈ actions → event.AsItStands) :
    (Cluster.world members config stateMachine actions).Inert ∧
      ∀ J : SM → Prop, Upheld (fun _ => False) J → (∀ i, J (stateMachine i)) →
        ∀ i, J ((Cluster.world members config stateMachine actions).engines i).stateMachine := by
  have meets : Cluster.Meets members config stateMachine
      (fun _ _ _ event => event.AsItStands) actions :=
    Cluster.meets_of_forall (fun _ _ _ impossible => nomatch impossible) asItStands
  have start : (Cluster.start members config stateMachine).toWorld.Inert :=
    ⟨fun _ _ => rfl, fun _ _ said => absurd said List.not_mem_nil, fun _ => rfl⟩
  refine ⟨(traced_invariant (fun _ _ _ _ _ _ genuine inert asItStands =>
    inert_act genuine inert asItStands) start meets).2, fun J upheld begins i => ?_⟩
  obtain ⟨-, -, circulating⟩ := traced_invariant
    (I := fun w => w.Inert ∧
      Circulating (fun e => J e.stateMachine) (SyncResponseMessage.From J) w)
    (fun w node env event _ _ genuine holds asItStands => by
      have inert : (w.act node env event).Inert := inert_act genuine holds.1 asItStands
      refine ⟨inert, upheld.act holds.2 genuine fun j p batch applied => ?_⟩
      rcases inert.said j _ applied with ⟨_, _, _, same⟩ | ⟨_, _, same⟩
      · cases same
      · cases same)
    ⟨start, circulating_start members config stateMachine begins⟩ meets
  exact circulating.engine i

/-- Two clients submit batches, and the messages arrive. -/
def submissions : List Action :=
  [submitting 0 65, submitting 1 65] ++ List.replicate 12 (delivering 0 true)

theorem nothing_without_records_submissions :
    (worldOf 3 submissions).Said ⟨2⟩ (.round1 1 .v1) ∧ (worldOf 3 submissions).Inert := by
  refine ⟨by decide +kernel, (nothing_without_records (nodesBelow 3) newConfig emptyLog ?_).1⟩
  intro node env event member p created
  rw [created] at member
  simp [submissions, submitting, delivering] at member

end Rabia
