import Rabia.Engine.Startup
import Rabia.Engine.SyncRounds

/-!
# The state version

`state_version` is meant to tell two states of an engine apart: every mutator raises it
when it changes something. It does not see the two stores that bypass the mutators, to the
phase counters in `resolve_sync` and in `initialize` (`witnessed_iff`).
-/

namespace Rabia

open Rabia.Lib Rabia.Lib.Proc

/-- The fields that the version watches are as they were. -/
structure SameWatched (st st' : EngineState) : Prop where
  currentPhase : st'.currentPhase = st.currentPhase
  lastCommittedPhase : st'.lastCommittedPhase = st.lastCommittedPhase
  isActive : st'.isActive = st.isActive
  hasQuorum : st'.hasQuorum = st.hasQuorum
  activeNodes : st'.activeNodes = st.activeNodes
  pendingBatches : st'.pendingBatches = st.pendingBatches
  phases : st'.phases = st.phases

theorem SameWatched.refl (st : EngineState) : SameWatched st st :=
  ⟨rfl, rfl, rfl, rfl, rfl, rfl, rfl⟩

theorem SameWatched.trans {st st' st'' : EngineState} (h : SameWatched st st')
    (h' : SameWatched st' st'') : SameWatched st st'' :=
  ⟨h'.currentPhase.trans h.currentPhase, h'.lastCommittedPhase.trans h.lastCommittedPhase,
    h'.isActive.trans h.isActive, h'.hasQuorum.trans h.hasQuorum,
    h'.activeNodes.trans h.activeNodes, h'.pendingBatches.trans h.pendingBatches,
    h'.phases.trans h.phases⟩

/-- The version never falls, and rises when a field that it watches changes. -/
structure Witnessed (st st' : EngineState) : Prop where
  monotone : st.stateVersion ≤ st'.stateVersion
  rises : ¬ SameWatched st st' → st.stateVersion < st'.stateVersion

/-- The same with at most `n` increments, as long as these do not wrap. -/
def Versioned (n : Nat) (st st' : EngineState) : Prop :=
  st.stateVersion + n < u64Size →
    Witnessed st st' ∧ st'.stateVersion ≤ st.stateVersion + n

theorem witnessed_of_same {st st' : EngineState} (same : SameWatched st st')
    (version : st'.stateVersion = st.stateVersion) : Witnessed st st' :=
  ⟨version.ge, fun changed => absurd same changed⟩

theorem Witnessed.trans {st st' st'' : EngineState} (h : Witnessed st st')
    (h' : Witnessed st' st'') : Witnessed st st'' := by
  refine ⟨Nat.le_trans h.monotone h'.monotone, ?_⟩
  intro changed
  by_cases first : SameWatched st st'
  · have second : ¬ SameWatched st' st'' := fun same => changed (first.trans same)
    exact Nat.lt_of_le_of_lt h.monotone (h'.rises second)
  · exact Nat.lt_of_lt_of_le (h.rises first) h'.monotone

/-! ## The mutators -/

theorem incrementVersion_stateVersion {st : EngineState} (room : st.stateVersion + 1 < u64Size) :
    st.incrementVersion.stateVersion = st.stateVersion + 1 := Nat.mod_eq_of_lt room

/-- A write that is followed by an increment. -/
theorem versioned_increment {st st' : EngineState} (same : st'.stateVersion = st.stateVersion) :
    Versioned 1 st st'.incrementVersion := by
  intro room
  have raised : st'.incrementVersion.stateVersion = st.stateVersion + 1 := by
    rw [← same] at room ⊢
    exact incrementVersion_stateVersion room
  refine ⟨⟨?_, fun _ => ?_⟩, ?_⟩ <;> omega

theorem versioned_same {st st' : EngineState} (same : SameWatched st st')
    (version : st'.stateVersion = st.stateVersion) (n : Nat) : Versioned n st st' := by
  intro _
  refine ⟨witnessed_of_same same version, ?_⟩
  omega

theorem graded_versioned : Graded Versioned where
  nil st := versioned_same (SameWatched.refl st) rfl 0
  append := by
    intro m n st st' st'' h h' room
    obtain ⟨first, bound⟩ := h (by omega)
    obtain ⟨second, bound'⟩ := h' (by omega)
    refine ⟨first.trans second, ?_⟩
    omega
  mono := by
    intro m n st st' le h room
    obtain ⟨witnessed, bound⟩ := h (by omega)
    refine ⟨witnessed, ?_⟩
    omega

theorem versioned_commitPhase (phaseId : PhaseId) (st : EngineState) :
    Versioned 1 st (st.commitPhase phaseId).2 := by
  unfold EngineState.commitPhase
  split_ifs
  · exact versioned_same (SameWatched.refl st) rfl 1
  · exact versioned_increment rfl
  · exact versioned_same (SameWatched.refl st) rfl 1

theorem versioned_setActive (active : Bool) (st : EngineState) :
    Versioned 1 st (st.setActive active) := by
  unfold EngineState.setActive
  split_ifs
  · exact versioned_increment rfl
  · exact versioned_same (SameWatched.refl st) rfl 1

theorem versioned_setQuorum (hasQuorum : Bool) (st : EngineState) :
    Versioned 1 st (st.setQuorum hasQuorum) := by
  unfold EngineState.setQuorum
  split_ifs
  · exact versioned_increment rfl
  · exact versioned_same (SameWatched.refl st) rfl 1

theorem versioned_updateActiveNodes (nodes : Finset NodeId) (st : EngineState) :
    Versioned 3 st (st.updateActiveNodes nodes) := by
  have quorum (st : EngineState) (hasQuorum : Bool) :
      Versioned 2 st ((st.setQuorum hasQuorum).setActive hasQuorum) :=
    graded_versioned.append (versioned_setQuorum _ _) (versioned_setActive _ _)
  unfold EngineState.updateActiveNodes
  dsimp only
  split_ifs
  · have written : Versioned 1 st { st with activeNodes := nodes }.incrementVersion :=
      versioned_increment rfl
    exact graded_versioned.append written (quorum _ _)
  · exact graded_versioned.mono (by omega) (quorum st _)

theorem versioned_removePendingBatch (batchId : BatchId) (st : EngineState) :
    Versioned 1 st (st.removePendingBatch batchId) := by
  unfold EngineState.removePendingBatch
  split
  · exact versioned_increment rfl
  · exact versioned_same (SameWatched.refl st) rfl 1

theorem versioned_getOrCreatePhase (phaseId : PhaseId) (now : Nat) (st : EngineState) :
    Versioned 1 st (st.getOrCreatePhase phaseId now) := by
  unfold EngineState.getOrCreatePhase
  split
  · exact versioned_same (SameWatched.refl st) rfl 1
  · exact versioned_increment rfl

theorem versioned_updatePhase (phaseId : PhaseId) (updateFn : PhaseData → PhaseData)
    (st : EngineState) : Versioned 1 st (st.updatePhase phaseId updateFn) := by
  unfold EngineState.updatePhase
  split
  · exact versioned_increment rfl
  · exact versioned_same (SameWatched.refl st) rfl 1

/-- A cleanup that removes no phase changes none. -/
theorem versioned_cleanupOldPhases (maxPhaseHistory now : Nat) (st : EngineState) :
    Versioned 1 st (st.cleanupOldPhases maxPhaseHistory now) := by
  unfold EngineState.cleanupOldPhases
  dsimp only
  split_ifs with removed
  · exact versioned_increment rfl
  · have kept := Table.retain_eq_self (Nat.le_of_sub_eq_zero (Nat.eq_zero_of_not_pos removed))
    refine versioned_same ?_ ?_ 1
    · exact ⟨rfl, rfl, rfl, rfl, rfl, rfl, kept⟩
    · rfl

theorem versioned_cleanupOldPendingBatches (maxAgeSecs now : Nat) (st : EngineState) :
    Versioned 1 st (st.cleanupOldPendingBatches maxAgeSecs now) := by
  unfold EngineState.cleanupOldPendingBatches
  dsimp only
  split_ifs with removed
  · exact versioned_increment rfl
  · have kept := Table.retain_eq_self (Nat.le_of_sub_eq_zero (Nat.eq_zero_of_not_pos removed))
    refine versioned_same ?_ ?_ 1
    · exact ⟨rfl, rfl, rfl, rfl, rfl, kept, rfl⟩
    · rfl

/-- Every mutator raises the version when it changes what the version watches. -/
theorem respected_versioned : Respected Versioned where
  toGraded := graded_versioned
  advancePhase _ := versioned_increment rfl
  commitPhase := versioned_commitPhase
  setActive := versioned_setActive
  updateActiveNodes := versioned_updateActiveNodes
  addPendingBatch _ _ _ _ := versioned_increment rfl
  removePendingBatch := versioned_removePendingBatch
  getOrCreatePhase := versioned_getOrCreatePhase
  updatePhase := versioned_updatePhase
  cleanupOldPhases := versioned_cleanupOldPhases
  cleanupOldPendingBatches := versioned_cleanupOldPendingBatches

/-! ## The stores that bypass the mutators -/

/-- A change of the phase that the version does not show. -/
theorem not_witnessed {st st' : EngineState} (changed : ¬ SameWatched st st')
    (version : st'.stateVersion = st.stateVersion) : ¬ Witnessed st st' := by
  intro witnessed
  have rises := witnessed.rises changed
  omega

/-- `update_active_nodes` finds something to change. -/
def EngineState.NodesDiffer (nodes : Finset NodeId) (st : EngineState) : Prop :=
  st.activeNodes ≠ nodes ∨ st.hasQuorum ≠ decide (st.quorumSize ≤ nodes.card) ∨
    st.isActive ≠ decide (st.quorumSize ≤ nodes.card)

/-- `update_active_nodes` raises the version when it finds something to change. -/
theorem updateActiveNodes_rises {nodes : Finset NodeId} {st : EngineState}
    (differ : st.NodesDiffer nodes) (room : st.stateVersion + 3 < u64Size) :
    st.stateVersion < (st.updateActiveNodes nodes).stateVersion := by
  refine (versioned_updateActiveNodes nodes st room).1.rises fun same => ?_
  rcases differ with nodesDiffer | quorumDiffers | activeDiffers
  · exact nodesDiffer (same.activeNodes.symm.trans (st.updateActiveNodes_activeNodes nodes))
  · exact quorumDiffers (same.hasQuorum.symm.trans (st.updateActiveNodes_hasQuorum nodes))
  · exact activeDiffers (same.isActive.symm.trans (st.updateActiveNodes_isActive nodes))

theorem updateActiveNodes_eq_self {nodes : Finset NodeId} {st : EngineState}
    (same : ¬ st.NodesDiffer nodes) : st.updateActiveNodes nodes = st := by
  simp only [EngineState.NodesDiffer, not_or] at same
  obtain ⟨nodesSame, quorumSame, activeSame⟩ := same
  unfold EngineState.updateActiveNodes
  rw [if_neg nodesSame]
  have quorumKept : st.setQuorum (decide (st.quorumSize ≤ nodes.card)) = st := if_neg quorumSame
  show (st.setQuorum _).setActive _ = st
  rw [quorumKept]
  exact if_neg activeSame

/-- The persisted counters are the engine's own. -/
def SameAsPersisted (persisted : PersistedState) (st : EngineState) : Prop :=
  persisted.currentPhase = st.currentPhase ∧ persisted.lastCommittedPhase = st.lastCommittedPhase

theorem witnessed_restoreCounters_iff (persisted : PersistedState) (st : EngineState) :
    Witnessed st (st.restoreCounters persisted) ↔ SameAsPersisted persisted st := by
  constructor
  · intro witnessed
    by_contra differ
    have changed : ¬ SameWatched st (st.restoreCounters persisted) :=
      fun same => differ ⟨same.currentPhase, same.lastCommittedPhase⟩
    exact not_witnessed changed rfl witnessed
  · rintro ⟨phase, mark⟩
    exact witnessed_of_same ⟨phase, mark, rfl, rfl, rfl, rfl, rfl⟩ rfl

/-- The restored counters show as soon as `update_active_nodes` has something to change. -/
theorem witnessed_restore_iff {nodes : Finset NodeId} {persisted : PersistedState}
    {st : EngineState} (room : st.stateVersion + 4 < u64Size) :
    Witnessed st ((st.restoreCounters persisted).updateActiveNodes nodes) ↔
      SameAsPersisted persisted st ∨ st.NodesDiffer nodes := by
  by_cases differ : st.NodesDiffer nodes
  · have differ' : (st.restoreCounters persisted).NodesDiffer nodes := differ
    have room' : (st.restoreCounters persisted).stateVersion + 3 < u64Size := by
      show st.stateVersion + 3 < u64Size
      omega
    have raised : st.stateVersion <
        ((st.restoreCounters persisted).updateActiveNodes nodes).stateVersion :=
      updateActiveNodes_rises differ' room'
    exact iff_of_true ⟨raised.le, fun _ => raised⟩ (Or.inr differ)
  · have same : (st.restoreCounters persisted).updateActiveNodes nodes =
        st.restoreCounters persisted := updateActiveNodes_eq_self differ
    rw [same, witnessed_restoreCounters_iff]
    simp [differ]

namespace Engine

variable {SM : Type} [StateMachine SM]

/-- The state machine accepts the persisted snapshot, if there is one. -/
def Accepts (persisted : PersistedState) (stateMachine : SM) : Prop :=
  ∀ snapshot, persisted.snapshot = some snapshot →
    (StateMachine.restoreSnapshot stateMachine snapshot).1 = .ok ()

/-- The counters that `initialize` restores are the engine's own, or the start goes through
and `update_active_nodes` has something to change. -/
def RestoreShows (env : Env) (e : RabiaEngine SM) : Prop :=
  env.load = .ok () → ∀ persisted, e.persistence = some persisted →
    SameAsPersisted persisted e.engineState ∨
      Accepts persisted e.stateMachine ∧
        ∃ nodes, env.connectedNodes = .ok nodes ∧ e.engineState.NodesDiffer nodes

theorem restoreShows_iff {env : Env} {e : RabiaEngine SM} {persisted : PersistedState}
    (load : env.load = .ok ()) (persistence : e.persistence = some persisted) :
    RestoreShows env e ↔ SameAsPersisted persisted e.engineState ∨
      Accepts persisted e.stateMachine ∧
        ∃ nodes, env.connectedNodes = .ok nodes ∧ e.engineState.NodesDiffer nodes := by
  constructor
  · intro shows
    exact shows load persisted persistence
  · intro shows _ persisted' persistence'
    rw [← Option.some.inj (persistence.symm.trans persistence')]
    exact shows

theorem restoreShows_of_none {env : Env} {e : RabiaEngine SM} (nothing : e.persistence = none) :
    RestoreShows env e := by
  intro _ persisted persistence
  rw [nothing] at persistence
  cases persistence

/-- What `initialize` has restored by the time it looks who is connected. -/
theorem restored_cases {e e' : RabiaEngine SM} (restored : Restored e e') :
    (e.persistence = none ∧ e'.engineState = e.engineState) ∨
      ∃ persisted, e.persistence = some persisted ∧ Accepts persisted e.stateMachine ∧
        e'.engineState = e.engineState.restoreCounters persisted := by
  cases restored with
  | nothing persistence => exact Or.inl ⟨persistence, rfl⟩
  | @counters persisted persistence bare =>
      refine Or.inr ⟨persisted, persistence, fun snapshot attached => ?_, rfl⟩
      rw [bare] at attached
      cases attached
  | @snapshot persisted snapshot sm persistence attached tried =>
      refine Or.inr ⟨persisted, persistence, fun snapshot' attached' => ?_, rfl⟩
      rw [← Option.some.inj (attached.symm.trans attached'), tried]

theorem witnessed_initialize_iff (env : Env) {e : RabiaEngine SM}
    (room : e.engineState.stateVersion + 4 < u64Size) :
    Witnessed e.engineState (initializeEngine env e).state.engineState ↔ RestoreShows env e := by
  have startup := initialize_cases env e
  generalize initializeEngine env e = outcome at startup ⊢
  cases startup with
  | unread load =>
      refine iff_of_true (witnessed_of_same (SameWatched.refl _) rfl) fun loaded => ?_
      rw [load] at loaded
      cases loaded
  | @refused persisted snapshot err sm load persistence attached tried =>
      have refuses : ¬ Accepts persisted e.stateMachine := by
        intro accepts
        have accepted := accepts snapshot attached
        rw [tried] at accepted
        cases accepted
      rw [restoreShows_iff load persistence]
      simp only [refuses, false_and, or_false]
      exact witnessed_restoreCounters_iff persisted e.engineState
  | @unconnected e' err load restored connected =>
      rcases restored_cases restored with ⟨nothing, same⟩ | ⟨persisted, persistence, -, counters⟩
      · rw [same]
        exact iff_of_true (witnessed_of_same (SameWatched.refl _) rfl)
          (restoreShows_of_none nothing)
      · rw [restoreShows_iff load persistence, connected, counters]
        simp only [reduceCtorEq, false_and, exists_false, and_false, or_false]
        exact witnessed_restoreCounters_iff persisted e.engineState
  | @started e' nodes load restored connected =>
      show Witnessed _ (e'.engineState.updateActiveNodes nodes) ↔ _
      rcases restored_cases restored with
        ⟨nothing, same⟩ | ⟨persisted, persistence, accepts, counters⟩
      · rw [same]
        have versioned := versioned_updateActiveNodes nodes e.engineState (by omega)
        exact iff_of_true versioned.1 (restoreShows_of_none nothing)
      · rw [restoreShows_iff load persistence, connected, counters, witnessed_restore_iff room]
        simp [accepts]

/-- A sync response is witnessed unless it completes a quorum with a response that is
ahead. -/
theorem witnessed_handleSyncResponse_iff (env : Env) (sender : NodeId)
    (response : SyncResponseMessage) (e : RabiaEngine SM) :
    Witnessed e.engineState (handleSyncResponse env sender response e).state.engineState ↔
      (e.engineState.quorumSize ≤
          Table.size (e.engineState.syncResponses.insert sender response) →
        aheadResponse env e (e.engineState.syncResponses.insert sender response) = none) := by
  let responses := e.engineState.syncResponses.insert sender response
  let stored := e.mapState (EngineState.addSyncResponse sender response)
  have kept : SameWatched e.engineState stored.engineState := ⟨rfl, rfl, rfl, rfl, rfl, rfl, rfl⟩
  by_cases quorum : e.engineState.quorumSize ≤ Table.size responses
  · have moves {latest : SyncResponseMessage} {st' : EngineState}
        (found : aheadResponse env stored responses = some latest)
        (phase : st'.currentPhase = latest.responderPhase)
        (version : st'.stateVersion = e.engineState.stateVersion) :
        Witnessed e.engineState st' ↔ aheadResponse env e responses = none := by
      have ahead := (aheadResponse_eq_some.mp found).2
      have changed : ¬ SameWatched e.engineState st' := by
        intro same
        rw [← phase, same.currentPhase] at ahead
        exact absurd ahead (Nat.lt_irrefl _)
      have found' : aheadResponse env e responses = some latest := found
      rw [found']
      simp [not_witnessed changed version]
    rw [handleSyncResponse_of_quorum env sender response quorum, imp_iff_right quorum]
    have resolution := resolveSync_cases env responses stored
    change Witnessed _ (resolveSync env responses stored).state.engineState ↔ _
    generalize resolveSync env responses stored = outcome at resolution ⊢
    cases resolution with
    | level none =>
        refine iff_of_true (witnessed_of_same ?_ rfl) none
        exact ⟨rfl, rfl, rfl, rfl, rfl, rfl, rfl⟩
    | moved found => exact moves found rfl rfl
    | restored found => exact moves found rfl rfl
    | refused found => exact moves found rfl rfl
  · have waits := handleSyncResponse_of_no_quorum env sender response quorum
    rw [waits]
    refine iff_of_true (witnessed_of_same kept rfl) fun enough => absurd enough quorum

/-- A step of an engine: its start, or an event. -/
inductive EngineStep where
  | start
  | event (event : Event)

/-- The code of a step. -/
def perform (env : Env) : EngineStep → EngineM SM Unit
  | .start => initializeEngine env
  | .event event => handle env event

/-- The step does not store a phase counter behind the version's back: it is no sync
response that makes `resolve_sync` move the phase, and no start that restores other counters
without more to show for it. -/
def Shown (env : Env) (e : RabiaEngine SM) : EngineStep → Prop
  | .start => RestoreShows env e
  | .event event => ∀ sender response,
      arrival env event = some (sender, .syncResponse response) →
        e.engineState.quorumSize ≤
            Table.size (e.engineState.syncResponses.insert sender response) →
          ∀ latest,
            latestResponse env (e.engineState.syncResponses.insert sender response) = some latest →
              latest.responderPhase ≤ e.engineState.currentPhase

omit [StateMachine SM] in
theorem aheadResponse_eq_none {env : Env} {e : RabiaEngine SM}
    {responses : Table NodeId SyncResponseMessage} :
    aheadResponse env e responses = none ↔
      ∀ latest, latestResponse env responses = some latest →
        latest.responderPhase ≤ e.engineState.currentPhase := by
  simp [aheadResponse, Option.filter_eq_none_iff]

/-- A step that needs at most four increments has the version witness every change exactly
when it stores no counter behind the version's back. -/
theorem witnessed_iff (env : Env) (step : EngineStep) (e : RabiaEngine SM)
    (room : e.engineState.stateVersion + 4 < u64Size) :
    Witnessed e.engineState (perform env step e).state.engineState ↔ Shown env e step := by
  cases step with
  | start => exact witnessed_initialize_iff env room
  | event event =>
      by_cases arrives : ∃ (sender : NodeId) (response : SyncResponseMessage),
          arrival env event = some (sender, .syncResponse response)
      · obtain ⟨sender, response, arrived⟩ := arrives
        obtain ⟨message, rfl, received⟩ := received_of_arrival arrived
        show Witnessed _ (handle env (.message sender message) e).state.engineState ↔ _
        rw [handle_of_received received]
        refine (witnessed_handleSyncResponse_iff env sender response e).trans ?_
        rw [aheadResponse_eq_none]
        constructor
        · intro shown sender' response' arrived' quorum
          cases Option.some.inj (arrived.symm.trans arrived')
          exact shown quorum
        · intro shown quorum
          exact shown sender response arrived quorum
      · have other : ∀ sender m, arrival env event ≠ some (sender, .syncResponse m) :=
          fun sender m arrived => arrives ⟨sender, m, arrived⟩
        refine iff_of_true (respected_handle respected_versioned env other e room).1 ?_
        intro sender response arrived
        exact absurd arrived (other sender response)

theorem witnessed_iff_advance :
    Witnessed (threeNodes 0).engineState
      (perform {} (.event (.command .forcePhaseAdvance)) (threeNodes 0)).state.engineState := by
  refine (witnessed_iff {} _ (threeNodes 0) (by decide)).mpr ?_
  intro sender response arrived
  cases arrived

/-- Node 0, with a stored response of node 2. -/
def oneResponse : RabiaEngine ByteLog :=
  (threeNodes 0).mapState (EngineState.addSyncResponse ⟨2⟩ ⟨0, 1, none, [], []⟩)

/-- The answer of node 1, which is in phase 7. -/
def fromPhaseSeven : Event :=
  .message ⟨1⟩ (ProtocolMessage.syncResponse ⟨1⟩ ⟨0⟩ 0 ⟨7, 9, none, [], []⟩)

/-- The phase goes from 0 to 7, and the version stays 1. -/
theorem phase_moves_unversioned :
    let e' := (perform {} (.event fromPhaseSeven) oneResponse).state
    ¬ Witnessed oneResponse.engineState e'.engineState ∧ e'.engineState.currentPhase = 7 ∧
      e'.engineState.stateVersion = oneResponse.engineState.stateVersion := by
  refine ⟨fun witnessed => ?_, by decide +kernel, by decide +kernel⟩
  have rises := witnessed.rises fun same => absurd same.currentPhase (by decide +kernel)
  revert rises
  decide +kernel

end Engine

end Rabia
