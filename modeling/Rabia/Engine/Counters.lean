import Rabia.Engine.Deeds

/-!
# The phase counters

`current_phase` and `last_committed_phase` under every event. Five operations
move them: `advance_phase` (a proposal or a forced advance), `commit_phase`,
`resolve_sync`, and, at the start of a process, `initialize`.

* `Climbs` — neither counter falls, the commit mark stays at or below the current
  phase, and so do the two phases that `save_state` writes;
* `climbs_of_handle` — every event climbs, up to the wrap of the `u64` that
  `advance_phase` adds to;
* `proposed_of_deed` — a proposal is for the phase that the counter then shows.
-/

namespace Rabia

open Rabia.Lib Rabia.Lib.Proc

/-- The heartbeat in an effect. -/
def Effect.heartBeat : Effect → Option HeartBeatMessage
  | .sendTo _ message | .broadcast message =>
    match message.messageType with
    | .heartBeat heartbeat => some heartbeat
    | _ => none
  | _ => none

/-- The answer to a client's request in an effect, with the channel it goes to. -/
def Effect.answer : Effect → Option (Nat × Except RabiaError (List Bytes))
  | .respond responseTx result => some (responseTx, result)
  | _ => none

/-- Neither a heartbeat nor an answer. -/
def Effect.Routine (x : Effect) : Prop := x.heartBeat = none ∧ x.answer = none

/-- The phases that were proposed in, in order. -/
def proposedPhases (trace : List Effect) : List PhaseId :=
  trace.filterMap fun x =>
    match x.utterance with
    | some (.proposal p _ _) => some p
    | _ => none

theorem proposedPhases_append (w w' : List Effect) :
    proposedPhases (w ++ w') = proposedPhases w ++ proposedPhases w' := List.filterMap_append

theorem proposedPhases_of_silent {w : List Effect} (h : ∀ x ∈ w, x.utterance = none) :
    proposedPhases w = [] := by
  unfold proposedPhases
  rw [List.filterMap_eq_nil_iff]
  intro x hx
  rw [h x hx]

namespace Engine

variable {SM : Type}

/-- Neither counter fell, nothing put the commit mark above the current phase, in
memory or in what was saved, and neither a heartbeat nor an answer was sent. -/
structure Climbs (e : RabiaEngine SM) (w : List Effect) (e' : RabiaEngine SM) : Prop where
  currentPhase : e.engineState.currentPhase ≤ e'.engineState.currentPhase
  mark : e.engineState.lastCommittedPhase ≤ e'.engineState.lastCommittedPhase
  behind : e.engineState.lastCommittedPhase ≤ e.engineState.currentPhase →
    e'.engineState.lastCommittedPhase ≤ e'.engineState.currentPhase
  saved : e.engineState.lastCommittedPhase ≤ e.engineState.currentPhase →
    ∀ persisted, e'.persistence = some persisted →
      e.persistence = some persisted ∨ persisted.lastCommittedPhase ≤ persisted.currentPhase
  routine : ∀ x ∈ w, x.Routine

theorem climbs_path : Path (@Climbs SM) where
  nil e := ⟨Nat.le_refl _, Nat.le_refl _, id, fun _ _ h => Or.inl h,
    fun _ hx => absurd hx List.not_mem_nil⟩
  append h h' := by
    refine ⟨Nat.le_trans h.currentPhase h'.currentPhase, Nat.le_trans h.mark h'.mark,
      fun behind => h'.behind (h.behind behind), ?_, ?_⟩
    · intro behind persisted there
      rcases h'.saved (h.behind behind) persisted there with before | ordered
      · exact h.saved behind persisted before
      · exact Or.inr ordered
    · intro x hx
      rcases List.mem_append.mp hx with hx | hx
      · exact h.routine x hx
      · exact h'.routine x hx

/-! ## The steps of a handler -/

/-- A write to the state that leaves both counters alone. -/
def SameCounters (st st' : EngineState) : Prop :=
  st'.currentPhase = st.currentPhase ∧ st'.lastCommittedPhase = st.lastCommittedPhase

theorem climbs_of_same {e e' : RabiaEngine SM} {w : List Effect}
    (same : SameCounters e.engineState e'.engineState)
    (persistence : e'.persistence = e.persistence) (routine : ∀ x ∈ w, x.Routine) :
    Climbs e w e' := by
  refine ⟨same.1.ge, same.2.ge, fun behind => ?_, fun _ persisted there => ?_, routine⟩
  · rw [same.1, same.2]
    exact behind
  · rw [persistence] at there
    exact Or.inl there

theorem climbs_silent {e e' : RabiaEngine SM} (same : SameCounters e.engineState e'.engineState)
    (persistence : e'.persistence = e.persistence) : Climbs e [] e' :=
  climbs_of_same same persistence fun _ hx => absurd hx List.not_mem_nil

theorem climbs_modifyState {f : EngineState → EngineState} (h : ∀ st, SameCounters st (f st)) :
    Within Climbs (modifyState f : EngineM SM Unit) :=
  fun e => climbs_silent (h e.engineState) rfl

theorem climbs_readState {α : Type} (f : EngineState → α) :
    Within Climbs (readState f : EngineM SM α) := Within.read climbs_path _

theorem climbs_emit {x : Effect} (h : x.Routine) :
    Within Climbs (emit x : EngineM SM Unit) := by
  intro e
  refine climbs_of_same ⟨rfl, rfl⟩ rfl fun y hy => ?_
  rw [List.mem_singleton.mp hy]
  exact h

theorem climbs_sendTo (env : Env) (target : NodeId) {message : ProtocolMessage}
    (h : (Effect.sendTo target message).heartBeat = none) :
    Within Climbs (sendTo env target message : EngineM SM Unit) :=
  Within.bind climbs_path (climbs_emit ⟨h, rfl⟩) fun _ => Within.ofExcept climbs_path _

theorem climbs_broadcast (env : Env) {message : ProtocolMessage}
    (h : (Effect.broadcast message).heartBeat = none) :
    Within Climbs (broadcast env message : EngineM SM Unit) :=
  Within.bind climbs_path (climbs_emit ⟨h, rfl⟩) fun _ => Within.ofExcept climbs_path _

theorem sameCounters_updatePhase (p : PhaseId) (f : PhaseData → PhaseData) (st : EngineState) :
    SameCounters st (st.updatePhase p f) :=
  ⟨EngineState.updatePhase_currentPhase p f st, EngineState.updatePhase_lastCommittedPhase p f st⟩

theorem climbs_updatePhase (p : PhaseId) (f : PhaseData → PhaseData) :
    Within Climbs (updatePhase p f : EngineM SM Unit) :=
  climbs_modifyState (sameCounters_updatePhase p f)

theorem sameCounters_setActive (active : Bool) (st : EngineState) :
    SameCounters st (st.setActive active) := by
  unfold EngineState.setActive
  split <;> exact ⟨rfl, rfl⟩

theorem sameCounters_updateActiveNodes (nodes : Finset NodeId) (st : EngineState) :
    SameCounters st (st.updateActiveNodes nodes) := by
  unfold EngineState.updateActiveNodes EngineState.setQuorum EngineState.setActive
  dsimp only
  split_ifs <;> exact ⟨rfl, rfl⟩

theorem sameCounters_getOrCreatePhase (p : PhaseId) (now : Nat) (st : EngineState) :
    SameCounters st (st.getOrCreatePhase p now) := by
  unfold EngineState.getOrCreatePhase
  split <;> exact ⟨rfl, rfl⟩

theorem sameCounters_cleanupOldPhases (maxPhaseHistory now : Nat) (st : EngineState) :
    SameCounters st (st.cleanupOldPhases maxPhaseHistory now) := by
  unfold EngineState.cleanupOldPhases
  dsimp only
  split <;> exact ⟨rfl, rfl⟩

theorem sameCounters_cleanupOldPendingBatches (maxAgeSecs now : Nat) (st : EngineState) :
    SameCounters st (st.cleanupOldPendingBatches maxAgeSecs now) := by
  unfold EngineState.cleanupOldPendingBatches
  dsimp only
  split <;> exact ⟨rfl, rfl⟩

theorem sameCounters_removePendingBatch (batchId : BatchId) (st : EngineState) :
    SameCounters st (st.removePendingBatch batchId) := by
  unfold EngineState.removePendingBatch
  split <;> exact ⟨rfl, rfl⟩

/-- `commit_phase` moves the mark to a phase that is not ahead, or not at all. -/
theorem climbs_commitPhase (p : PhaseId) : Within Climbs (commitPhase p : EngineM SM Bool) := by
  intro e
  rw [commitPhase_apply]
  rcases Nat.lt_or_ge e.engineState.currentPhase p with ahead | current
  · obtain ⟨-, same⟩ := EngineState.commitPhase_of_lt ahead
    rw [RabiaEngine.mapState_of_eq same]
    exact climbs_path.nil e
  · obtain ⟨-, mark⟩ := EngineState.commitPhase_of_le current
    have phase := EngineState.commitPhase_currentPhase p e.engineState
    refine ⟨phase.ge, ?_, fun behind => ?_, fun _ _ there => Or.inl there,
      fun _ hx => absurd hx List.not_mem_nil⟩
    · show e.engineState.lastCommittedPhase ≤ (e.engineState.commitPhase p).2.lastCommittedPhase
      rw [mark]
      exact Nat.le_max_left _ _
    · show (e.engineState.commitPhase p).2.lastCommittedPhase ≤
        (e.engineState.commitPhase p).2.currentPhase
      rw [mark, phase]
      exact Nat.max_le.mpr ⟨behind, current⟩

section Calls

variable [StateMachine SM]

theorem climbs_createSnapshot : Within Climbs (createSnapshot : EngineM SM Snapshot) :=
  Within.bind climbs_path (Within.read climbs_path _) fun _ => Within.ofExcept climbs_path _

theorem climbs_restoreSnapshot (snapshot : Snapshot) :
    Within Climbs (restoreSnapshot snapshot : EngineM SM Unit) := by
  refine Within.bind climbs_path (Within.read climbs_path _) fun _ => ?_
  refine Within.bind climbs_path ?_ fun _ => Within.ofExcept climbs_path _
  exact fun e => climbs_silent ⟨rfl, rfl⟩ rfl

theorem climbs_applyCommands (commands : List Command) :
    Within Climbs (applyCommands commands : EngineM SM (List Bytes)) := by
  refine Within.bind climbs_path (Within.read climbs_path _) fun _ => ?_
  refine Within.bind climbs_path ?_ fun _ => Within.ofExcept climbs_path _
  exact fun e => climbs_silent ⟨rfl, rfl⟩ rfl

/-- `save_state` writes the two counters as they stand. -/
theorem saveState_persistence (env : Env) (e : RabiaEngine SM) :
    (saveState env e).state.persistence = e.persistence ∨
      ∃ snapshot, (saveState env e).state.persistence =
        some ⟨e.engineState.currentPhase, e.engineState.lastCommittedPhase, snapshot⟩ := by
  have snapshot : createSnapshot e =
      (⟨StateMachine.createSnapshot e.stateMachine, e, []⟩ :
        Outcome RabiaError (RabiaEngine SM) Effect Snapshot) := rfl
  unfold saveState readState
  rw [read_bind, read_bind]
  cases taken : StateMachine.createSnapshot e.stateMachine with
  | error err =>
      rw [taken] at snapshot
      rw [bind_error snapshot]
      exact Or.inl rfl
  | ok value =>
      rw [taken] at snapshot
      rw [bind_ok snapshot]
      cases env.save with
      | error err =>
          rw [bind_error (ofExcept_apply _ _)]
          exact Or.inl rfl
      | ok _ =>
          rw [bind_ok (ofExcept_apply _ _)]
          exact Or.inr ⟨some value, rfl⟩

theorem climbs_saveState (env : Env) : Within Climbs (saveState env : EngineM SM Unit) := by
  intro e
  obtain ⟨⟨persisted, state⟩, effects⟩ := saveState_spec env e
  rw [effects]
  refine ⟨?_, ?_, ?_, ?_, fun _ hx => absurd hx List.not_mem_nil⟩
  · rw [state]
  · rw [state]
  · rw [state]
    exact id
  · intro behind persisted' there
    rcases saveState_persistence env e with same | ⟨snapshot, written⟩
    · rw [same] at there
      exact Or.inl there
    · rw [written] at there
      cases there
      exact Or.inr behind

/-! ## The handlers -/

theorem climbs_applyBatch (p : PhaseId) (batch : CommandBatch) :
    Within Climbs (applyBatch p batch : EngineM SM Unit) := by
  refine Within.bind climbs_path (climbs_emit ⟨rfl, rfl⟩) fun _ => ?_
  refine Within.bind climbs_path (climbs_applyCommands _) fun _ => ?_
  exact climbs_modifyState (sameCounters_removePendingBatch _)

theorem climbs_applyAndCommit (env : Env) (p : PhaseId) (batch : CommandBatch) :
    Within Climbs (applyAndCommit env p batch : EngineM SM Unit) := by
  refine Within.bind climbs_path (climbs_applyBatch p batch) fun _ => ?_
  refine Within.bind climbs_path (climbs_commitPhase p) fun _ => ?_
  refine Within.bind climbs_path (Within.attempt (climbs_saveState env)) fun _ => ?_
  exact Within.pure climbs_path _

theorem climbs_runStored (env : Env) (p : PhaseId) :
    Within Climbs (runStored env p : EngineM SM Unit) := by
  refine Within.bind climbs_path (climbs_readState _) fun record => ?_
  cases record.bind (·.batch) with
  | none => exact Within.pure climbs_path _
  | some batch => exact climbs_applyAndCommit env p batch

omit [StateMachine SM] in
theorem climbs_announce (env : Env) (p : PhaseId) (decision : StateValue) :
    Within Climbs (announce env p decision : EngineM SM Unit) := by
  refine Within.bind climbs_path (climbs_readState _) fun record => ?_
  cases record with
  | none => exact Within.throw climbs_path _
  | some phase =>
      refine Within.bind climbs_path (Within.read climbs_path _) fun _ => ?_
      exact climbs_broadcast env rfl

theorem climbs_makeDecision (env : Env) (p : PhaseId) (decision : StateValue) :
    Within Climbs (makeDecision env p decision : EngineM SM Unit) := by
  refine Within.bind climbs_path (climbs_emit ⟨rfl, rfl⟩) fun _ => ?_
  refine Within.bind climbs_path (climbs_updatePhase _ _) fun _ => ?_
  refine Within.bind climbs_path ?_ fun _ => climbs_announce env p decision
  by_cases accepted : decision = .v1
  · rw [if_pos accepted]
    exact climbs_runStored env p
  · rw [if_neg accepted]
    exact Within.pure climbs_path _

theorem climbs_handleVoteRound2 (env : Env) (sender : NodeId) (m : VoteRound2Message) :
    Within Climbs (handleVoteRound2 env sender m : EngineM SM Unit) := by
  refine Within.bind climbs_path (climbs_updatePhase _ _) fun _ => ?_
  refine Within.bind climbs_path (climbs_readState _) fun quorumSize => ?_
  refine Within.bind climbs_path (climbs_readState _) fun record => ?_
  cases record.bind (·.hasRound2Majority quorumSize) with
  | none => exact Within.pure climbs_path _
  | some decision => exact climbs_makeDecision env m.phaseId decision

theorem climbs_handleDecision (env : Env) (sender : NodeId) (m : DecisionMessage) :
    Within Climbs (handleDecision env sender m : EngineM SM Unit) := by
  intro e
  have learned : Climbs e []
      (e.mapState (EngineState.updatePhase m.phaseId (receivedDecision m))) :=
    climbs_silent (sameCounters_updatePhase _ _ _) rfl
  rw [handleDecision_apply]
  cases decisionBatch e m with
  | none => exact learned
  | some batch =>
      have applied := climbs_applyAndCommit env m.phaseId batch
        (e.mapState (EngineState.updatePhase m.phaseId (receivedDecision m)))
      exact climbs_path.append learned applied

omit [StateMachine SM] in
theorem climbs_proceedToRound2 (env : Env) (p : PhaseId) (result : StateValue)
    (votes : Table NodeId StateValue) :
    Within Climbs (proceedToRound2 env p result votes : EngineM SM Unit) := by
  refine Within.bind climbs_path (Within.read climbs_path _) fun nodeId => ?_
  refine Within.bind climbs_path (climbs_updatePhase _ _) fun _ => ?_
  refine Within.bind climbs_path (climbs_readState _) fun record => ?_
  exact climbs_broadcast env rfl

omit [StateMachine SM] in
theorem climbs_handleVoteRound1 (env : Env) (sender : NodeId) (m : VoteRound1Message) :
    Within Climbs (handleVoteRound1 env sender m : EngineM SM Unit) := by
  refine Within.bind climbs_path (climbs_updatePhase _ _) fun _ => ?_
  refine Within.bind climbs_path (climbs_readState _) fun quorumSize => ?_
  refine Within.bind climbs_path (climbs_readState _) fun record => ?_
  cases record with
  | none => exact Within.pure climbs_path _
  | some phase =>
      dsimp only
      cases phase.hasRound1Majority quorumSize with
      | some majorityVote => exact climbs_proceedToRound2 env _ _ _
      | none =>
          dsimp only
          by_cases enough : quorumSize ≤ Table.size phase.round1Votes
          · rw [if_pos enough]
            exact climbs_proceedToRound2 env _ _ _
          · rw [if_neg enough]
            exact Within.pure climbs_path _

omit [StateMachine SM] in
theorem climbs_handlePropose (env : Env) (sender : NodeId) (m : ProposeMessage) :
    Within Climbs (handlePropose env sender m : EngineM SM Unit) := by
  refine Within.bind climbs_path (climbs_readState _) fun hasQuorum => ?_
  by_cases quorum : hasQuorum = true
  · rw [if_pos quorum]
    refine Within.bind climbs_path ?_ fun _ => ?_
    · cases m.batch with
      | none => exact Within.pure climbs_path _
      | some batch => exact climbs_modifyState fun _ => ⟨rfl, rfl⟩
    refine Within.bind climbs_path (climbs_readState _) fun record => ?_
    refine Within.bind climbs_path (climbs_updatePhase _ _) fun _ => ?_
    refine Within.bind climbs_path (Within.read climbs_path _) fun nodeId => ?_
    exact climbs_sendTo env sender rfl
  · rw [if_neg quorum]
    exact Within.pure climbs_path _

theorem climbs_handleSyncRequest (env : Env) (sender : NodeId) (request : SyncRequestMessage) :
    Within Climbs (handleSyncRequest env sender request : EngineM SM Unit) := by
  refine Within.bind climbs_path (climbs_readState _) fun currentPhase => ?_
  refine Within.bind climbs_path (climbs_readState _) fun _ => ?_
  refine Within.bind climbs_path ?_ fun _ => ?_
  · unfold snapshotIfAhead
    by_cases ahead : request.requesterPhase < currentPhase
    · rw [if_pos ahead]
      exact Within.bind climbs_path climbs_createSnapshot fun _ => Within.pure climbs_path _
    · rw [if_neg ahead]
      exact Within.pure climbs_path _
  refine Within.bind climbs_path (Within.read climbs_path _) fun _ => ?_
  exact climbs_sendTo env sender rfl

/-- `resolve_sync` stores a phase only when it is above the current one. -/
theorem climbs_resolveSync (env : Env) (responses : Table NodeId SyncResponseMessage) :
    Within Climbs (resolveSync env responses : EngineM SM Unit) := by
  refine Within.bind climbs_path ?_ fun _ => climbs_modifyState fun _ => ⟨rfl, rfl⟩
  cases latestResponse env responses with
  | none => exact Within.pure climbs_path _
  | some latest =>
      intro e
      dsimp only
      rw [readState, read_bind]
      by_cases ahead : e.engineState.currentPhase < latest.responderPhase
      · rw [if_pos ahead]
        have raised : Climbs e [] (e.mapState (EngineState.syncPhase latest.responderPhase)) :=
          ⟨ahead.le, Nat.le_refl _, fun behind => behind.trans ahead.le,
            fun _ _ there => Or.inl there, fun _ hx => absurd hx List.not_mem_nil⟩
        cases latest.stateSnapshot with
        | none => exact raised
        | some snapshot => exact climbs_path.append raised (climbs_restoreSnapshot snapshot _)
      · rw [if_neg ahead]
        exact climbs_path.nil e

theorem climbs_handleSyncResponse (env : Env) (sender : NodeId)
    (response : SyncResponseMessage) :
    Within Climbs (handleSyncResponse env sender response : EngineM SM Unit) := by
  refine Within.bind climbs_path (climbs_modifyState fun _ => ⟨rfl, rfl⟩) fun _ => ?_
  refine Within.bind climbs_path (climbs_readState _) fun responses => ?_
  refine Within.bind climbs_path (climbs_readState _) fun quorumSize => ?_
  by_cases enough : quorumSize ≤ Table.size responses
  · rw [if_pos enough]
    exact climbs_resolveSync env responses
  · rw [if_neg enough]
    exact Within.pure climbs_path _

theorem climbs_dispatch (env : Env) (sender : NodeId) (payload : MessageType) :
    Within Climbs (dispatch env sender payload : EngineM SM Unit) := by
  cases payload with
  | propose m => exact climbs_handlePropose env sender m
  | voteRound1 m => exact climbs_handleVoteRound1 env sender m
  | voteRound2 m => exact climbs_handleVoteRound2 env sender m
  | decision m => exact climbs_handleDecision env sender m
  | syncRequest m => exact climbs_handleSyncRequest env sender m
  | syncResponse m => exact climbs_handleSyncResponse env sender m
  | newBatch m => exact climbs_modifyState fun _ => ⟨rfl, rfl⟩
  | heartBeat m => exact Within.pure climbs_path _
  | quorumNotification m => exact Within.pure climbs_path _

end Calls

theorem climbs_initiateSync (env : Env) : Within Climbs (initiateSync env : EngineM SM Unit) := by
  refine Within.bind climbs_path (climbs_readState _) fun _ => ?_
  refine Within.bind climbs_path (climbs_readState _) fun _ => ?_
  refine Within.bind climbs_path (Within.read climbs_path _) fun self => ?_
  refine Within.bind climbs_path (climbs_readState _) fun activeNodes => ?_
  refine Within.forM climbs_path _ fun nodeId => ?_
  by_cases other : nodeId ≠ self
  · rw [if_pos other]
    exact climbs_sendTo env nodeId rfl
  · rw [if_neg other]
    exact Within.pure climbs_path _

/-! ## Events -/

/-- The event makes the engine advance its phase. -/
def Advances (e : RabiaEngine SM) : Event → Prop
  | .command (.processBatch _) => e.engineState.hasQuorum = true
  | .command .forcePhaseAdvance => True
  | _ => False

instance (e : RabiaEngine SM) : ∀ event, Decidable (Advances e event)
  | .command (.processBatch _) => inferInstanceAs (Decidable (_ = _))
  | .command .forcePhaseAdvance => inferInstanceAs (Decidable True)
  | .command .shutdown | .command .triggerSync | .command (.getStatistics _) | .message _ _ |
    .cleanup | .heartbeat | .networkPartition _ | .quorumLost | .quorumRestored _ |
    .clusterMembership _ | .createPhase _ => inferInstanceAs (Decidable False)

theorem advances_cases {e : RabiaEngine SM} {event : Event} (advances : Advances e event) :
    (∃ request, event = .command (.processBatch request) ∧ e.engineState.hasQuorum = true) ∨
      event = .command .forcePhaseAdvance := by
  cases event with
  | command command =>
      cases command with
      | processBatch request => exact Or.inl ⟨request, rfl, advances⟩
      | forcePhaseAdvance => exact Or.inr rfl
      | shutdown | triggerSync | getStatistics _ => cases advances
  | message _ _ | cleanup | heartbeat | networkPartition _ | quorumLost | quorumRestored _
  | clusterMembership _ | createPhase _ => cases advances

/-- Adding to the counter does not wrap it. -/
def NoWrap (e : RabiaEngine SM) (event : Event) : Prop :=
  Advances e event → e.engineState.currentPhase + 1 < u64Size

instance (e : RabiaEngine SM) (event : Event) : Decidable (NoWrap e event) :=
  inferInstanceAs (Decidable (_ → _))

theorem nextPhase_eq {e : RabiaEngine SM} (noWrap : e.engineState.currentPhase + 1 < u64Size) :
    nextPhase e = e.engineState.currentPhase + 1 := Nat.mod_eq_of_lt noWrap

/-- An advance that does not wrap climbs. -/
theorem climbs_advance {e e' : RabiaEngine SM} {w : List Effect}
    (noWrap : e.engineState.currentPhase + 1 < u64Size)
    (currentPhase : e'.engineState.currentPhase = nextPhase e)
    (mark : e'.engineState.lastCommittedPhase = e.engineState.lastCommittedPhase)
    (persistence : e'.persistence = e.persistence) (routine : ∀ x ∈ w, x.Routine) :
    Climbs e w e' := by
  rw [nextPhase_eq noWrap] at currentPhase
  refine ⟨?_, mark.ge, fun behind => ?_, fun _ persisted there => ?_, routine⟩
  · rw [currentPhase]
    exact Nat.le_succ _
  · rw [currentPhase, mark]
    exact behind.trans (Nat.le_succ _)
  · rw [persistence] at there
    exact Or.inl there

/-- A proposal: the counter shows its phase, and the rest is as it was. -/
theorem processBatchRequest_spec (env : Env) (request : CommandRequest) {e : RabiaEngine SM}
    (quorum : e.engineState.hasQuorum = true) :
    (processBatchRequest env request e).state.engineState.currentPhase = nextPhase e ∧
      (processBatchRequest env request e).state.engineState.lastCommittedPhase =
        e.engineState.lastCommittedPhase ∧
      (processBatchRequest env request e).state.persistence = e.persistence ∧
      (processBatchRequest env request e).effects = [proposal env e request.batch] := by
  unfold processBatchRequest
  rw [readState, read_bind, if_pos quorum]
  refine ⟨?_, ?_, rfl, rfl⟩
  · exact EngineState.updatePhase_currentPhase _ _ _
  · exact EngineState.updatePhase_lastCommittedPhase _ _ _

section Events

variable [StateMachine SM]

/-- The event makes the engine neither send a heartbeat nor turn a request down. -/
structure Plain (e : RabiaEngine SM) (event : Event) : Prop where
  notBeat : event ≠ .heartbeat
  notDeclined : ∀ request, event = .command (.processBatch request) →
    e.engineState.hasQuorum = true

omit [StateMachine SM] in
theorem climbs_handleCommand {env : Env} {command : EngineCommand} {e : RabiaEngine SM}
    (noWrap : NoWrap e (.command command)) (plain : Plain e (.command command)) :
    Climbs e (handleCommand env command e).effects (handleCommand env command e).state := by
  cases command with
  | processBatch request =>
      have quorum := plain.notDeclined request rfl
      obtain ⟨currentPhase, mark, persistence, effects⟩ :=
        processBatchRequest_spec env request quorum
      refine climbs_advance (noWrap quorum) currentPhase mark persistence fun x hx => ?_
      have same : x = proposal env e request.batch := List.mem_singleton.mp (effects ▸ hx)
      rw [same]
      exact ⟨rfl, rfl⟩
  | shutdown => exact climbs_path.nil e
  | forcePhaseAdvance =>
      exact climbs_advance (noWrap trivial) rfl rfl rfl fun _ hx => absurd hx List.not_mem_nil
  | triggerSync => exact climbs_initiateSync env e
  | getStatistics responseTx =>
      refine climbs_of_same ⟨rfl, rfl⟩ rfl fun x hx => ?_
      rw [List.mem_singleton.mp hx]
      exact ⟨rfl, rfl⟩

/-- Every plain event climbs, unless the counter wraps. -/
theorem climbs_of_handle (env : Env) {event : Event} {e : RabiaEngine SM}
    (noWrap : NoWrap e event) (plain : Plain e event) :
    Climbs e (handle env event e).effects (handle env event e).state := by
  cases event with
  | message sender message =>
      by_cases received : Received env sender message message.messageType
      · rw [handle_of_received received]
        exact climbs_dispatch env sender message.messageType e
      · obtain ⟨state, effects⟩ := handle_of_not_received received e
        rw [state, effects]
        exact climbs_path.nil e
  | command command => exact climbs_handleCommand noWrap plain
  | cleanup =>
      have phases := sameCounters_cleanupOldPhases e.config.maxPhaseHistory env.now e.engineState
      have pending := sameCounters_cleanupOldPendingBatches 300 env.now
        (e.engineState.cleanupOldPhases e.config.maxPhaseHistory env.now)
      exact climbs_silent ⟨pending.1.trans phases.1, pending.2.trans phases.2⟩ rfl
  | heartbeat => exact absurd rfl plain.notBeat
  | networkPartition activeNodes =>
      exact climbs_silent (sameCounters_updateActiveNodes activeNodes e.engineState) rfl
  | quorumLost => exact climbs_silent (sameCounters_setActive false e.engineState) rfl
  | quorumRestored activeNodes =>
      have nodes := sameCounters_updateActiveNodes activeNodes e.engineState
      have active := sameCounters_setActive true (e.engineState.updateActiveNodes activeNodes)
      exact climbs_silent ⟨active.1.trans nodes.1, active.2.trans nodes.2⟩ rfl
  | clusterMembership nodes =>
      exact climbs_silent (sameCounters_updateActiveNodes nodes e.engineState) rfl
  | createPhase p =>
      exact climbs_silent (sameCounters_getOrCreatePhase p env.now e.engineState) rfl

/-- The heartbeat that an engine sends. -/
def beat (e : RabiaEngine SM) : HeartBeatMessage where
  currentPhase := e.engineState.currentPhase
  lastCommittedPhase := e.engineState.lastCommittedPhase
  active := e.engineState.isActive

theorem handle_heartbeat (env : Env) (e : RabiaEngine SM) :
    (handle env .heartbeat e).state = e ∧
      (handle env .heartbeat e).effects =
        [.broadcast (ProtocolMessage.heartBeat e.nodeId env.now (beat e))] := ⟨rfl, rfl⟩

/-- The answer to a request that is turned down. -/
def refusal (e : RabiaEngine SM) : Except RabiaError (List Bytes) :=
  .error (.quorumNotAvailable e.engineState.activeNodes.card e.engineState.quorumSize)

theorem handle_declined (env : Env) (request : CommandRequest) {e : RabiaEngine SM}
    (noQuorum : ¬ e.engineState.hasQuorum = true) :
    (handle env (.command (.processBatch request)) e).state = e ∧
      (handle env (.command (.processBatch request)) e).effects =
        [.respond request.responseTx (refusal e)] := by
  show (processBatchRequest env request e).state = e ∧
    (processBatchRequest env request e).effects = _
  unfold processBatchRequest
  rw [readState, read_bind, if_neg noQuorum]
  exact ⟨rfl, rfl⟩

omit [StateMachine SM] in
/-- An event is a heartbeat, a request that is turned down, or plain. -/
theorem plain_cases (e : RabiaEngine SM) (event : Event) :
    event = .heartbeat ∨
      (∃ request, event = .command (.processBatch request) ∧
        ¬ e.engineState.hasQuorum = true) ∨ Plain e event := by
  by_cases beats : event = .heartbeat
  · exact Or.inl beats
  · by_cases declined : ∃ request, event = .command (.processBatch request) ∧
      ¬ e.engineState.hasQuorum = true
    · exact Or.inr (Or.inl declined)
    · refine Or.inr (Or.inr ⟨beats, fun request same => ?_⟩)
      by_contra noQuorum
      exact declined ⟨request, same, noQuorum⟩

/-- The counters never fall, unless the current phase wraps. -/
theorem counters_le_handle {env : Env} {event : Event} {e : RabiaEngine SM}
    (noWrap : NoWrap e event) :
    e.engineState.currentPhase ≤ (handle env event e).state.engineState.currentPhase ∧
      e.engineState.lastCommittedPhase ≤
        (handle env event e).state.engineState.lastCommittedPhase := by
  rcases plain_cases e event with rfl | ⟨request, rfl, noQuorum⟩ | plain
  · rw [(handle_heartbeat env e).1]
    exact ⟨Nat.le_refl _, Nat.le_refl _⟩
  · rw [(handle_declined _ _ noQuorum).1]
    exact ⟨Nat.le_refl _, Nat.le_refl _⟩
  · have climbs := climbs_of_handle env noWrap plain
    exact ⟨climbs.currentPhase, climbs.mark⟩

/-- A plain event sends neither a heartbeat nor an answer. -/
theorem routine_of_plain {env : Env} {event : Event} {e : RabiaEngine SM} (plain : Plain e event)
    {x : Effect} (hx : x ∈ (handle env event e).effects) : x.Routine := by
  by_cases advances : Advances e event
  · rcases advances_cases advances with ⟨request, rfl, quorum⟩ | rfl
    · have effects := (processBatchRequest_spec env request quorum).2.2.2
      have same : x = proposal env e request.batch := List.mem_singleton.mp (effects ▸ hx)
      rw [same]
      exact ⟨rfl, rfl⟩
    · cases hx
  · exact (climbs_of_handle _ (fun h => absurd h advances) plain).routine x hx

/-- An event proposes in no phase, or in the one that the counter shows after it. -/
theorem proposed_of_deed {env : Env} {event : Event} {e e' : RabiaEngine SM} {w : List Effect}
    (deed : Deed env e event e' w) :
    proposedPhases w = [] ∨ Advances e event ∧ proposedPhases w = [nextPhase e] := by
  cases deed with
  | aside _ aside => exact Or.inl (proposedPhases_of_silent aside.effects)
  | proposed quorum _ _ => exact Or.inr ⟨quorum, rfl⟩
  | executed _ _ _ _ _ _ said => rcases said with rfl | rfl <;> exact Or.inl rfl
  | created _ _ _ _ | cleaned _ _ _ _ | answered _ _ _ _ | counted _ _ _ _ | cast _ _ _ _ _ _
  | tallied _ _ _ _ | decided _ _ _ _ _ _ | learned _ _ _ _ | adopted _ _ _ _ _ _ =>
      exact Or.inl rfl

theorem currentPhase_of_advances {env : Env} {event : Event} {e : RabiaEngine SM}
    (advances : Advances e event) :
    (handle env event e).state.engineState.currentPhase = nextPhase e := by
  rcases advances_cases advances with ⟨request, rfl, quorum⟩ | rfl
  · exact (processBatchRequest_spec _ _ quorum).1
  · rfl

end Events

end Engine

end Rabia
