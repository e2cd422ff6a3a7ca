import Rabia.Engine.Apply
import Rabia.Engine.Run

/-!
# The mutators of the engine state

Apart from the synchronisation code, which writes two fields directly, every handler
changes `engine_state` through its methods. A relation that each of these methods keeps to
is kept to by every event other than a received sync response (`Respected.handle`). The
relation may count version increments, of which one event makes at most four.
-/

namespace Rabia

open Rabia.Lib Rabia.Lib.Proc

/-- Relations between two states of an engine, graded by the number of version increments
on the way, that every mutator keeps to. -/
structure Respected (S : Nat → EngineState → EngineState → Prop) : Prop extends Graded S where
  advancePhase : ∀ st, S 1 st st.advancePhase.2
  commitPhase : ∀ phaseId st, S 1 st (st.commitPhase phaseId).2
  setActive : ∀ active st, S 1 st (st.setActive active)
  updateActiveNodes : ∀ nodes st, S 3 st (st.updateActiveNodes nodes)
  addPendingBatch : ∀ batch originator now st, S 1 st (st.addPendingBatch batch originator now)
  removePendingBatch : ∀ batchId st, S 1 st (st.removePendingBatch batchId)
  getOrCreatePhase : ∀ phaseId now st, S 1 st (st.getOrCreatePhase phaseId now)
  updatePhase : ∀ phaseId updateFn st, S 1 st (st.updatePhase phaseId updateFn)
  cleanupOldPhases : ∀ maxPhaseHistory now st, S 1 st (st.cleanupOldPhases maxPhaseHistory now)
  cleanupOldPendingBatches : ∀ maxAgeSecs now st,
    S 1 st (st.cleanupOldPendingBatches maxAgeSecs now)

namespace Engine

variable {SM : Type} {S : Nat → EngineState → EngineState → Prop}

/-- The relation between two engines that `S` is between their states. -/
def Moves (S : Nat → EngineState → EngineState → Prop) (n : Nat) (e e' : RabiaEngine SM) : Prop :=
  S n e.engineState e'.engineState

section Handlers

variable (respected : Respected S)
include respected

theorem graded_moves : Graded (@Moves SM S) where
  nil e := respected.nil e.engineState
  append h h' := respected.append h h'
  mono le h := respected.mono le h

omit respected in
theorem costs_modifyState {n : Nat} {f : EngineState → EngineState} (h : ∀ st, S n st (f st)) :
    Costs (@Moves SM S) n (modifyState f : EngineM SM Unit) :=
  fun e => h e.engineState

theorem costs_keep {α : Type} {p : EngineM SM α} (same : ∀ e, (p e).state = e) (n : Nat) :
    Costs (@Moves SM S) n p :=
  Costs.keep (graded_moves respected) same n

/-! ## The steps of a handler -/

theorem costs_updatePhase (phaseId : PhaseId) (updateFn : PhaseData → PhaseData) :
    Costs (@Moves SM S) 1 (updatePhase phaseId updateFn : EngineM SM Unit) :=
  costs_modifyState (respected.updatePhase phaseId updateFn)

theorem costs_commitPhase (phaseId : PhaseId) :
    Costs (@Moves SM S) 1 (commitPhase phaseId : EngineM SM Bool) := by
  intro e
  rw [commitPhase_apply]
  exact respected.commitPhase phaseId e.engineState

/-! ## The handlers -/

theorem costs_proposeBatch (env : Env) (batchId : BatchId) (batch : CommandBatch) :
    Costs (@Moves SM S) 2 (proposeBatch env batchId batch : EngineM SM Unit) := by
  refine Costs.bind (graded_moves respected) 1 1 ?_ fun phaseId => ?_
  · exact fun e => respected.advancePhase e.engineState
  refine Costs.bind (graded_moves respected) 1 0 (costs_updatePhase respected _ _) fun _ => ?_
  exact costs_keep respected (fun _ => rfl) 0

theorem costs_processBatchRequest (env : Env) (request : CommandRequest) :
    Costs (@Moves SM S) 3 (processBatchRequest env request : EngineM SM Unit) := by
  refine Costs.skip (graded_moves respected) (fun _ => rfl) fun hasQuorum => ?_
  by_cases quorum : hasQuorum = true
  · rw [if_pos quorum]
    refine Costs.skip (graded_moves respected) (fun _ => rfl) fun nodeId => ?_
    refine Costs.bind (graded_moves respected) 1 2 ?_ fun _ => costs_proposeBatch respected env _ _
    exact costs_modifyState (respected.addPendingBatch request.batch nodeId env.now)
  · rw [if_neg quorum]
    exact costs_keep respected (fun _ => rfl) 3

theorem costs_handlePropose (env : Env) (sender : NodeId) (m : ProposeMessage) :
    Costs (@Moves SM S) 2 (handlePropose env sender m : EngineM SM Unit) := by
  refine Costs.skip (graded_moves respected) (fun _ => rfl) fun hasQuorum => ?_
  by_cases quorum : hasQuorum = true
  · rw [if_pos quorum]
    refine Costs.bind (graded_moves respected) 1 1 ?_ fun _ => ?_
    · cases m.batch with
      | none => exact costs_keep respected (fun _ => rfl) 1
      | some batch => exact costs_modifyState (respected.addPendingBatch batch sender env.now)
    refine Costs.skip (graded_moves respected) (fun _ => rfl) fun record => ?_
    refine Costs.bind (graded_moves respected) 1 0 (costs_updatePhase respected _ _) fun _ => ?_
    exact costs_keep respected (fun _ => rfl) 0
  · rw [if_neg quorum]
    exact costs_keep respected (fun _ => rfl) 2

theorem costs_proceedToRound2 (env : Env) (p : PhaseId) (result : StateValue)
    (votes : Table NodeId StateValue) :
    Costs (@Moves SM S) 1 (proceedToRound2 env p result votes : EngineM SM Unit) := by
  refine Costs.skip (graded_moves respected) (fun _ => rfl) fun nodeId => ?_
  refine Costs.bind (graded_moves respected) 1 0 (costs_updatePhase respected _ _) fun _ => ?_
  exact costs_keep respected (fun _ => rfl) 0

theorem costs_handleVoteRound1 (env : Env) (sender : NodeId) (m : VoteRound1Message) :
    Costs (@Moves SM S) 2 (handleVoteRound1 env sender m : EngineM SM Unit) := by
  refine Costs.bind (graded_moves respected) 1 1 (costs_updatePhase respected _ _) fun _ => ?_
  refine Costs.skip (graded_moves respected) (fun _ => rfl) fun quorumSize => ?_
  refine Costs.skip (graded_moves respected) (fun _ => rfl) fun record => ?_
  cases record with
  | none => exact costs_keep respected (fun _ => rfl) 1
  | some phase =>
      dsimp only
      cases phase.hasRound1Majority quorumSize with
      | some majorityVote => exact costs_proceedToRound2 respected env _ _ _
      | none =>
          dsimp only
          by_cases enough : quorumSize ≤ Table.size phase.round1Votes
          · rw [if_pos enough]
            exact costs_proceedToRound2 respected env _ _ _
          · rw [if_neg enough]
            exact costs_keep respected (fun _ => rfl) 1

section Calls

variable [StateMachine SM]

theorem costs_applyBatch (p : PhaseId) (batch : CommandBatch) :
    Costs (@Moves SM S) 1 (applyBatch p batch : EngineM SM Unit) := by
  refine Costs.skip (graded_moves respected) (fun _ => rfl) fun _ => ?_
  refine Costs.bind (graded_moves respected) 0 1 ?_ fun _ => ?_
  · exact fun e => respected.nil e.engineState
  · exact costs_modifyState (respected.removePendingBatch batch.id)

theorem costs_saveState (env : Env) :
    Costs (@Moves SM S) 0 (saveState env : EngineM SM Unit) := by
  intro e
  obtain ⟨⟨persisted, state⟩, -⟩ := saveState_spec env e
  rw [state]
  exact respected.nil e.engineState

theorem costs_applyAndCommit (env : Env) (p : PhaseId) (batch : CommandBatch) :
    Costs (@Moves SM S) 2 (applyAndCommit env p batch : EngineM SM Unit) := by
  refine Costs.bind (graded_moves respected) 1 1 (costs_applyBatch respected p batch) fun _ => ?_
  refine Costs.bind (graded_moves respected) 1 0 (costs_commitPhase respected p) fun _ => ?_
  refine Costs.bind (graded_moves respected) 0 0 ?_ fun _ => costs_keep respected (fun _ => rfl) 0
  exact Costs.attempt (costs_saveState respected env)

theorem costs_makeDecision (env : Env) (p : PhaseId) (decision : StateValue) :
    Costs (@Moves SM S) 3 (makeDecision env p decision : EngineM SM Unit) := by
  refine Costs.skip (graded_moves respected) (fun _ => rfl) fun _ => ?_
  refine Costs.bind (graded_moves respected) 1 2 (costs_updatePhase respected _ _) fun _ => ?_
  refine Costs.bind (graded_moves respected) 2 0 ?_ fun _ => ?_
  · by_cases accepted : decision = .v1
    · rw [if_pos accepted]
      refine Costs.skip (graded_moves respected) (fun _ => rfl) fun record => ?_
      cases record.bind (·.batch) with
      | none => exact costs_keep respected (fun _ => rfl) 2
      | some batch => exact costs_applyAndCommit respected env p batch
    · rw [if_neg accepted]
      exact costs_keep respected (fun _ => rfl) 2
  · refine Costs.skip (graded_moves respected) (fun _ => rfl) fun record => ?_
    cases record with
    | none => exact costs_keep respected (fun _ => rfl) 0
    | some phase => exact costs_keep respected (fun _ => rfl) 0

theorem costs_handleVoteRound2 (env : Env) (sender : NodeId) (m : VoteRound2Message) :
    Costs (@Moves SM S) 4 (handleVoteRound2 env sender m : EngineM SM Unit) := by
  refine Costs.bind (graded_moves respected) 1 3 (costs_updatePhase respected _ _) fun _ => ?_
  refine Costs.skip (graded_moves respected) (fun _ => rfl) fun quorumSize => ?_
  refine Costs.skip (graded_moves respected) (fun _ => rfl) fun record => ?_
  cases record.bind (·.hasRound2Majority quorumSize) with
  | none => exact costs_keep respected (fun _ => rfl) 3
  | some decision => exact costs_makeDecision respected env m.phaseId decision

theorem costs_handleDecision (env : Env) (sender : NodeId) (m : DecisionMessage) :
    Costs (@Moves SM S) 3 (handleDecision env sender m : EngineM SM Unit) := by
  refine Costs.bind (graded_moves respected) 1 2 (costs_updatePhase respected _ _) fun _ => ?_
  by_cases accepted : m.decision = .v1
  · rw [if_pos accepted]
    cases m.batch with
    | none => exact costs_keep respected (fun _ => rfl) 2
    | some batch =>
        refine Costs.skip (graded_moves respected) (fun _ => rfl) fun lastCommitted => ?_
        by_cases fresh : lastCommitted < m.phaseId
        · rw [if_pos fresh]
          exact costs_applyAndCommit respected env m.phaseId batch
        · rw [if_neg fresh]
          exact costs_keep respected (fun _ => rfl) 2
  · rw [if_neg accepted]
    exact costs_keep respected (fun _ => rfl) 2

theorem costs_handleSyncRequest (env : Env) (sender : NodeId) (request : SyncRequestMessage) :
    Costs (@Moves SM S) 0 (handleSyncRequest env sender request : EngineM SM Unit) := by
  refine Costs.skip (graded_moves respected) (fun _ => rfl) fun currentPhase => ?_
  refine Costs.skip (graded_moves respected) (fun _ => rfl) fun _ => ?_
  refine Costs.bind (graded_moves respected) 0 0 ?_ fun _ => costs_keep respected (fun _ => rfl) 0
  unfold snapshotIfAhead
  by_cases ahead : request.requesterPhase < currentPhase
  · rw [if_pos ahead]
    refine Costs.bind (graded_moves respected) 0 0 ?_ fun _ => costs_keep respected (fun _ => rfl) 0
    exact costs_keep respected (fun _ => rfl) 0
  · rw [if_neg ahead]
    exact costs_keep respected (fun _ => rfl) 0

theorem costs_dispatch (env : Env) (sender : NodeId) (payload : MessageType)
    (other : ∀ m, payload ≠ .syncResponse m) :
    Costs (@Moves SM S) 4 (dispatch env sender payload : EngineM SM Unit) := by
  have more {n : Nat} {p : EngineM SM Unit} (le : n ≤ 4) (h : Costs (@Moves SM S) n p) :
      Costs (@Moves SM S) 4 p := fun e => respected.mono le (h e)
  cases payload with
  | propose m => exact more (by omega) (costs_handlePropose respected env sender m)
  | voteRound1 m => exact more (by omega) (costs_handleVoteRound1 respected env sender m)
  | voteRound2 m => exact costs_handleVoteRound2 respected env sender m
  | decision m => exact more (by omega) (costs_handleDecision respected env sender m)
  | syncRequest m => exact more (by omega) (costs_handleSyncRequest respected env sender m)
  | syncResponse m => exact absurd rfl (other m)
  | newBatch m =>
      exact more (by omega)
        (costs_modifyState (respected.addPendingBatch m.batch m.originator env.now))
  | heartBeat m => exact costs_keep respected (fun _ => rfl) 4
  | quorumNotification m => exact costs_keep respected (fun _ => rfl) 4

end Calls

theorem costs_initiateSync (env : Env) :
    Costs (@Moves SM S) 0 (initiateSync env : EngineM SM Unit) := by
  refine Costs.skip (graded_moves respected) (fun _ => rfl) fun _ => ?_
  refine Costs.skip (graded_moves respected) (fun _ => rfl) fun _ => ?_
  refine Costs.skip (graded_moves respected) (fun _ => rfl) fun self => ?_
  refine Costs.skip (graded_moves respected) (fun _ => rfl) fun activeNodes => ?_
  refine Costs.forM (graded_moves respected) _ (fun nodeId e => ?_) 0
  by_cases other : nodeId ≠ self
  · rw [if_pos other]
    rfl
  · rw [if_neg other]
    rfl

theorem costs_handleCommand (env : Env) (command : EngineCommand) :
    Costs (@Moves SM S) 3 (handleCommand env command : EngineM SM Unit) := by
  cases command with
  | processBatch request => exact costs_processBatchRequest respected env request
  | shutdown => exact costs_keep respected (fun _ => rfl) 3
  | forcePhaseAdvance =>
      exact fun e => respected.mono (by omega) (respected.advancePhase e.engineState)
  | triggerSync => exact fun e => respected.mono (by omega) (costs_initiateSync respected env e)
  | getStatistics responseTx => exact costs_keep respected (fun _ => rfl) 3

/-! ## Events -/

variable [StateMachine SM]

/-- Every event other than a received sync response keeps to `S`, with at most four version
increments. -/
theorem respected_handle (env : Env) {event : Event}
    (other : ∀ sender m, arrival env event ≠ some (sender, .syncResponse m))
    (e : RabiaEngine SM) : S 4 e.engineState (handle env event e).state.engineState := by
  have more {n : Nat} {st' : EngineState} (le : n ≤ 4) (h : S n e.engineState st') :
      S 4 e.engineState st' := respected.mono le h
  cases event with
  | message sender message =>
      by_cases received : Received env sender message message.messageType
      · have foreign : ∀ m, message.messageType ≠ .syncResponse m := by
          intro m same
          exact other sender m (same ▸ arrival_of_received received)
        rw [handle_of_received received]
        exact costs_dispatch respected env sender _ foreign e
      · obtain ⟨state, -⟩ := handle_of_not_received received e
        rw [state]
        exact more (by omega) (respected.nil _)
  | command command => exact more (by omega) (costs_handleCommand respected env command e)
  | cleanup =>
      exact more (by omega) (respected.append (respected.cleanupOldPhases _ env.now _)
        (respected.cleanupOldPendingBatches 300 env.now _))
  | heartbeat => exact more (by omega) (respected.nil _)
  | networkPartition activeNodes =>
      exact more (by omega) (respected.updateActiveNodes activeNodes _)
  | quorumLost => exact more (by omega) (respected.setActive false _)
  | quorumRestored activeNodes =>
      exact respected.append (respected.updateActiveNodes activeNodes _)
        (respected.setActive true _)
  | clusterMembership nodes => exact more (by omega) (respected.updateActiveNodes nodes _)
  | createPhase phaseId => exact more (by omega) (respected.getOrCreatePhase phaseId env.now _)

end Handlers

end Engine

end Rabia
