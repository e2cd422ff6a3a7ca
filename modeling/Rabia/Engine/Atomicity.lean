import Rabia.Engine.Order

/-!
# Decisions that fail

`handle_decision` changes the state machine, the pending batches and the commit
mark one after the other, and takes nothing back when a later step fails. It can
fail in two places: at a command in the middle of the batch, and at
`commit_phase`, which refuses a phase ahead of the current one only after the
batch ran. `failsCleanly_iff` says when such a failure leaves no trace.
-/

namespace Rabia.Engine

open Rabia.Lib Rabia.Lib.Proc

variable {SM : Type} [StateMachine SM]

/-- State machine, commit mark and pending batches are what they were. -/
structure Unscathed (e e' : RabiaEngine SM) : Prop where
  stateMachine : e'.stateMachine = e.stateMachine
  mark : SameMark e e'
  pendingBatches : e'.engineState.pendingBatches = e.engineState.pendingBatches

/-- If handling the decision fails, it leaves the engine unscathed. -/
def FailsCleanly (env : Env) (sender : NodeId) (m : DecisionMessage) (e : RabiaEngine SM) :
    Prop :=
  ∀ err, (handleDecision env sender m e).result = .error err →
    Unscathed e (handleDecision env sender m e).state

/-- The state machine after the commands that run: all up to the first that fails. -/
def afterAttempt (e : RabiaEngine SM) (batch : CommandBatch) : SM :=
  (attempted StateMachine.applyCommand e.stateMachine batch.commands).foldl
    (fun sm command => (StateMachine.applyCommand sm command).2) e.stateMachine

/-- A batch that fails or is refused does nothing to the state machine, and one
that is refused is not pending. -/
structure LeavesNoTrace (m : DecisionMessage) (e : RabiaEngine SM) (batch : CommandBatch) :
    Prop where
  failing : ¬ CommandsSucceed e batch → afterAttempt e batch = e.stateMachine
  refused : CommandsSucceed e batch → e.engineState.currentPhase < m.phaseId →
    afterAttempt e batch = e.stateMachine ∧ batch.id ∉ e.engineState.pendingBatches

/-- The machine uses the trait's own `apply_commands`. -/
def DefaultApplyCommands (SM : Type) [StateMachine SM] : Prop :=
  ∀ (sm : SM) (commands : List Command), StateMachine.applyCommands sm commands =
    defaultApplyCommands StateMachine.applyCommand sm commands

theorem execute_eq_afterAttempt (default : DefaultApplyCommands SM) (e : RabiaEngine SM)
    (batch : CommandBatch) : execute e.stateMachine batch = afterAttempt e batch := by
  unfold execute afterAttempt
  rw [default, defaultApplyCommands_state]

/-- How a decision that runs a batch ends. -/
theorem handleDecision_runs (env : Env) (sender : NodeId) {m : DecisionMessage}
    {e : RabiaEngine SM} {batch : CommandBatch} (runs : decisionBatch e m = some batch) :
    let o := handleDecision env sender m e
    (¬ CommandsSucceed e batch ∧ (∃ err, o.result = .error err) ∧
      o.state.stateMachine = execute e.stateMachine batch ∧ SameMark e o.state ∧
      o.state.engineState.pendingBatches = e.engineState.pendingBatches) ∨
    (CommandsSucceed e batch ∧ e.engineState.currentPhase < m.phaseId ∧
      (∃ err, o.result = .error err) ∧
      o.state.stateMachine = execute e.stateMachine batch ∧ SameMark e o.state ∧
      o.state.engineState.pendingBatches = e.engineState.pendingBatches.erase batch.id) ∨
    (CommandsSucceed e batch ∧ m.phaseId ≤ e.engineState.currentPhase ∧ o.result = .ok ()) := by
  intro o
  have reduced : o = applyAndCommit env m.phaseId batch
      (e.mapState (EngineState.updatePhase m.phaseId (receivedDecision m))) := by
    show handleDecision env sender m e = _
    rw [handleDecision_apply, runs]
  have phase : (e.mapState (EngineState.updatePhase m.phaseId
      (receivedDecision m))).engineState.currentPhase = e.engineState.currentPhase :=
    EngineState.updatePhase_currentPhase _ _ _
  have mark := sameMark_updatePhase m.phaseId (receivedDecision m) e
  have pending := EngineState.updatePhase_pendingBatches m.phaseId (receivedDecision m)
    e.engineState
  rw [reduced]
  rcases applyAndCommit_cases env m.phaseId batch
      (e.mapState (EngineState.updatePhase m.phaseId (receivedDecision m))) with
    ⟨err, failed, outcome⟩ | ⟨succeed, ahead, err, outcome⟩ |
      ⟨succeed, behind, persisted, outcome⟩
  · rw [outcome]
    refine Or.inl ⟨?_, ⟨err, rfl⟩, rfl, mark, pending⟩
    rintro ⟨responses, ok⟩
    have both := failed.symm.trans ok
    cases both
  · rw [outcome]
    have landed := (withBatch_keeps batch
      (e.mapState (EngineState.updatePhase m.phaseId (receivedDecision m)))).2
    refine Or.inr (Or.inl ⟨succeed, phase ▸ ahead, ⟨err, rfl⟩, rfl, landed.trans mark, ?_⟩)
    exact (EngineState.removePendingBatch_pendingBatches batch.id _).trans
      (congrArg (Finmap.erase batch.id) pending)
  · rw [outcome]
    exact Or.inr (Or.inr ⟨succeed, phase ▸ behind, rfl⟩)

/-- `handle_decision` fails cleanly exactly when the batch it runs, if it runs
one, is committed or leaves no trace. -/
theorem failsCleanly_iff (default : DefaultApplyCommands SM) (env : Env) (sender : NodeId)
    (m : DecisionMessage) (e : RabiaEngine SM) :
    FailsCleanly env sender m e ↔
      ∀ batch, decisionBatch e m = some batch → LeavesNoTrace m e batch := by
  cases runs : decisionBatch e m with
  | none =>
      -- no batch runs, and nothing else in the handler can fail
      constructor
      · intro _ batch impossible
        cases impossible
      · intro _ err failed
        rw [handleDecision_apply, runs] at failed
        cases failed
  | some batch =>
      have ran := execute_eq_afterAttempt default e batch
      rcases handleDecision_runs env sender runs with
        ⟨fails, ⟨err, failed⟩, stateMachine, mark, pending⟩ |
        ⟨succeed, ahead, ⟨err, failed⟩, stateMachine, mark, pending⟩ |
        ⟨succeed, behind, ok⟩
      · -- a command fails: only the state machine may have changed
        constructor
        · intro clean other same
          cases same
          refine ⟨fun _ => ?_, fun succeed => absurd succeed fails⟩
          rw [← ran, ← stateMachine]
          exact (clean err failed).stateMachine
        · intro traceless _ _
          refine ⟨?_, mark, pending⟩
          rw [stateMachine, ran]
          exact (traceless batch rfl).failing fails
      · -- the commit is refused: the batch has run and is not pending any more
        constructor
        · intro clean other same
          cases same
          have unscathed := clean err failed
          refine ⟨fun fails => absurd succeed fails, fun _ _ => ⟨?_, ?_⟩⟩
          · rw [← ran, ← stateMachine]
            exact unscathed.stateMachine
          · rw [← Table.erase_eq_self_iff, ← pending]
            exact unscathed.pendingBatches
        · intro traceless _ _
          obtain ⟨unchanged, absent⟩ := (traceless batch rfl).refused succeed ahead
          refine ⟨?_, mark, ?_⟩
          · rw [stateMachine, ran]
            exact unchanged
          · rw [pending]
            exact Table.erase_eq_self_iff.mpr absent
      · -- the batch is committed: there is no error to be clean about
        constructor
        · intro _ other same
          cases same
          refine ⟨fun fails => absurd succeed fails, fun _ ahead => ?_⟩
          exact absurd behind (Nat.not_le.mpr ahead)
        · intro _ err failed
          rw [ok] at failed
          cases failed

section Fresh

/-- A decision for phase 1, which node 0 is behind of. -/
theorem failsCleanly_iff_fresh :
    FailsCleanly ({} : Env) ⟨1⟩ (accepting 1 65) (threeNodes 0) ↔
      ∀ batch, decisionBatch (threeNodes 0) (accepting 1 65) = some batch →
        LeavesNoTrace (accepting 1 65) (threeNodes 0) batch :=
  failsCleanly_iff (fun _ _ => rfl) {} ⟨1⟩ (accepting 1 65) (threeNodes 0)

/-- The batch runs, and only then the commit is refused. -/
theorem refused_with_batch_applied :
    DefaultApplyCommands ByteLog ∧
      ¬ FailsCleanly ({} : Env) ⟨1⟩ (accepting 1 65) (threeNodes 0) := by
  refine ⟨fun _ _ => rfl, fun clean => ?_⟩
  have failed : (handleDecision ({} : Env) ⟨1⟩ (accepting 1 65) (threeNodes 0)).result =
      .error (.invalidStateTransition "current_phase=0" "commit_phase=1") := by
    decide +kernel
  have unchanged := (clean _ failed).stateMachine
  revert unchanged
  decide +kernel

end Fresh

end Rabia.Engine
