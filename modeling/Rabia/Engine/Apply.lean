import Rabia.Engine.Handlers

/-!
# Applying a batch

What the block shared by `make_decision` and `handle_decision` does: run the
batch on the state machine, drop it from the pending batches, raise the commit
mark, save. `applyAndCommit_cases` says how it can end:

* a command fails, and nothing after the state machine is touched;
* the batch ran but `commit_phase` refuses the phase as ahead of
  `current_phase`;
* the phase is committed.
-/

namespace Rabia.Engine

open Rabia.Lib Rabia.Lib.Proc

variable {SM : Type} [StateMachine SM]

/-- The state machine after the commands of a batch ran on it. -/
def execute (sm : SM) (batch : CommandBatch) : SM :=
  (StateMachine.applyCommands sm batch.commands).2

/-- The engine after the commands of a batch ran on its state machine. -/
def withCommands (batch : CommandBatch) (e : RabiaEngine SM) : RabiaEngine SM :=
  { e with stateMachine := execute e.stateMachine batch }

/-- The engine after a batch ran and left the pending batches. -/
def withBatch (batch : CommandBatch) (e : RabiaEngine SM) : RabiaEngine SM :=
  (withCommands batch e).mapState (EngineState.removePendingBatch batch.id)

theorem withBatch_currentPhase (batch : CommandBatch) (e : RabiaEngine SM) :
    (withBatch batch e).engineState.currentPhase = e.engineState.currentPhase :=
  EngineState.removePendingBatch_currentPhase batch.id e.engineState

/-- Every command of the batch succeeds on the engine's state machine. -/
def CommandsSucceed (e : RabiaEngine SM) (batch : CommandBatch) : Prop :=
  ∃ responses, (StateMachine.applyCommands e.stateMachine batch.commands).1 = .ok responses

instance (e : RabiaEngine SM) (batch : CommandBatch) : Decidable (CommandsSucceed e batch) :=
  match h : (StateMachine.applyCommands e.stateMachine batch.commands).1 with
  | .ok responses => isTrue ⟨responses, h⟩
  | .error _ => isFalse fun ⟨_, ok⟩ => by rw [ok] at h; cases h

/-! ## The parts -/

theorem applyBatch_of_error {e : RabiaEngine SM} {batch : CommandBatch} {err : RabiaError}
    (h : (StateMachine.applyCommands e.stateMachine batch.commands).1 = .error err)
    (p : PhaseId) :
    applyBatch p batch e = ⟨.error err, withCommands batch e, [.applyBatch p batch]⟩ := by
  have commands : applyCommands batch.commands e =
      (⟨.error err, withCommands batch e, []⟩ : Outcome RabiaError _ Effect _) := by
    unfold applyCommands
    rw [read_bind, modify_bind, ofExcept_apply, h]
    rfl
  unfold applyBatch
  rw [emit_bind, bind_error commands]
  rfl

theorem applyBatch_of_ok {e : RabiaEngine SM} {batch : CommandBatch}
    (h : CommandsSucceed e batch) (p : PhaseId) :
    applyBatch p batch e = ⟨.ok (), withBatch batch e, [.applyBatch p batch]⟩ := by
  obtain ⟨responses, h⟩ := h
  have commands : applyCommands batch.commands e =
      (⟨.ok responses, withCommands batch e, []⟩ : Outcome RabiaError _ Effect _) := by
    unfold applyCommands
    rw [read_bind, modify_bind, ofExcept_apply, h]
    rfl
  unfold applyBatch
  rw [emit_bind, bind_ok commands]
  rfl

omit [StateMachine SM] in
theorem commitPhase_apply (p : PhaseId) (e : RabiaEngine SM) :
    commitPhase p e = (⟨(e.engineState.commitPhase p).1,
      e.mapState (fun st => (st.commitPhase p).2), []⟩ : Outcome RabiaError _ Effect _) := rfl

/-- `save_state` writes the persisted state and nothing else. -/
theorem saveState_spec (env : Env) (e : RabiaEngine SM) :
    (∃ persisted, (saveState env e).state = { e with persistence := persisted }) ∧
      (saveState env e).effects = [] := by
  have snapshot : createSnapshot e =
      (⟨StateMachine.createSnapshot e.stateMachine, e, []⟩ :
        Outcome RabiaError (RabiaEngine SM) Effect Snapshot) := rfl
  unfold saveState readState
  rw [read_bind, read_bind]
  cases h : StateMachine.createSnapshot e.stateMachine with
  | error err =>
      rw [h] at snapshot
      rw [bind_error snapshot]
      exact ⟨⟨e.persistence, rfl⟩, rfl⟩
  | ok taken =>
      rw [h] at snapshot
      rw [bind_ok snapshot]
      cases saved : env.save with
      | error err =>
          rw [bind_error (ofExcept_apply _ _)]
          exact ⟨⟨e.persistence, rfl⟩, rfl⟩
      | ok _ =>
          rw [bind_ok (ofExcept_apply _ _)]
          exact ⟨⟨_, rfl⟩, rfl⟩

/-! ## The block -/

/-- How applying and committing a batch can end. -/
theorem applyAndCommit_cases (env : Env) (p : PhaseId) (batch : CommandBatch)
    (e : RabiaEngine SM) :
    (∃ err, (StateMachine.applyCommands e.stateMachine batch.commands).1 = .error err ∧
      applyAndCommit env p batch e =
        ⟨.error err, withCommands batch e, [.applyBatch p batch]⟩) ∨
    (CommandsSucceed e batch ∧ e.engineState.currentPhase < p ∧
      ∃ err, applyAndCommit env p batch e =
        ⟨.error err, withBatch batch e, [.applyBatch p batch]⟩) ∨
    (CommandsSucceed e batch ∧ p ≤ e.engineState.currentPhase ∧
      ∃ persisted, applyAndCommit env p batch e =
        ⟨.ok (), { (withBatch batch e).mapState (fun st => (st.commitPhase p).2) with
          persistence := persisted }, [.applyBatch p batch]⟩) := by
  cases h : (StateMachine.applyCommands e.stateMachine batch.commands).1 with
  | error err =>
      left
      refine ⟨err, rfl, ?_⟩
      unfold applyAndCommit
      rw [bind_error (applyBatch_of_error h p)]
  | ok responses =>
      have succeed : CommandsSucceed e batch := ⟨responses, h⟩
      right
      unfold applyAndCommit
      rw [bind_ok (applyBatch_of_ok succeed p)]
      have phase := withBatch_currentPhase batch e
      rcases Nat.lt_or_ge e.engineState.currentPhase p with ahead | behind
      · left
        obtain ⟨⟨err, refused⟩, same⟩ := EngineState.commitPhase_of_lt (phase ▸ ahead)
        have commit : commitPhase p (withBatch batch e) =
            (⟨.error err, withBatch batch e, []⟩ : Outcome RabiaError _ Effect _) := by
          rw [commitPhase_apply, refused, RabiaEngine.mapState_of_eq same]
        rw [bind_error commit]
        exact ⟨succeed, ahead, err, rfl⟩
      · right
        obtain ⟨⟨raised, accepted⟩, -⟩ := EngineState.commitPhase_of_le (phase ▸ behind)
        have commit : commitPhase p (withBatch batch e) =
            (⟨.ok raised, (withBatch batch e).mapState (fun st => (st.commitPhase p).2), []⟩ :
              Outcome RabiaError _ Effect _) := by
          rw [commitPhase_apply, accepted]
        rw [bind_ok commit, attempt_bind]
        obtain ⟨⟨persisted, state⟩, effects⟩ :=
          saveState_spec env ((withBatch batch e).mapState (fun st => (st.commitPhase p).2))
        refine ⟨succeed, behind, persisted, ?_⟩
        rw [state, effects]
        rfl

/-- The block succeeds when the batch ran and its phase was not ahead. -/
theorem applyAndCommit_succeeds_iff (env : Env) (p : PhaseId) (batch : CommandBatch)
    (e : RabiaEngine SM) :
    (applyAndCommit env p batch e).result = .ok () ↔
      CommandsSucceed e batch ∧ p ≤ e.engineState.currentPhase := by
  rcases applyAndCommit_cases env p batch e with
    ⟨err, failed, same⟩ | ⟨-, ahead, err, same⟩ | ⟨succeed, behind, persisted, same⟩
  · rw [same]
    refine ⟨fun h => (nomatch h), fun committed => ?_⟩
    obtain ⟨⟨responses, ok⟩, -⟩ := committed
    rw [ok] at failed
    cases failed
  · rw [same]
    exact ⟨fun h => (nomatch h), fun committed => absurd committed.2 (Nat.not_le.mpr ahead)⟩
  · rw [same]
    exact ⟨fun _ => ⟨succeed, behind⟩, fun _ => rfl⟩

/-! ## Handling a decision -/

/-- The batch `handle_decision` runs: that of an accepted phase above the mark. -/
def decisionBatch (e : RabiaEngine SM) (m : DecisionMessage) : Option CommandBatch :=
  if m.decision = .v1 ∧ e.engineState.lastCommittedPhase < m.phaseId then m.batch else none

omit [StateMachine SM] in
theorem decisionBatch_eq_some {e : RabiaEngine SM} {m : DecisionMessage} {batch : CommandBatch} :
    decisionBatch e m = some batch ↔
      (m.decision = .v1 ∧ e.engineState.lastCommittedPhase < m.phaseId) ∧
        m.batch = some batch := by
  unfold decisionBatch
  by_cases h : m.decision = .v1 ∧ e.engineState.lastCommittedPhase < m.phaseId
  · rw [if_pos h]
    exact ⟨fun carried => ⟨h, carried⟩, And.right⟩
  · rw [if_neg h]
    constructor
    · intro impossible
      cases impossible
    · intro runs
      exact absurd runs.1 h

/-- `handle_decision` writes its record and runs its batch, if it runs one. -/
theorem handleDecision_apply (env : Env) (sender : NodeId) (m : DecisionMessage)
    (e : RabiaEngine SM) :
    handleDecision env sender m e =
      match decisionBatch e m with
      | some batch => applyAndCommit env m.phaseId batch
          (e.mapState (EngineState.updatePhase m.phaseId (receivedDecision m)))
      | none =>
        ⟨.ok (), e.mapState (EngineState.updatePhase m.phaseId (receivedDecision m)), []⟩ := by
  have mark : (e.mapState (EngineState.updatePhase m.phaseId
      (receivedDecision m))).engineState.lastCommittedPhase = e.engineState.lastCommittedPhase :=
    EngineState.updatePhase_lastCommittedPhase _ _ _
  unfold handleDecision decisionBatch
  rw [updatePhase, modifyState, modify_bind]
  by_cases accepted : m.decision = .v1
  · rw [if_pos accepted]
    cases m.batch with
    | none =>
        rw [ite_self]
        rfl
    | some batch =>
        dsimp only
        rw [readState, read_bind, mark]
        by_cases above : e.engineState.lastCommittedPhase < m.phaseId
        · rw [if_pos above, if_pos ⟨accepted, above⟩]
        · rw [if_neg above, if_neg fun h => above h.2]
          rfl
  · rw [if_neg accepted, if_neg fun h => accepted h.1]
    rfl

end Rabia.Engine
