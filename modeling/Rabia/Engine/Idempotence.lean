import Rabia.Engine.Convergence

/-!
# Batches decided more than once

A batch can be proposed by two nodes, and be decided in two phases. `handle_decision`
knows the phases it applied by the commit mark, and knows nothing of the batches:
over decisions in ascending order it hands exactly the accepted batches above its
mark to the state machine, each as often as it is accepted (`deliver_applied`).
-/

namespace Rabia

open Rabia.Lib Engine

/-- The batches that were handed to the state machine, in order. -/
def appliedBatchIds (trace : List Effect) : List BatchId :=
  trace.filterMap fun
    | .applyBatch _ batch => some batch.id
    | _ => none

theorem appliedBatchIds_append (w w' : List Effect) :
    appliedBatchIds (w ++ w') = appliedBatchIds w ++ appliedBatchIds w' :=
  List.filterMap_append

/-- The batch of a decision that accepts in a phase above the mark. -/
def acceptedBatchId (mark : PhaseId) (m : DecisionMessage) : Option BatchId :=
  if m.decision = .v1 ∧ mark < m.phaseId then m.batch.map (·.id) else none

/-- The batches of the decisions that accept in a phase above the mark. -/
def acceptedBatchIds (mark : PhaseId) (ds : List Delivery) : List BatchId :=
  ds.filterMap fun d => acceptedBatchId mark d.decision

theorem acceptedBatchIds_cons (mark : PhaseId) (d : Delivery) (ds : List Delivery) :
    acceptedBatchIds mark (d :: ds) =
      (acceptedBatchId mark d.decision).toList ++ acceptedBatchIds mark ds := by
  unfold acceptedBatchIds
  cases accepted : acceptedBatchId mark d.decision with
  | none => exact List.filterMap_cons_none accepted
  | some id => exact List.filterMap_cons_some accepted

/-- The phases come in increasing order. -/
def Ascending (ds : List Delivery) : Prop :=
  (ds.map fun d => d.decision.phaseId).Pairwise (· < ·)

instance (ds : List Delivery) : Decidable (Ascending ds) :=
  inferInstanceAs (Decidable (List.Pairwise _ _))

namespace Run

variable {SM : Type} [StateMachine SM]

/-- One delivery runs the batch it accepts, and moves the mark to its phase or not at all. -/
theorem deliver_step (r : Run SM) (d : Delivery) :
    appliedBatchIds (r.deliver d).trace = appliedBatchIds r.trace ++
        (acceptedBatchId r.engine.engineState.lastCommittedPhase d.decision).toList ∧
      ((r.deliver d).engine.engineState.lastCommittedPhase =
          r.engine.engineState.lastCommittedPhase ∨
        (r.deliver d).engine.engineState.lastCommittedPhase =
          max r.engine.engineState.lastCommittedPhase d.decision.phaseId) := by
  have accepted : acceptedBatchId r.engine.engineState.lastCommittedPhase d.decision =
      (decisionBatch r.engine d.decision).map (·.id) := by
    unfold acceptedBatchId decisionBatch
    split <;> rfl
  rw [accepted]
  unfold deliver
  rw [handleDecision_apply]
  cases decisionBatch r.engine d.decision with
  | none =>
      refine ⟨?_, Or.inl (sameMark_updatePhase _ _ _)⟩
      rw [appliedBatchIds_append]
      rfl
  | some batch =>
      obtain ⟨said, -, landed⟩ := lands_applyAndCommit d.env d.decision.phaseId batch
        (r.engine.mapState
          (EngineState.updatePhase d.decision.phaseId (receivedDecision d.decision)))
      have lands := landed.of_updatePhase
      refine ⟨?_, ?_⟩
      · dsimp only
        rw [appliedBatchIds_append, said]
        rfl
      · by_cases lasts : CommandsSucceed r.engine batch ∧
            d.decision.phaseId ≤ r.engine.engineState.currentPhase
        · exact Or.inr (lands.committed lasts.1 lasts.2)
        · exact Or.inl (lands.dropped lasts)

/-- Over decisions in ascending order, the batches that run are the accepted ones above
the mark at the start: no later phase falls under a mark that an earlier one raised. -/
theorem deliver_applied {mark : PhaseId} {ds : List Delivery} (ascending : Ascending ds)
    {r : Run SM}
    (above : ∀ d ∈ ds, r.engine.engineState.lastCommittedPhase < d.decision.phaseId ↔
      mark < d.decision.phaseId) :
    appliedBatchIds (run deliver r ds).trace =
      appliedBatchIds r.trace ++ acceptedBatchIds mark ds := by
  -- the mark of `r` moves with the deliveries, `mark` is the one at the start
  induction ds generalizing r with
  | nil => exact (List.append_nil _).symm
  | cons d ds ih =>
      obtain ⟨lower, rest⟩ := List.pairwise_cons.mp ascending
      obtain ⟨applied, moved⟩ := deliver_step r d
      have later : ∀ d' ∈ ds, (r.deliver d).engine.engineState.lastCommittedPhase <
          d'.decision.phaseId ↔ mark < d'.decision.phaseId := by
        intro d' hd'
        rw [← above d' (List.mem_cons_of_mem _ hd')]
        have next : d.decision.phaseId < d'.decision.phaseId :=
          lower _ (List.mem_map_of_mem hd')
        rcases moved with same | raised
        · rw [same]
        · rw [raised, max_lt_iff]
          exact ⟨And.left, fun higher => ⟨higher, next⟩⟩
      have first : acceptedBatchId r.engine.engineState.lastCommittedPhase d.decision =
          acceptedBatchId mark d.decision := by
        simp only [acceptedBatchId, above d List.mem_cons_self]
      rw [run_cons, ih rest later, applied, first, acceptedBatchIds_cons, List.append_assoc]

/-- An engine that processes decisions in ascending order applies no batch twice
exactly when the decisions that accept above its mark are for different batches. -/
theorem applied_once_iff (e : RabiaEngine SM) (ds : List Delivery) (ascending : Ascending ds) :
    (appliedBatchIds (run deliver (start e) ds).trace).Nodup ↔
      (acceptedBatchIds e.engineState.lastCommittedPhase ds).Nodup := by
  rw [deliver_applied (r := start e) ascending fun _ _ => Iff.rfl]
  exact Iff.rfl

section TwoPhases

theorem applied_once_iff_different :
    (appliedBatchIds (run deliver (start afterTwoProposals) inOrder).trace).Nodup ↔
      (acceptedBatchIds afterTwoProposals.engineState.lastCommittedPhase inOrder).Nodup :=
  applied_once_iff _ _ (by decide)

/-- One batch, accepted in the phases 1 and 2. -/
def resubmitted : List Delivery := [delivery (accepting 1 65), delivery (accepting 2 65)]

/-- The batch is applied in both. -/
theorem batch_applied_twice :
    (Ascending resubmitted ∧ ∀ d ∈ resubmitted,
      d.decision.phaseId ≤ afterTwoProposals.engineState.currentPhase) ∧
    ¬ (appliedBatchIds (run deliver (start afterTwoProposals) resubmitted).trace).Nodup := by
  refine ⟨⟨by decide, by decide +kernel⟩, ?_⟩
  decide +kernel

end TwoPhases

end Run

end Rabia
