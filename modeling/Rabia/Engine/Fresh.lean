import Rabia.Engine.Counters

/-!
# Proposals in fresh phases

`propose_batch` takes the phase after `current_phase`. Proposals and decisions of
other nodes name phases too, but neither `handle_propose` nor `handle_decision`
raises the counter to them. The next own proposal is in a fresh phase as long as
every phase heard of is one that the counter has already reached (`Follows`).
-/

namespace Rabia

open Rabia.Lib Engine

/-- The phase that a proposal or a decision names. -/
def MessageType.heardPhase : MessageType → Option PhaseId
  | .propose m => some m.phaseId
  | .decision m => some m.phaseId
  | _ => none

/-- The phase that the proposal or the decision handled at an input names. -/
def heardPhase (input : Env × Event) : Option PhaseId :=
  (arrival input.1 input.2).bind fun arrived => arrived.2.heardPhase

namespace Run

variable {SM : Type} [StateMachine SM]

/-- Whatever the engine proposes along the run is in a phase above all those that
the proposals and decisions it handled before name. -/
def ProposesFresh (e : RabiaEngine SM) (inputs : List (Env × Event)) : Prop :=
  ∀ before input later, inputs = before ++ input :: later →
    ∀ p ∈ proposedPhases
        (handle input.1 input.2 (run step (start e) before).engine).effects,
      ∀ q ∈ before.filterMap heardPhase, q < p

/-- A proposal or a decision names a phase that the counter has reached, and the
counter does not wrap. -/
def Follows (r : Run SM) (input : Env × Event) : Prop :=
  (∀ p ∈ heardPhase input, p ≤ r.engine.engineState.currentPhase) ∧ NoWrap r.engine input.2

instance (r : Run SM) (input : Env × Event) : Decidable (Follows r input) :=
  inferInstanceAs (Decidable ((∀ p ∈ heardPhase input, _) ∧ _))

/-- The counter stays at or above every phase heard of. -/
theorem heard_le_currentPhase {r : Run SM} {inputs : List (Env × Event)}
    (follows : Along step Follows r inputs) :
    r.engine.engineState.currentPhase ≤
        (run step r inputs).engine.engineState.currentPhase ∧
      ∀ q ∈ inputs.filterMap heardPhase,
        q ≤ (run step r inputs).engine.engineState.currentPhase := by
  induction inputs generalizing r with
  | nil => exact ⟨Nat.le_refl _, fun q hq => absurd hq List.not_mem_nil⟩
  | cons input inputs ih =>
      obtain ⟨⟨reached, noWrap⟩, rest⟩ := follows
      obtain ⟨later, heard⟩ := ih rest
      have climbs : r.engine.engineState.currentPhase ≤
          (r.step input).engine.engineState.currentPhase := (counters_le_handle noWrap).1
      rw [run_cons]
      refine ⟨climbs.trans later, fun q hq => ?_⟩
      obtain ⟨input', member, named⟩ := List.mem_filterMap.mp hq
      rcases List.mem_cons.mp member with rfl | member
      · -- heard of now: the counter had reached it and does not fall
        exact (reached q named).trans (climbs.trans later)
      · exact heard q (List.mem_filterMap.mpr ⟨input', member, named⟩)

/-- Along a run in which every proposal and decision that is handled names a phase
the counter has reached, and in which the counter does not wrap, the engine
proposes in fresh phases. -/
theorem proposals_fresh (e : RabiaEngine SM) (inputs : List (Env × Event))
    (follows : Along step Follows (start e) inputs) : ProposesFresh e inputs := by
  rintro before input later rfl p proposed q heard
  obtain ⟨earlier, ⟨-, noWrap⟩, -⟩ := along_append.mp follows
  have reached := (heard_le_currentPhase earlier).2 q heard
  rcases proposed_of_deed (deed_of_handle input.1 input.2 (run step (start e) before).engine) with
    nothing | ⟨advances, one⟩
  · rw [nothing] at proposed
    cases proposed
  · rw [one] at proposed
    rw [List.mem_singleton.mp proposed, nextPhase_eq (noWrap advances)]
    exact Nat.lt_succ_of_le reached

section ThreeNodes

theorem proposals_fresh_own_phase :
    ProposesFresh (threeNodes 0) [submission, deciding 1, submission] :=
  proposals_fresh _ _ (by decide +kernel)

/-- An engine that handled the decision of phase 5 proposes in phase 1. -/
theorem proposal_stale : ¬ ProposesFresh (threeNodes 0) [deciding 5, submission] := by
  intro fresh
  have above := fresh [deciding 5] submission [] rfl 1 (by decide +kernel) 5 (by decide +kernel)
  exact absurd above (by decide)

end ThreeNodes

end Run

end Rabia
