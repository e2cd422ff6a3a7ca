import Rabia.Engine.Deeds

/-!
# The order in which batches run

`pendingApplication` reads off the state before an event which batch the event
will hand to `apply_batch`. The guard of `handle_decision` keeps its phase above
the commit mark; the round-2 path has no such guard, and neither path takes back
a batch whose commit is refused. As long as every batch that runs lies above the
mark and is committed, the phases come in increasing order.
-/

namespace Rabia

open Rabia.Lib

/-- The phases whose batches were handed to the state machine, in order. -/
def appliedPhases (trace : List Effect) : List PhaseId :=
  trace.filterMap fun
    | .applyBatch phaseId _ => some phaseId
    | _ => none

theorem appliedPhases_append (w w' : List Effect) :
    appliedPhases (w ++ w') = appliedPhases w ++ appliedPhases w' := List.filterMap_append

theorem appliedPhases_of_silent {w : List Effect} (h : ∀ x ∈ w, x.utterance = none) :
    appliedPhases w = [] := by
  unfold appliedPhases
  rw [List.filterMap_eq_nil_iff]
  intro x hx
  cases x with
  | applyBatch p batch => exact absurd (h _ hx) (Option.some_ne_none _)
  | sendTo _ _ | broadcast _ | decide _ _ | respond _ _ | statistics _ _ => rfl

namespace Engine

variable {SM : Type}

/-- The batch a message with this payload runs. -/
def application (e : RabiaEngine SM) (sender : NodeId) :
    MessageType → Option (PhaseId × CommandBatch)
  | .voteRound2 m =>
    match e.getPhase m.phaseId with
    | some phase =>
      if (phase.addRound2Vote sender m.vote).hasRound2Majority e.engineState.quorumSize =
          some .v1 then
        phase.batch.map fun batch => (m.phaseId, batch)
      else none
    | none => none
  | .decision m => (decisionBatch e m).map fun batch => (m.phaseId, batch)
  | _ => none

/-- The batch an event runs. -/
def pendingApplication (env : Env) (e : RabiaEngine SM) (event : Event) :
    Option (PhaseId × CommandBatch) :=
  (arrival env event).bind fun (sender, payload) => application e sender payload

theorem pendingApplication_of_received {env : Env} {e : RabiaEngine SM} {sender : NodeId}
    {message : ProtocolMessage} {payload : MessageType}
    (h : Received env sender message payload) :
    pendingApplication env e (.message sender message) = application e sender payload := by
  unfold pendingApplication
  rw [arrival_of_received h]
  rfl

variable [StateMachine SM]

/-- An event runs no batch and leaves the mark, or it runs the pending one. -/
theorem applied_of_deed {env : Env} {e e' : RabiaEngine SM} {event : Event} {w : List Effect}
    (deed : Deed env e event e' w) :
    (appliedPhases w = [] ∧ SameMark e e') ∨
      ∃ p batch, pendingApplication env e event = some (p, batch) ∧
        appliedPhases w = [p] ∧ Lands p batch e e' := by
  cases deed with
  | aside _ aside =>
      exact Or.inl ⟨appliedPhases_of_silent aside.effects, aside.state.lastCommittedPhase⟩
  | created _ _ _ mark => exact Or.inl ⟨rfl, mark⟩
  | cleaned _ _ _ mark => exact Or.inl ⟨rfl, mark⟩
  | proposed _ _ mark => exact Or.inl ⟨rfl, mark⟩
  | answered _ _ _ mark => exact Or.inl ⟨rfl, mark⟩
  | counted _ _ _ mark => exact Or.inl ⟨rfl, mark⟩
  | cast _ _ _ _ _ mark => exact Or.inl ⟨rfl, mark⟩
  | tallied _ _ _ mark => exact Or.inl ⟨rfl, mark⟩
  | decided _ _ _ _ _ mark => exact Or.inl ⟨rfl, mark⟩
  | learned _ _ _ mark => exact Or.inl ⟨rfl, mark⟩
  | executed received present majority stored touches lands said =>
      refine Or.inr ⟨_, _, ?_, ?_, lands⟩
      · rw [pendingApplication_of_received received, application, present]
        dsimp only
        rw [if_pos majority, stored]
        rfl
      · rcases said with said | said
        · rw [said]
          rfl
        · rw [said]
          rfl
  | adopted received accepted carried above touches lands =>
      refine Or.inr ⟨_, _, ?_, rfl, lands⟩
      rw [pendingApplication_of_received received, application,
        decisionBatch_eq_some.mpr ⟨⟨accepted, above⟩, carried⟩]
      rfl

/-- The commit mark never falls. -/
theorem mark_le_handle (env : Env) (event : Event) (e : RabiaEngine SM) :
    e.engineState.lastCommittedPhase ≤
      (handle env event e).state.engineState.lastCommittedPhase := by
  rcases applied_of_deed (deed_of_handle env event e) with
    ⟨-, mark⟩ | ⟨p, batch, -, -, lands⟩
  · exact mark.ge
  · by_cases lasts : CommandsSucceed e batch ∧ p ≤ e.engineState.currentPhase
    · rw [lands.committed lasts.1 lasts.2]
      exact le_max_left _ _
    · exact (lands.dropped lasts).ge

end Engine

namespace Run

open Engine

variable {SM : Type} [StateMachine SM]

/-- A batch that the step runs lies above the commit mark and is committed. -/
def CommitsAbove (r : Run SM) (input : Env × Event) : Prop :=
  ∀ application ∈ pendingApplication input.1 r.engine input.2,
    r.engine.engineState.lastCommittedPhase < application.1 ∧
      application.1 ≤ r.engine.engineState.currentPhase ∧
        CommandsSucceed r.engine application.2

instance (r : Run SM) (input : Env × Event) : Decidable (CommitsAbove r input) :=
  inferInstanceAs (Decidable (∀ application ∈ pendingApplication input.1 r.engine input.2, _))

/-- The mark is the last phase applied, or above it. -/
structure Ordered (r : Run SM) : Prop where
  increasing : (appliedPhases r.trace).Pairwise (· < ·)
  marked : ∀ p ∈ appliedPhases r.trace, p ≤ r.engine.engineState.lastCommittedPhase

omit [StateMachine SM] in
theorem ordered_start (e : RabiaEngine SM) : Ordered (start e) :=
  ⟨List.Pairwise.nil, fun _ h => absurd h List.not_mem_nil⟩

theorem ordered_step (r : Run SM) (input : Env × Event) (ordered : Ordered r)
    (commits : CommitsAbove r input) : Ordered (r.step input) := by
  have trace : appliedPhases (r.step input).trace =
      appliedPhases r.trace ++ appliedPhases (handle input.1 input.2 r.engine).effects :=
    appliedPhases_append _ _
  rcases applied_of_deed (deed_of_handle input.1 input.2 r.engine) with
    ⟨silent, mark⟩ | ⟨p, batch, pending, applied, lands⟩
  · rw [silent, List.append_nil] at trace
    refine ⟨trace ▸ ordered.increasing, fun q hq => ?_⟩
    rw [trace] at hq
    exact mark ▸ ordered.marked q hq
  · -- the new phase is above the mark, the mark is above all earlier ones
    obtain ⟨above, behind, succeed⟩ := commits (p, batch) pending
    rw [applied] at trace
    have raised := lands.committed succeed behind
    rw [max_eq_right above.le] at raised
    have lower : ∀ q ∈ appliedPhases r.trace, q < p := by
      intro q hq
      exact Nat.lt_of_le_of_lt (ordered.marked q hq) above
    constructor
    · rw [trace, List.pairwise_append]
      refine ⟨ordered.increasing, List.pairwise_singleton _ _, fun q hq p' hp' => ?_⟩
      rw [List.mem_singleton.mp hp']
      exact lower q hq
    · intro q hq
      rw [trace] at hq
      show q ≤ (handle input.1 input.2 r.engine).state.engineState.lastCommittedPhase
      rw [raised]
      rcases List.mem_append.mp hq with hq | hq
      · exact (lower q hq).le
      · exact (List.mem_singleton.mp hq).le

/-- Along a run in which every batch that runs is above the mark and is committed,
the batches run in increasing order of their phases. -/
theorem applied_phases_increase (e : RabiaEngine SM) (inputs : List (Env × Event))
    (commits : Along step CommitsAbove (start e) inputs) :
    (appliedPhases (run step (start e) inputs).trace).Pairwise (· < ·) :=
  (run_invariant ordered_step (ordered_start e) commits).increasing

section ThreeNodes

/-- Node 0 decides phase 1 by round-2 votes, and then hears of the decision of phase 2, for
which it has made a proposal. -/
def twoPhases : List (Env × Event) :=
  proposing ++ [roundTwoVote ⟨1⟩, roundTwoVote ⟨2⟩, submission, deciding 2]

theorem applied_phases_increase_twoPhases :
    appliedPhases (run step (start (threeNodes 0)) twoPhases).trace = [1, 2] ∧
      (appliedPhases (run step (start (threeNodes 0)) twoPhases).trace).Pairwise (· < ·) :=
  ⟨by decide +kernel, applied_phases_increase _ _ (by decide +kernel)⟩

/-- Node 0 after both others voted in round 1, with its own round-2 vote recorded. -/
def afterRoundOne : RabiaEngine ByteLog :=
  (run step (start (threeNodes 0)) (proposing ++ [roundOneVote ⟨1⟩, roundOneVote ⟨2⟩])).engine

/-- Each of the two round-2 votes that now come in decides phase 1 again. -/
theorem applied_twice :
    ¬ (appliedPhases (run step (start afterRoundOne)
      [roundTwoVote ⟨1⟩, roundTwoVote ⟨2⟩]).trace).Pairwise (· < ·) := by
  decide +kernel

end ThreeNodes

end Run

end Rabia
