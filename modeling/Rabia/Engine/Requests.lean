import Rabia.Engine.Idempotence
import Rabia.Engine.Counters

/-!
# Answers to clients

A request brings the sender half of a response channel. `process_batch_request`
uses it to turn the request down; when it accepts, it passes only the batch on, and
the sender is dropped when it returns. No data type of the engine has a place for a
sender, and `apply_batch` keeps the results of the commands to itself, so an
accepted request is never answered (`request_never_answered`).
-/

namespace Rabia

open Rabia.Lib Engine

/-- The sender that comes with an event. -/
def senderIn : Event → Option Nat
  | .command (.processBatch request) => some request.responseTx
  | _ => none

/-- The sender is moved into one request: none of these inputs brings it. -/
def Without (responseTx : Nat) (inputs : List (Env × Event)) : Prop :=
  ∀ input ∈ inputs, senderIn input.2 ≠ some responseTx

instance (responseTx : Nat) (inputs : List (Env × Event)) : Decidable (Without responseTx inputs) :=
  inferInstanceAs (Decidable (∀ input ∈ inputs, _))

/-- What was sent on a response channel, in order. -/
def answersOn (responseTx : Nat) (trace : List Effect) : List (Except RabiaError (List Bytes)) :=
  trace.filterMap fun x => x.answer.bind fun answer =>
    if answer.1 = responseTx then some answer.2 else none

theorem answersOn_append (responseTx : Nat) (w w' : List Effect) :
    answersOn responseTx (w ++ w') = answersOn responseTx w ++ answersOn responseTx w' :=
  List.filterMap_append

/-- The phase was decided against: by the engine, or in a decision it was sent. -/
def Rejected (p : PhaseId) (trace : List Effect) (inputs : List (Env × Event)) : Prop :=
  .decide p .v0 ∈ trace ∨ ∃ input ∈ inputs, ∃ sender m,
    arrival input.1 input.2 = some (sender, .decision m) ∧ m.phaseId = p ∧ m.decision = .v0

namespace Run

variable {SM : Type} [StateMachine SM]

/-- The engine still owns the sender: it may yet send on it, without being handed it again. -/
def Owns (e : RabiaEngine SM) (responseTx : Nat) : Prop :=
  ∃ inputs, Without responseTx inputs ∧
    answersOn responseTx (run step (start e) inputs).trace ≠ []

/-- The engine `e` after it took the request and then met these inputs. -/
def taking (env : Env) (request : CommandRequest) (e : RabiaEngine SM)
    (inputs : List (Env × Event)) : Run SM :=
  run step (start e) ((env, .command (.processBatch request)) :: inputs)

/-- The sender of the request is kept until the batch is applied or rejected, and when
the batch is applied its results are sent on it, once. -/
structure AnsweredOnce (env : Env) (request : CommandRequest) (e : RabiaEngine SM)
    (inputs : List (Env × Event)) : Prop where
  owned : ∀ before later, inputs = before ++ later →
    request.batch.id ∉ appliedBatchIds (taking env request e before).trace →
      ¬ Rejected (nextPhase e) (taking env request e before).trace before →
        Owns (taking env request e before).engine request.responseTx
  answered : ∀ before input later, inputs = before ++ input :: later →
    request.batch.id ∈ appliedBatchIds
        (handle input.1 input.2 (taking env request e before).engine).effects →
      ∀ results, (StateMachine.applyCommands (taking env request e before).engine.stateMachine
          request.batch.commands).1 = .ok results →
        answersOn request.responseTx (taking env request e inputs).trace = [.ok results]

/-! ## Nothing is sent on a dropped sender -/

/-- An answer goes to the sender that came with the event. -/
theorem answersOn_handle {responseTx : Nat} {env : Env} {event : Event} {e : RabiaEngine SM}
    (elsewhere : senderIn event ≠ some responseTx) :
    answersOn responseTx (handle env event e).effects = [] := by
  unfold answersOn
  rw [List.filterMap_eq_nil_iff]
  intro x hx
  rcases plain_cases e event with rfl | ⟨request, rfl, noQuorum⟩ | plain
  · rw [(handle_heartbeat env e).2] at hx
    rw [List.mem_singleton.mp hx]
    rfl
  · rw [(handle_declined _ _ noQuorum).2] at hx
    rw [List.mem_singleton.mp hx]
    exact if_neg fun same => elsewhere (congrArg some same)
  · rw [(routine_of_plain plain hx).2]
    rfl

/-- No run without the sender sends on it. -/
theorem answersOn_run {responseTx : Nat} {inputs : List (Env × Event)}
    (moved : Without responseTx inputs) (r : Run SM) :
    answersOn responseTx (run step r inputs).trace = answersOn responseTx r.trace := by
  induction inputs generalizing r with
  | nil => rfl
  | cons input inputs ih =>
      have rest : Without responseTx inputs := fun i hi => moved i (List.mem_cons_of_mem _ hi)
      rw [run_cons, ih rest]
      show answersOn responseTx (r.trace ++ (handle input.1 input.2 r.engine).effects) = _
      rw [answersOn_append, answersOn_handle (moved input List.mem_cons_self), List.append_nil]

theorem not_owns (e : RabiaEngine SM) (responseTx : Nat) : ¬ Owns e responseTx := by
  rintro ⟨inputs, moved, sent⟩
  exact sent (answersOn_run moved (start e))

/-- An accepted request is passed on without its sender: only its proposal is sent. -/
theorem trace_of_accepted {e : RabiaEngine SM} (accepted : e.engineState.hasQuorum = true)
    (env : Env) (request : CommandRequest) :
    (taking env request e []).trace = [proposal env e request.batch] :=
  (processBatchRequest_spec env request accepted).2.2.2

/-- Whatever happens after an engine accepted a request, nothing is ever sent on its
sender, which the engine does not own any more when it has proposed the batch. -/
theorem request_never_answered (e : RabiaEngine SM) (env : Env) (request : CommandRequest)
    (accepted : e.engineState.hasQuorum = true) (inputs : List (Env × Event))
    (moved : Without request.responseTx inputs) :
    answersOn request.responseTx (taking env request e inputs).trace = [] ∧
      ¬ AnsweredOnce env request e inputs := by
  have first := trace_of_accepted accepted env request
  constructor
  · show answersOn request.responseTx (run step (taking env request e []) inputs).trace = []
    rw [answersOn_run moved, first]
    rfl
  · intro once
    -- right after the proposal nothing is applied or rejected yet
    refine not_owns _ _ (once.owned [] inputs rfl ?_ ?_)
    · rw [first]
      exact List.not_mem_nil
    · rintro (decided | ⟨input, member, -⟩)
      · rw [first] at decided
        cases List.mem_singleton.mp decided
      · cases member

section ThreeNodes

/-- A request to write the byte 65, with sender 0. -/
def requested : CommandRequest := ⟨writing 65, 0⟩

theorem request_never_answered_decided :
    answersOn 0 (taking {} requested (threeNodes 0) [deciding 1]).trace = [] ∧
      ¬ AnsweredOnce {} requested (threeNodes 0) [deciding 1] :=
  request_never_answered (threeNodes 0) {} requested rfl [deciding 1] (by decide)

/-- The batch of the request is decided in phase 1 and applied, and nobody is told. -/
theorem applied_without_answer : ¬ AnsweredOnce {} requested (threeNodes 0) [deciding 1] := by
  intro once
  have told := once.answered [] (deciding 1) [] rfl (by decide +kernel) [[65]] (by decide +kernel)
  have count := congrArg List.length told
  revert count
  decide +kernel

end ThreeNodes

end Run

end Rabia
