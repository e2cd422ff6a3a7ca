import Rabia.Core.Types

/-!
# The state machine trait

`rabia-core/src/state_machine.rs`. A call on `&mut self` returns its result and
the state it leaves, also when the result is an error.
-/

namespace Rabia

/-- `Snapshot`. -/
structure Snapshot where
  version : Nat
  data : Bytes
  checksum : Nat
deriving DecidableEq, Repr

section ApplyCommands

variable {SM : Type}

/-- The default `apply_commands`: one command after another, leaving at the
first error with what the commands so far did. -/
def defaultApplyCommands (applyCommand : SM → Command → Except RabiaError Bytes × SM) :
    SM → List Command → Except RabiaError (List Bytes) × SM
  | sm, [] => (.ok [], sm)
  | sm, command :: rest =>
    match applyCommand sm command with
    | (.ok response, sm') =>
      match defaultApplyCommands applyCommand sm' rest with
      | (.ok responses, sm'') => (.ok (response :: responses), sm'')
      | (.error err, sm'') => (.error err, sm'')
    | (.error err, sm') => (.error err, sm')

/-- The commands that the default runs: all up to the first that fails. -/
def attempted (applyCommand : SM → Command → Except RabiaError Bytes × SM) :
    SM → List Command → List Command
  | _, [] => []
  | sm, command :: rest =>
    match applyCommand sm command with
    | (.ok _, sm') => command :: attempted applyCommand sm' rest
    | (.error _, _) => [command]

variable {applyCommand : SM → Command → Except RabiaError Bytes × SM}

/-- The default leaves the state in which the attempted commands leave it. -/
theorem defaultApplyCommands_state (sm : SM) (commands : List Command) :
    (defaultApplyCommands applyCommand sm commands).2 =
      (attempted applyCommand sm commands).foldl (fun sm command => (applyCommand sm command).2)
        sm := by
  induction commands generalizing sm with
  | nil => rfl
  | cons command rest ih =>
      unfold defaultApplyCommands attempted
      cases applied : applyCommand sm command with
      | mk result sm' =>
          cases result with
          | ok response =>
              dsimp only
              rw [List.foldl_cons, applied, ← ih sm']
              cases defaultApplyCommands applyCommand sm' rest with
              | mk result sm'' => cases result <;> rfl
          | error err =>
              show sm' = (applyCommand sm command).2
              rw [applied]

/-- Commands that never fail make batches that never fail. -/
theorem defaultApplyCommands_succeeds
    (succeeds : ∀ sm command, ∃ response, (applyCommand sm command).1 = .ok response)
    (sm : SM) (commands : List Command) :
    ∃ responses, (defaultApplyCommands applyCommand sm commands).1 = .ok responses := by
  induction commands generalizing sm with
  | nil => exact ⟨[], rfl⟩
  | cons command rest ih =>
      obtain ⟨response, ok⟩ := succeeds sm command
      unfold defaultApplyCommands
      cases applied : applyCommand sm command with
      | mk result sm' =>
          rw [applied] at ok
          cases ok
          obtain ⟨responses, rest_ok⟩ := ih sm'
          dsimp only
          cases outcome : defaultApplyCommands applyCommand sm' rest with
          | mk result sm'' =>
              rw [outcome] at rest_ok
              cases rest_ok
              exact ⟨response :: responses, rfl⟩

/-- Where no command fails, all are reached. -/
theorem attempted_eq_self
    (succeeds : ∀ sm command, ∃ response, (applyCommand sm command).1 = .ok response)
    (sm : SM) (commands : List Command) : attempted applyCommand sm commands = commands := by
  induction commands generalizing sm with
  | nil => rfl
  | cons command rest ih =>
      obtain ⟨response, ok⟩ := succeeds sm command
      unfold attempted
      split
      · rw [ih]
      · next failed =>
          rw [failed] at ok
          cases ok

end ApplyCommands

/-- The `StateMachine` trait. -/
class StateMachine (SM : Type) where
  applyCommand : SM → Command → Except RabiaError Bytes × SM
  applyCommands : SM → List Command → Except RabiaError (List Bytes) × SM :=
    defaultApplyCommands applyCommand
  createSnapshot : SM → Except RabiaError Snapshot
  restoreSnapshot : SM → Snapshot → Except RabiaError Unit × SM

end Rabia
