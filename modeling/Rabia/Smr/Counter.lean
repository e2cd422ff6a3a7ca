import Rabia.Core.Types
import Rabia.Lib.MachineInt
import Rabia.Lib.Runs

/-!
# The counter state machine

`examples/counter_smr/src/lib.rs`, and what it is for: an integer counter that refuses what
an `i64` cannot hold.
-/

namespace Rabia

open Rabia.Lib

/-- Commands that can be applied to the counter. -/
inductive CounterCommand where
  | increment (value : Int64)
  | decrement (value : Int64)
  | set (value : Int64)
  | get
  | reset
deriving DecidableEq

/-- Response from counter operations. -/
structure CounterResponse where
  value : Int64
  success : Bool
  message : Option String
deriving DecidableEq

namespace CounterResponse

/-- `CounterResponse::success`. -/
def succeed (value : Int64) : CounterResponse := ⟨value, true, none⟩

/-- `CounterResponse::error`. -/
def fail (value : Int64) (message : String) : CounterResponse := ⟨value, false, some message⟩

end CounterResponse

/-- State of the counter state machine. -/
structure CounterState where
  value : Int64 := 0
  operationCount : Nat := 0
deriving DecidableEq

namespace CounterSMR

/-- `CounterSMR::with_value`. -/
def withValue (initialValue : Int64) : CounterState := ⟨initialValue, 0⟩

/-- The outcome of a checked operation. -/
def checked (result : Option Int64) (message : String) (s : CounterState) :
    CounterResponse × CounterState :=
  match result with
  | some newValue => (.succeed newValue, { s with value := newValue })
  | none => (.fail s.value message, s)

/-- `apply_command`. -/
def applyCommand (command : CounterCommand) (s : CounterState) :
    CounterResponse × CounterState :=
  let s := { s with operationCount := (s.operationCount + 1) % u64Size }
  match command with
  | .increment value =>
    checked (checkedAdd s.value value) "Overflow: cannot increment counter" s
  | .decrement value =>
    checked (checkedSub s.value value) "Underflow: cannot decrement counter" s
  | .set value => (.succeed value, { s with value := value })
  | .get => (.succeed s.value, s)
  | .reset => (.succeed 0, { s with value := 0 })

/-! ## The integer counter -/

/-- Where a command would take an integer counter. -/
def target (v : Int) : CounterCommand → Int
  | .increment value => v + value.toInt
  | .decrement value => v - value.toInt
  | .set value => value.toInt
  | .get => v
  | .reset => 0

/-- An integer counter that stays where it is when it would leave the range of an `i64`. It
answers where it is, and whether it did what it was told. -/
def reference (command : CounterCommand) (v : Int) : (Int × Bool) × Int :=
  if FitsI64 (target v command) then ((target v command, true), target v command)
  else ((v, false), v)

/-- What a response says of the counter. -/
def reading (response : CounterResponse) : Int × Bool := (response.value.toInt, response.success)

theorem checked_reads {command : CounterCommand} {exact : Int} (message : String)
    {s : CounterState} (aims : target s.value.toInt command = exact) :
    reading (checked (resultI64 true exact) message s).1 = (reference command s.value.toInt).1 ∧
      (checked (resultI64 true exact) message s).2.value.toInt =
        (reference command s.value.toInt).2 := by
  subst aims
  unfold reference
  by_cases fits : FitsI64 (target s.value.toInt command)
  · rw [resultI64_of_fits true fits, if_pos fits]
    have same := toInt_ofInt_of_fits fits
    exact ⟨Prod.ext same rfl, same⟩
  · rw [resultI64_of_not_fits fits, if_neg fits]
    exact ⟨rfl, rfl⟩

theorem applyCommand_reads (command : CounterCommand) (s : CounterState) (v : Int)
    (same : s.value.toInt = v) :
    reading (applyCommand command s).1 = (reference command v).1 ∧
      (applyCommand command s).2.value.toInt = (reference command v).2 := by
  subst same
  let counted := { s with operationCount := (s.operationCount + 1) % u64Size }
  cases command with
  | increment value => exact checked_reads (s := counted) _ rfl
  | decrement value => exact checked_reads (s := counted) _ rfl
  | set value =>
      have fits : FitsI64 (target s.value.toInt (.set value)) := fitsI64_toInt value
      rw [reference, if_pos fits]
      exact ⟨rfl, rfl⟩
  | get =>
      have fits : FitsI64 (target s.value.toInt .get) := fitsI64_toInt s.value
      rw [reference, if_pos fits]
      exact ⟨rfl, rfl⟩
  | reset =>
      have fits : FitsI64 (target s.value.toInt .reset) := by
        show FitsI64 0
        decide
      rw [reference, if_pos fits]
      exact ⟨rfl, rfl⟩

theorem operationCount_applyCommand (command : CounterCommand) (s : CounterState) :
    (applyCommand command s).2.operationCount = (s.operationCount + 1) % u64Size := by
  have counts : ∀ result message (t : CounterState),
      (checked result message t).2.operationCount = t.operationCount := by
    intro result message t
    cases result <;> rfl
  cases command with
  | increment value => exact counts _ _ _
  | decrement value => exact counts _ _ _
  | set value => rfl
  | get => rfl
  | reset => rfl

/-- The counter is an integer counter that refuses what does not fit: its answers say what the
integer counter says, at every command of every sequence, it ends at the same number, and it
has counted the commands, those that it refused among them. -/
theorem counter_counts (initialValue : Int64) (commands : List CounterCommand) :
    (answers applyCommand (withValue initialValue) commands).map reading =
        answers reference initialValue.toInt commands ∧
      (leave applyCommand (withValue initialValue) commands).value.toInt =
        leave reference initialValue.toInt commands ∧
      (leave applyCommand (withValue initialValue) commands).operationCount =
        commands.length % u64Size := by
  obtain ⟨read, same⟩ := map_answers_eq_of_simulation (R := fun s v => s.value.toInt = v)
    applyCommand_reads (s := withValue initialValue) rfl commands
  refine ⟨read, same, ?_⟩
  have kept : ∀ n s command, s.operationCount = n % u64Size →
      (applyCommand command s).2.operationCount = (n + 1) % u64Size := fun n s command now => by
    rw [operationCount_applyCommand, now, Nat.mod_add_mod]
  have counted : (leave applyCommand (withValue initialValue) commands).operationCount =
      (0 + commands.length) % u64Size :=
    run_counted (I := fun n (s : CounterState) => s.operationCount = n % u64Size) kept rfl commands
  rwa [Nat.zero_add] at counted

end CounterSMR

end Rabia
