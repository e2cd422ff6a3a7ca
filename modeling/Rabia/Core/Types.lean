import Mathlib.Algebra.Ring.Nat
import Mathlib.Order.Lattice
import Mathlib.Order.Defs.LinearOrder

/-!
# Core types

`rabia-core/src/types.rs` and `rabia-core/src/error.rs`: identifiers, vote
values, commands, batches and errors.
-/

namespace Rabia

/-- Unique identifier for a node in the consensus cluster. -/
structure NodeId where
  uuid : Nat
deriving DecidableEq, Repr

theorem NodeId.uuid_injective : Function.Injective NodeId.uuid := by
  rintro ⟨a⟩ ⟨b⟩ h
  exact congrArg NodeId.mk h

instance : LinearOrder NodeId := LinearOrder.lift' NodeId.uuid NodeId.uuid_injective

/-- Identifier for a consensus phase: the value of a `u64`. -/
abbrev PhaseId := Nat

/-- Unique identifier for a command batch. -/
structure BatchId where
  uuid : Nat
deriving DecidableEq, Repr

/-- `u64` arithmetic wraps. -/
def u64Size : Nat := 2 ^ 64

/-- State values used in the consensus protocol: reject, accept, undecided. -/
inductive StateValue where
  | v0
  | v1
  | vQuestion
deriving DecidableEq, Repr

/-- A byte string. -/
abbrev Bytes := List UInt8

/-- A command to be executed by the state machine. -/
structure Command where
  id : Nat
  data : Bytes
deriving DecidableEq, Repr

/-- A batch of commands processed together. `timestamp` is in milliseconds
since the Unix epoch. -/
structure CommandBatch where
  id : BatchId
  commands : List Command
  timestamp : Nat
deriving DecidableEq, Repr

/-- The errors of the modelled code paths, with the data of their messages. -/
inductive RabiaError where
  | network (message : String)
  | persistence (message : String)
  | stateMachine (message : String)
  | invalidStateTransition (source target : String)
  | quorumNotAvailable (current required : Nat)
  | checksumMismatch (expected actual : Nat)
  | internal (message : String)
deriving DecidableEq, Repr

end Rabia
