import Mathlib.Tactic.Common

/-!
# Operations of the key-value store

`rabia-kvstore/src/operations.rs`: the operations of a batch, their results and
the errors of the store.
-/

namespace Rabia

/-- Operations that can be performed on the store. -/
inductive KVOperation where
  | set (key value : String)
  | get (key : String)
  | delete (key : String)
  | exists (key : String)
deriving DecidableEq, Repr

namespace KVOperation

/-- `key`. -/
def key : KVOperation → String
  | .set key _ | .get key | .delete key | .exists key => key

/-- `is_write_operation`. -/
def isWriteOperation : KVOperation → Bool
  | .set _ _ | .delete _ => true
  | .get _ | .exists _ => false

/-- `is_read_operation`. -/
def isReadOperation (operation : KVOperation) : Bool := !operation.isWriteOperation

end KVOperation

/-- `OperationBatch`. -/
structure OperationBatch where
  operations : List KVOperation
  batchId : String
  createdAt : Nat
deriving DecidableEq, Repr

namespace OperationBatch

/-- `has_write_operations`. -/
def hasWriteOperations (batch : OperationBatch) : Bool :=
  batch.operations.any KVOperation.isWriteOperation

/-- `is_read_only`. -/
def isReadOnly (batch : OperationBatch) : Bool := batch.operations.all KVOperation.isReadOperation

/-- `affected_keys`. -/
def affectedKeys (batch : OperationBatch) : List String := batch.operations.map KVOperation.key

theorem hasWriteOperations_eq (batch : OperationBatch) :
    batch.hasWriteOperations = !batch.isReadOnly := by
  unfold hasWriteOperations isReadOnly
  rw [List.any_eq_not_all_not]
  rfl

end OperationBatch

/-- Result of a store operation. -/
inductive KVResult where
  | success
  | notFound
  | error (message : String)
deriving DecidableEq, Repr

/-- The errors of the modelled code paths. -/
inductive StoreError where
  | invalidKey (reason : String)
  | valueTooLarge
  | storeFull
  | invalidSnapshot
deriving DecidableEq, Repr

end Rabia
