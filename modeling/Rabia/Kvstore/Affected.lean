import Rabia.Kvstore.Mirror

/-!
# What a batch affects

`affected_keys`, `has_write_operations` and `is_read_only` of `OperationBatch` against what
`apply_batch` does with its operations: over any sequence of batches, whatever fails in them,
the store changes and tells of changes at affected keys only.
-/

namespace Rabia

open Rabia.Lib

namespace OperationBatch

/-- The operations with the clock readings that they take. -/
def timed (batch : OperationBatch) (clock : Nat → Clock) : List (Clock × KVOperation) :=
  batch.operations.zipIdx.map fun operation => (clock operation.2, operation.1)

end OperationBatch

namespace KVStore

/-- Entries changed, and changes were published, at keys in `K` only. -/
structure Touches (K : String → Prop) (s : KVStore) (w : List ChangeNotification)
    (s' : KVStore) : Prop where
  entries : ∀ key, ¬ K key → s'.data.lookup key = s.data.lookup key
  news : ∀ n ∈ w, K n.key
  version : (∀ key, ¬ K key) → s'.version = s.version

theorem touches_path (K : String → Prop) : Proc.Path (Touches K) where
  nil s := ⟨fun _ _ => rfl, fun _ impossible => absurd impossible List.not_mem_nil, fun _ => rfl⟩
  append {s s' s'' w w'} first second := by
    refine ⟨fun key outside => ?_, fun n member => ?_, fun nowhere => ?_⟩
    · rw [second.entries key outside, first.entries key outside]
    · rcases List.mem_append.mp member with old | new
      · exact first.news n old
      · exact second.news n new
    · rw [second.version nowhere, first.version nowhere]

/-- The notification of a change at a key is about it. -/
theorem news_key {clock : Clock} {s : KVStore} {operation : KVOperation} {n : ChangeNotification}
    (member : n ∈ s.news clock (s.change (callOf operation))) :
    operation.isWriteOperation = true ∧ n.key = operation.key := by
  unfold news at member
  split at member
  · cases operation with
    | set key value =>
        cases found : s.data.lookup key <;>
          simp [callOf, change, found, Change.notification] at member <;>
          exact ⟨rfl, by rw [member]; rfl⟩
    | delete key =>
        cases found : s.data.lookup key <;>
          simp [callOf, change, found, Change.notification] at member
        exact ⟨rfl, by rw [member]; rfl⟩
    | get key => cases member
    | «exists» key => cases member
  · cases member

/-- The call of an operation affects its key, and nothing when it reads. -/
theorem touches_after {K : String → Prop} (clock : Clock) (s : KVStore) {operation : KVOperation}
    (within : operation.isWriteOperation = true → K operation.key) :
    Touches K s (s.news clock (s.change (callOf operation)))
      (s.after clock (s.change (callOf operation))) := by
  have told : ∀ n ∈ s.news clock (s.change (callOf operation)), K n.key := by
    intro n member
    obtain ⟨writes, same⟩ := news_key member
    rw [same]
    exact within writes
  cases operation with
  | set key value =>
      refine ⟨fun other outside => ?_, told, fun nowhere => absurd (within rfl) (nowhere key)⟩
      have apart : other ≠ key := fun same => outside (same ▸ within rfl)
      rw [callOf, data_after_set, Table.lookup_insert, if_neg apart]
  | delete key =>
      refine ⟨fun other outside => ?_, told, fun nowhere => absurd (within rfl) (nowhere key)⟩
      have apart : other ≠ key := fun same => outside (same ▸ within rfl)
      rw [callOf, data_after_delete, Table.lookup_erase, if_neg apart]
  | get key | «exists» key => exact ⟨fun _ _ => rfl, told, fun _ => by simp [after, callOf, change]⟩

theorem applyOperation_touches {K : String → Prop} (clock : Clock) {operation : KVOperation}
    (within : operation.isWriteOperation = true → K operation.key) :
    Proc.Within (Touches K) (applyOperation clock operation) := by
  intro s
  have makes := applyOperation_makes clock operation
  cases verdict : s.admits (callOf operation) with
  | ok _ =>
      rw [makes.ok verdict]
      exact touches_after clock s within
  | error err =>
      rw [makes.error verdict]
      exact (touches_path K).nil s

theorem applyBatch_touches {K : String → Prop} {operations : List (Clock × KVOperation)}
    (within : ∀ operation ∈ operations, operation.2.isWriteOperation = true → K operation.2.key) :
    Proc.Within (Touches K) (applyBatch operations) := by
  induction operations with
  | nil => exact Proc.Within.pure (touches_path K) []
  | cons first operations ih =>
      have round := applyOperation_touches first.1 (within first List.mem_cons_self)
      have rest := ih fun operation member => within operation (List.mem_cons_of_mem _ member)
      refine Proc.Within.bind (touches_path K) round fun result => ?_
      exact Proc.Within.bind (touches_path K) rest fun results =>
        Proc.Within.pure (touches_path K) _

/-- The batches of a session, each with the clock readings that it takes. -/
def batches (served : List (OperationBatch × (Nat → Clock))) : List Request :=
  served.map fun next => .batch (next.1.timed next.2)

/-- Some batch that is not read-only affects the key. -/
def Affected (served : List (OperationBatch × (Nat → Clock))) (key : String) : Prop :=
  ∃ next ∈ served, next.1.hasWriteOperations = true ∧ key ∈ next.1.affectedKeys

theorem session_touches (served : List (OperationBatch × (Nat → Clock))) :
    Proc.Within (Touches (Affected served)) (session (batches served)) := by
  refine Proc.Within.forM_of_mem (touches_path _) fun request member => ?_
  obtain ⟨next, among, rfl⟩ := List.mem_map.mp member
  have batch : Proc.Within (Touches (Affected served)) (applyBatch (next.1.timed next.2)) := by
    refine applyBatch_touches fun operation timed writes => ?_
    obtain ⟨⟨operation', i⟩, inside, rfl⟩ := List.mem_map.mp timed
    have own : operation' ∈ next.1.operations := (List.mem_zipIdx inside).2.2 ▸ List.getElem_mem _
    exact ⟨next, among, List.any_eq_true.mpr ⟨operation', own, writes⟩, List.mem_map_of_mem own⟩
  exact Proc.Within.bind (touches_path _) (Proc.Within.attempt batch) fun _ =>
    Proc.Within.pure (touches_path _) ()

/-- Whatever batches a store serves, and whatever fails in them: entries stay at all keys that no
batch affects, notifications are about keys that a batch affects which is not read-only, and if
all are read-only, then nothing changes but the statistics and nothing is published. -/
theorem batches_touch_affected_keys (s : KVStore)
    (served : List (OperationBatch × (Nat → Clock))) :
    let outcome := session (batches served) s
    (∀ key, (∀ next ∈ served, key ∉ next.1.affectedKeys) →
        outcome.state.data.lookup key = s.data.lookup key) ∧
      (∀ n ∈ outcome.effects, ∃ next ∈ served,
        next.1.hasWriteOperations = true ∧ n.key ∈ next.1.affectedKeys) ∧
      ((∀ next ∈ served, next.1.isReadOnly = true) →
        outcome.state.data = s.data ∧ outcome.state.version = s.version ∧
          outcome.effects = []) := by
  intro outcome
  have touches : Touches (Affected served) s outcome.effects outcome.state :=
    session_touches served s
  refine ⟨?_, touches.news, ?_⟩
  · intro key apart
    refine touches.entries key ?_
    rintro ⟨next, member, -, affected⟩
    exact apart next member affected
  · intro readOnly
    have nowhere : ∀ key, ¬ Affected served key := by
      rintro key ⟨next, member, writes, -⟩
      rw [OperationBatch.hasWriteOperations_eq, readOnly next member] at writes
      cases writes
    refine ⟨Finmap.ext_lookup fun key => touches.entries key (nowhere key),
      touches.version nowhere, List.eq_nil_iff_forall_not_mem.mpr fun n member => ?_⟩
    exact nowhere n.key (touches.news n member)

end KVStore

end Rabia
