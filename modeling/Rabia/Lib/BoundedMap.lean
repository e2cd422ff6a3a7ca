import Rabia.Lib.Table

/-!
# Bounded maps

Finite maps with at most `capacity` keys. A write at a key that is present
always goes through; a write at another key needs room.
-/

namespace Rabia.Lib

/-- A finite map with at most `capacity` keys. -/
structure BoundedMap (κ ν : Type*) (capacity : Nat) where
  entries : Table κ ν
  bounded : entries.size ≤ capacity

namespace BoundedMap

variable {κ ν : Type*} [DecidableEq κ] {capacity : Nat}

/-- The value at a key. -/
def lookup (m : BoundedMap κ ν capacity) (k : κ) : Option ν := m.entries.lookup k

/-- The map without keys. -/
def empty : BoundedMap κ ν capacity := ⟨∅, Nat.zero_le capacity⟩

theorem size_insert_le {k : κ} {v : ν} (m : BoundedMap κ ν capacity)
    (room : k ∈ m.entries ∨ m.entries.size < capacity) :
    Table.size (m.entries.insert k v) ≤ capacity := by
  have bounded := m.bounded
  rw [Table.size_insert]
  by_cases present : k ∈ m.entries
  · rw [if_pos present]
    exact bounded
  · have below := room.resolve_left present
    rw [if_neg present]
    omega

/-- Write at a key that is present, or for which there is room. -/
def write (k : κ) (v : ν) (m : BoundedMap κ ν capacity) : Option (BoundedMap κ ν capacity) :=
  if room : k ∈ m.entries ∨ m.entries.size < capacity then
    some ⟨m.entries.insert k v, size_insert_le m room⟩
  else none

/-- Remove a key. -/
def remove (k : κ) (m : BoundedMap κ ν capacity) : BoundedMap κ ν capacity :=
  ⟨m.entries.erase k, Nat.le_trans (Table.size_erase_le k m.entries) m.bounded⟩

theorem write_eq_none_iff {k : κ} {v : ν} {m : BoundedMap κ ν capacity} :
    m.write k v = none ↔ k ∉ m.entries ∧ m.entries.size ≥ capacity := by
  simp [write]

theorem room_of_write {k : κ} {v : ν} {m m' : BoundedMap κ ν capacity}
    (written : m.write k v = some m') : k ∈ m.entries ∨ m.entries.size < capacity := by
  by_contra full
  rw [not_or, Nat.not_lt] at full
  rw [write_eq_none_iff.mpr full] at written
  cases written

theorem lookup_write {k k' : κ} {v : ν} {m m' : BoundedMap κ ν capacity}
    (written : m.write k v = some m') :
    m'.lookup k' = if k' = k then some v else m.lookup k' := by
  unfold write at written
  split at written
  · cases written
    exact Table.lookup_insert k k' v m.entries
  · cases written

@[simp] theorem lookup_remove (k k' : κ) (m : BoundedMap κ ν capacity) :
    (m.remove k).lookup k' = if k' = k then none else m.lookup k' :=
  Table.lookup_erase k k' m.entries

@[simp] theorem lookup_empty (k : κ) : (empty : BoundedMap κ ν capacity).lookup k = none :=
  Finmap.lookup_empty k

end BoundedMap

end Rabia.Lib
