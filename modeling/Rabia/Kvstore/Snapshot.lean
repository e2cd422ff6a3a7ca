import Rabia.Kvstore.Calls

/-!
# Snapshots

`create_snapshot` folds a hasher over the entries of the map in the order in which
the map happens to be walked, and `restore_snapshot` compares that with the fold over
the map it is given. A map that went through serialisation has an order of its own:
for every hasher to agree, both walks have to be the same (`snapshot_survives_iff`),
and only contents without a second key leave no other choice.
-/

namespace Rabia

open Rabia.Lib

namespace KVStore

section Calls

variable {η : Type} (hasher : Hasher η) (order : List String)

theorem createSnapshot_apply (clock : Clock) (s : KVStore) :
    createSnapshot hasher order clock s =
      ⟨.ok ⟨s.data, s.version, clock.notice, calculateChecksum hasher order s.data⟩,
        ⟨s.config, s.data, ⟨s.stats.totalOperations, clock.notice, 0⟩,
          (s.version + 1) % u64Size⟩, []⟩ := rfl

theorem restored_data (items : List (String × ValueEntry)) (s : KVStore) :
    items.foldl (fun s item => { s with data := s.data.insert item.1 item.2 }) s =
      { s with data := Table.writeAll items s.data } := by
  induction items generalizing s with
  | nil => rfl
  | cons item items ih =>
      rw [List.foldl_cons, ih]
      rfl

/-- A snapshot is taken over whole, or refused. -/
theorem restoreSnapshot_apply (snapshot : StoreSnapshot) (s : KVStore) :
    restoreSnapshot hasher order snapshot s =
      if calculateChecksum hasher order snapshot.data ≠ snapshot.checksum then
        ⟨.error .invalidSnapshot, s, []⟩
      else ⟨.ok (), { s with data := snapshot.data, version := snapshot.version }, []⟩ := by
  unfold restoreSnapshot
  by_cases differs : calculateChecksum hasher order snapshot.data ≠ snapshot.checksum
  · rw [if_pos differs, if_pos differs]
    rfl
  · rw [if_neg differs, if_neg differs, Proc.modify_bind, Proc.bind_ok (Proc.forM_modify _ _ _),
      restored_data, Table.writeAll_walk]
    rfl

/-- `restore_snapshot` accepts the snapshot. -/
def Accepts (snapshot : StoreSnapshot) : Prop :=
  calculateChecksum hasher order snapshot.data = snapshot.checksum

theorem restoreSnapshot_accepted {snapshot : StoreSnapshot}
    (accepted : Accepts hasher order snapshot) (s : KVStore) :
    restoreSnapshot hasher order snapshot s =
      ⟨.ok (), { s with data := snapshot.data, version := snapshot.version }, []⟩ := by
  rw [restoreSnapshot_apply]
  exact if_neg (not_not_intro accepted)

theorem restoreSnapshot_refused {snapshot : StoreSnapshot}
    (refused : ¬ Accepts hasher order snapshot) (s : KVStore) :
    restoreSnapshot hasher order snapshot s = ⟨.error .invalidSnapshot, s, []⟩ := by
  rw [restoreSnapshot_apply]
  exact if_pos refused

end Calls

/-! ## Through serialisation -/

/-- A snapshot of these contents, made while the map is walked in the order of `written`
and read back into a map that is walked in the order of `read`, is accepted by every
store and installs the contents. -/
def Survives {η : Type} (hasher : Hasher η) (written read : List String)
    (contents : Table String ValueEntry) : Prop :=
  ∀ (source target : KVStore) (clock : Clock), source.data = contents →
    ∃ snapshot, (createSnapshot hasher written clock source).result = .ok snapshot ∧
      (restoreSnapshot hasher read snapshot target).result = .ok () ∧
      (restoreSnapshot hasher read snapshot target).state.data = contents

theorem survives_iff_checksum {η : Type} {hasher : Hasher η} {written read : List String}
    {contents : Table String ValueEntry} :
    Survives hasher written read contents ↔
      calculateChecksum hasher read contents = calculateChecksum hasher written contents := by
  constructor
  · intro survives
    let source : KVStore := { new .default with data := contents }
    obtain ⟨snapshot, made, accepted, -⟩ := survives source source ⟨0, 0⟩ rfl
    rw [createSnapshot_apply] at made
    cases made
    rw [restoreSnapshot_apply] at accepted
    by_contra differs
    rw [if_pos differs] at accepted
    cases accepted
  · rintro same source target clock rfl
    refine ⟨_, congrArg Outcome.result (createSnapshot_apply hasher written clock source), ?_⟩
    rw [restoreSnapshot_apply, if_neg (not_not_intro same)]
    exact ⟨rfl, rfl⟩

/-- What is written to the hasher for an entry: its key, its value and its version. -/
def fields (item : String × ValueEntry) : List (String ⊕ Nat) :=
  [.inl item.1, .inl item.2.value, .inr item.2.version]

/-- The fields of a walk tell the keys in their order. -/
theorem keys_of_fields {items items' : List (String × ValueEntry)}
    (same : items.flatMap fields = items'.flatMap fields) :
    items.map Prod.fst = items'.map Prod.fst := by
  induction items generalizing items' with
  | nil =>
      cases items' with
      | nil => rfl
      | cons item' items' => simp [fields] at same
  | cons item items ih =>
      cases items' with
      | nil => simp [fields] at same
      | cons item' items' =>
          simp [fields] at same
          simp [same.1, ih same.2.2.2]

/-- The hasher that recognises one sequence of fields. -/
def recogniser (sequence : List (String ⊕ Nat)) : Hasher (List (String ⊕ Nat)) where
  new := []
  writeStr text written := written ++ [.inl text]
  writeU64 number written := written ++ [.inr number]
  finish written := if written = sequence then 0 else 1

theorem foldl_recogniser (sequence written : List (String ⊕ Nat))
    (items : List (String × ValueEntry)) :
    items.foldl (hashEntry (recogniser sequence)) written = written ++ items.flatMap fields := by
  induction items generalizing written with
  | nil => simp
  | cons item items ih =>
      rw [List.foldl_cons, ih]
      simp [hashEntry, recogniser, fields]

/-- Some hasher tells apart any two walks of a map. -/
theorem same_walk_of_survives {written read : List String} {contents : Table String ValueEntry}
    (survives : ∀ (η : Type) (hasher : Hasher η), Survives hasher written read contents) :
    iterate written contents.keys = iterate read contents.keys := by
  have same := survives_iff_checksum.mp
    (survives _ (recogniser ((Table.walk written contents).flatMap fields)))
  simp only [calculateChecksum, foldl_recogniser] at same
  rw [← Table.map_fst_walk, ← Table.map_fst_walk]
  apply keys_of_fields
  -- the recogniser of one walk gives other fields another checksum
  by_contra differs
  simp [recogniser, Ne.symm differs] at same

/-- A snapshot survives serialisation under every hasher exactly when the rebuilt map is
walked in the order in which the original was, and whatever the two orders are exactly
when it has at most one key. -/
theorem snapshot_survives_iff (contents : Table String ValueEntry) :
    (∀ written read : List String,
      (∀ (η : Type) (hasher : Hasher η), Survives hasher written read contents) ↔
        iterate written contents.keys = iterate read contents.keys) ∧
    ((∀ (written read : List String) (η : Type) (hasher : Hasher η),
        Survives hasher written read contents) ↔
      contents.size ≤ 1) := by
  have ordered : ∀ written read : List String,
      (∀ (η : Type) (hasher : Hasher η), Survives hasher written read contents) ↔
        iterate written contents.keys = iterate read contents.keys := by
    intro written read
    refine ⟨same_walk_of_survives, fun same η hasher => survives_iff_checksum.mpr ?_⟩
    simp only [calculateChecksum, Table.walk, same]
  refine ⟨ordered, ?_⟩
  rw [Table.size, ← iterate_unique_iff]
  exact forall_congr' fun written => forall_congr' fun read => ordered written read

/-- A polynomial hasher over characters and numbers. -/
def polynomialHasher : Hasher Nat where
  new := 7
  writeStr text state := text.toList.foldl (fun state c => (31 * state + c.toNat) % u64Size) state
  writeU64 number state := (31 * state + number) % u64Size
  finish state := state

/-- Two keys, as `set` leaves them in a new store. -/
def twoKeys : Table String ValueEntry :=
  ((∅ : Table String ValueEntry).insert "key1" (.new 0 "value1")).insert "key2" (.new 0 "value2")

/-- Rebuilt in the other order, two keys are refused. -/
theorem two_keys_refused :
    ¬ Survives polynomialHasher ["key1", "key2"] ["key2", "key1"] twoKeys := by
  rw [survives_iff_checksum]
  decide

end KVStore

end Rabia
