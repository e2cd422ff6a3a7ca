import Rabia.Kvstore.Mirror

/-!
# The limits of a store

`set` looks at the configured limits before it writes; `restore_snapshot` looks at
the checksum only, and writes whatever the snapshot holds. So a store stays within
its own limits exactly as long as the snapshots it accepts are within them.
-/

namespace Rabia

open Rabia.Lib

namespace KVStore

/-- What the configuration promises of the contents: a bounded number of keys, keys of 1
to 256 bytes, bounded values, and the size recorded with each value. -/
structure WithinLimits (config : KVStoreConfig) (data : Table String ValueEntry) : Prop where
  keys : data.size ≤ config.maxKeys
  entries : ∀ key entry, data.lookup key = some entry →
    (1 ≤ key.utf8ByteSize ∧ key.utf8ByteSize ≤ 256) ∧
      entry.value.utf8ByteSize ≤ config.maxValueSize ∧ entry.size = entry.value.utf8ByteSize

theorem withinLimits_empty (config : KVStoreConfig) : WithinLimits config ∅ where
  keys := Nat.zero_le _
  entries key entry found := by
    rw [Finmap.lookup_empty] at found
    cases found

theorem validateKey_eq_ok {key : String} :
    validateKey key = .ok () ↔ 1 ≤ key.utf8ByteSize ∧ key.utf8ByteSize ≤ 256 := by
  unfold validateKey
  have empty_iff : key.isEmpty = true ↔ key.utf8ByteSize = 0 := by simp
  by_cases empty : key.isEmpty
  · simp [empty, empty_iff.mp empty]
  · have some_left : key.utf8ByteSize ≠ 0 := fun none_left => empty (empty_iff.mpr none_left)
    rw [if_neg empty]
    by_cases long : key.utf8ByteSize > 256
    · simp [long]
    · simp [long]
      omega

/-! ## Calls -/

/-- What an accepted call leaves is within the limits. -/
theorem withinLimits_after (clock : Clock) {s : KVStore} {call : Call}
    (admitted : s.admits call = .ok ()) (within : WithinLimits s.config s.data) :
    WithinLimits s.config (s.after clock (s.change call)).data := by
  cases call with
  | set key value =>
      obtain ⟨keyOk, valueOk, room⟩ := admits_set.mp admitted
      have short := validateValue_eq_ok.mp valueOk
      rw [data_after_set]
      refine ⟨?_, ?_⟩
      · have few := within.keys
        rw [Table.size_insert]
        by_cases present : key ∈ s.data
        · rw [if_pos present]
          exact few
        · have below : s.data.size < s.config.maxKeys := room.resolve_left present
          -- a new key: `set` has made sure that there is room for it
          rw [if_neg present]
          omega
      · intro key' entry found
        rw [Table.lookup_insert] at found
        by_cases same : key' = key
        · rw [if_pos same] at found
          cases found
          rw [same]
          refine ⟨validateKey_eq_ok.mp keyOk, ?_⟩
          cases s.data.lookup key <;> exact ⟨short, rfl⟩
        · rw [if_neg same] at found
          exact within.entries key' entry found
  | delete key =>
      rw [data_after_delete]
      refine ⟨(Table.size_erase_le key s.data).trans within.keys, ?_⟩
      intro key' entry found
      rw [Table.lookup_erase] at found
      by_cases same : key' = key
      · rw [if_pos same] at found
        cases found
      · rw [if_neg same] at found
        exact within.entries key' entry found
  | clear =>
      rw [data_after_clear]
      exact withinLimits_empty s.config
  | get key | getWithMetadata key | keyExists key | keys order keyPrefix => exact within

/-- The limits of a store stay, and so do contents within them. -/
def Respects (s : KVStore) (_ : List ChangeNotification) (s' : KVStore) : Prop :=
  s'.config = s.config ∧ (WithinLimits s.config s.data → WithinLimits s.config s'.data)

theorem respects_path : Proc.Path Respects where
  nil _ := ⟨rfl, id⟩
  append := by
    rintro s s' s'' w w' ⟨config, kept⟩ ⟨config', kept'⟩
    refine ⟨config'.trans config, fun within => ?_⟩
    rw [config] at kept'
    exact kept' (kept within)

theorem Makes.respects {α : Type} {method : Method α} {clock : Clock} {call : Call}
    {result : KVStore → α} (makes : Makes method clock call result) :
    Proc.Within Respects method := by
  intro s
  cases verdict : s.admits call with
  | ok _ =>
      rw [makes.ok verdict]
      exact ⟨rfl, withinLimits_after clock verdict⟩
  | error err =>
      rw [makes.error verdict]
      exact respects_path.nil s

/-! ## Snapshots -/

/-- A request to a store, snapshots included. Those that it is to restore may come from
any store. -/
inductive StoreRequest where
  | serve (request : Request)
  | createSnapshot (order : List String) (clock : Clock)
  | restoreSnapshot (order : List String) (snapshot : StoreSnapshot)

section Runs

variable {η : Type} (hasher : Hasher η)

/-- The store after a request, whatever comes of it. -/
def serveStore (s : KVStore) : StoreRequest → KVStore
  | .serve request => (serveRequest request s).state
  | .createSnapshot order clock => (createSnapshot hasher order clock s).state
  | .restoreSnapshot order snapshot => (restoreSnapshot hasher order snapshot s).state

theorem serveStore_restored {order : List String} {snapshot : StoreSnapshot}
    (accepted : Accepts hasher order snapshot) (s : KVStore) :
    (serveStore hasher s (.restoreSnapshot order snapshot)).data = snapshot.data := by
  show (restoreSnapshot hasher order snapshot s).state.data = _
  rw [restoreSnapshot_accepted hasher order accepted]

theorem serveStore_config (s : KVStore) (request : StoreRequest) :
    (serveStore hasher s request).config = s.config := by
  cases request with
  | serve request =>
      exact (serveRequest_within respects_path (fun makes => makes.respects) request s).1
  | createSnapshot order clock => rfl
  | restoreSnapshot order snapshot =>
      show (restoreSnapshot hasher order snapshot s).state.config = _
      rw [restoreSnapshot_apply]
      split <;> rfl

/-- A request keeps the limits when the snapshot that it has accepted, if any, is within
them. -/
theorem serveStore_within {s : KVStore} {request : StoreRequest}
    (sound : ∀ order snapshot, request = .restoreSnapshot order snapshot →
      Accepts hasher order snapshot → WithinLimits s.config snapshot.data)
    (within : WithinLimits s.config s.data) :
    WithinLimits s.config (serveStore hasher s request).data := by
  cases request with
  | serve request =>
      exact (serveRequest_within respects_path (fun makes => makes.respects) request s).2 within
  | createSnapshot order clock => exact within
  | restoreSnapshot order snapshot =>
      by_cases accepted : Accepts hasher order snapshot
      · rw [serveStore_restored hasher accepted]
        exact sound order snapshot rfl accepted
      · show WithinLimits s.config (restoreSnapshot hasher order snapshot s).state.data
        rw [restoreSnapshot_refused hasher order accepted]
        exact within

/-- A store is within its limits throughout a run exactly when every snapshot that it
accepts in the run is. -/
theorem within_limits_iff (config : KVStoreConfig) (requests : List StoreRequest) :
    (∀ served, served <+: requests →
        WithinLimits config (run (serveStore hasher) (new config) served).data) ↔
      ∀ order snapshot, .restoreSnapshot order snapshot ∈ requests →
        Accepts hasher order snapshot → WithinLimits config snapshot.data := by
  constructor
  · -- right after the restore the store holds what the snapshot holds
    intro throughout order snapshot member accepted
    obtain ⟨before, later, rfl⟩ := List.append_of_mem member
    have reached := throughout (before ++ [.restoreSnapshot order snapshot])
      ⟨later, by rw [List.append_assoc]; rfl⟩
    rw [run_append] at reached
    rw [← serveStore_restored hasher accepted (run (serveStore hasher) (new config) before)]
    exact reached
  · intro sound served part
    have fits : Along (serveStore hasher) (fun _ request =>
        ∀ order snapshot, request = .restoreSnapshot order snapshot →
          Accepts hasher order snapshot → WithinLimits config snapshot.data)
        (new config) served := by
      apply along_of_mem
      rintro request member order snapshot rfl
      exact sound order snapshot (part.subset member)
    have kept := run_invariant (I := fun s => s.config = config ∧ WithinLimits config s.data)
      ?_ ⟨rfl, withinLimits_empty config⟩ fits
    · exact kept.2
    · rintro s request ⟨rfl, within⟩ sound
      exact ⟨serveStore_config hasher s request, serveStore_within hasher sound within⟩

end Runs

/-- A snapshot of a store with larger limits is restored over the limits. -/
theorem limits_passed :
    ¬ ∀ (η : Type) (hasher : Hasher η) (config : KVStoreConfig) (requests : List StoreRequest)
      (served : List StoreRequest), served <+: requests →
        WithinLimits config (run (serveStore hasher) (new config) served).data := by
  intro within
  let large := (set ⟨0, 0⟩ "k" "value" (new .default)).state
  let snapshot : StoreSnapshot :=
    ⟨large.data, 0, 0, calculateChecksum polynomialHasher [] large.data⟩
  let requests := [StoreRequest.restoreSnapshot [] snapshot]
  have reached := within Nat polynomialHasher ⟨10, true, 4⟩ requests requests (List.prefix_refl _)
  have entry := reached.entries "k" (.new 0 "value") (by decide)
  exact absurd entry.2.1 (by decide)

end KVStore

end Rabia
