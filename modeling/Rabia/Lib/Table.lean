import Mathlib.Data.Finmap
import Mathlib.Data.List.Sort

/-!
# Finite tables

The hash maps of a program, as Mathlib's `Finmap` at a constant value type:

* `Table.count` — how many keys hold a given value, with `Table.holders` the
  set of those keys;
* `Table.update` — change the value at a key that is present, and only then;
* `Table.writeAll` — a sequence of writes, of which the last at a key wins;
* `Table.retain` — keep the entries a predicate accepts;
* `iterate`, `Table.walk` — the order in which a hash set or map is walked. The
  order is not part of the value, so it is a parameter;
* `maxByKey` — the iterator method of that name, which takes the last of equals.
-/

namespace Rabia.Lib

/-- A finite map from `κ` to `ν`. -/
abbrev Table (κ ν : Type*) := Finmap (fun _ : κ => ν)

namespace Table

variable {κ ν : Type*} [DecidableEq κ]

/-! ## Counting values -/

/-- The number of entries whose value is `v`. -/
def count [DecidableEq ν] (t : Table κ ν) (v : ν) : Nat :=
  t.entries.countP (fun e => e.2 = v)

/-- The keys that hold `v`. -/
def holders [DecidableEq ν] (t : Table κ ν) (v : ν) : Finset κ :=
  t.keys.filter (fun k => t.lookup k = some v)

/-- The number of entries. -/
def size (t : Table κ ν) : Nat := t.keys.card

@[simp] theorem mem_holders [DecidableEq ν] {t : Table κ ν} {v : ν} {k : κ} :
    k ∈ holders t v ↔ t.lookup k = some v := by
  simp only [holders, Finset.mem_filter, Finmap.mem_keys]
  exact ⟨And.right, fun h => ⟨Finmap.mem_of_lookup_eq_some h, h⟩⟩

/-- Entries and keys count alike, since no key occurs twice. -/
theorem count_eq_card_holders [DecidableEq ν] (t : Table κ ν) (v : ν) :
    count t v = (holders t v).card := by
  have entriesNodup : (t.entries.filter (fun e => e.2 = v)).Nodup :=
    (Finmap.nodup_entries t).filter _
  have keysNodup : ((t.entries.filter (fun e => e.2 = v)).map Sigma.fst).Nodup := by
    refine Multiset.nodup_of_le (Multiset.map_le_map (Multiset.filter_le _ _)) ?_
    exact Multiset.nodup_keys.mpr t.nodupKeys
  have same : holders t v = ⟨_, keysNodup⟩ := by
    ext k
    rw [mem_holders, Finmap.lookup_eq_some_iff, Finset.mem_mk, Multiset.mem_map]
    constructor
    · intro h
      exact ⟨⟨k, v⟩, Multiset.mem_filter.mpr ⟨h, rfl⟩, rfl⟩
    · rintro ⟨⟨k', v'⟩, hmem, rfl⟩
      obtain ⟨hin, rfl⟩ := Multiset.mem_filter.mp hmem
      exact hin
  rw [same, Finset.card_mk, Multiset.card_map, count, Multiset.countP_eq_card_filter]

theorem size_eq_zero {t : Table κ ν} : t.size = 0 ↔ t = ∅ := by
  constructor
  · intro none_left
    refine Finmap.ext_lookup fun k => ?_
    rw [Finmap.lookup_empty, Finmap.lookup_eq_none, ← Finmap.mem_keys]
    intro member
    rw [Finset.card_eq_zero.mp none_left] at member
    exact Finset.notMem_empty k member
  · rintro rfl
    rfl

theorem keys_insert (k : κ) (v : ν) (t : Table κ ν) :
    (t.insert k v).keys = insert k t.keys := by
  ext k'
  rw [Finset.mem_insert, Finmap.mem_keys, Finmap.mem_keys, Finmap.mem_insert]

theorem size_insert (k : κ) (v : ν) (t : Table κ ν) :
    size (t.insert k v) = if k ∈ t then t.size else t.size + 1 := by
  unfold size
  rw [keys_insert]
  by_cases present : k ∈ t
  · rw [if_pos present, Finset.insert_eq_of_mem (Finmap.mem_keys.mpr present)]
  · rw [if_neg present, Finset.card_insert_of_notMem fun h => present (Finmap.mem_keys.mp h)]

theorem size_erase_le (k : κ) (t : Table κ ν) : size (t.erase k) ≤ t.size := by
  unfold size
  rw [Finmap.keys_erase]
  exact Finset.card_erase_le

/-- Tables with the same lookups up to the values have the same keys. -/
theorem keys_eq_of_lookup {ν' : Type*} {t : Table κ ν} {t' : Table κ ν'} {f : ν' → ν}
    (same : ∀ k, t.lookup k = (t'.lookup k).map f) : t.keys = t'.keys := by
  ext k
  rw [Finmap.mem_keys, Finmap.mem_keys, ← Finmap.lookup_isSome, ← Finmap.lookup_isSome, same k,
    Option.isSome_map]

/-! ## Updating -/

/-- Apply `f` to the value at `k`, when there is one. -/
def update (k : κ) (f : ν → ν) (t : Table κ ν) : Table κ ν :=
  match t.lookup k with
  | some v => t.insert k (f v)
  | none => t

theorem lookup_update (k k' : κ) (f : ν → ν) (t : Table κ ν) :
    (update k f t).lookup k' = if k' = k then (t.lookup k).map f else t.lookup k' := by
  unfold update
  by_cases hk : k' = k
  · subst hk
    cases h : t.lookup k' with
    | none => simp [h]
    | some v => simp
  · cases h : t.lookup k with
    | none => simp [hk]
    | some v => simp [hk, Finmap.lookup_insert_of_ne]

theorem lookup_insert (k k' : κ) (v : ν) (t : Table κ ν) :
    (t.insert k v).lookup k' = if k' = k then some v else t.lookup k' := by
  by_cases hk : k' = k
  · subst hk; simp
  · simp [hk, Finmap.lookup_insert_of_ne]

theorem insert_inj {k : κ} {v v' : ν} {t : Table κ ν} : t.insert k v = t.insert k v' ↔ v = v' := by
  constructor
  · intro same
    have found := congrArg (Finmap.lookup k) same
    rw [Finmap.lookup_insert, Finmap.lookup_insert] at found
    exact Option.some_inj.mp found
  · rintro rfl
    rfl

theorem insert_ne_empty (k : κ) (v : ν) (t : Table κ ν) : t.insert k v ≠ ∅ := by
  intro same
  have found := congrArg (Finmap.lookup k) same
  simp at found

theorem lookup_erase (k k' : κ) (t : Table κ ν) :
    (t.erase k).lookup k' = if k' = k then none else t.lookup k' := by
  by_cases hk : k' = k
  · subst hk; simp
  · simp [hk, Finmap.lookup_erase_ne]

/-! ## Writing a sequence -/

/-- The table after these writes, in order. -/
def writeAll (ws : List (κ × ν)) (t : Table κ ν) : Table κ ν :=
  ws.foldl (fun t w => t.insert w.1 w.2) t

/-- The last value written at a key. -/
def lastWrite (ws : List (κ × ν)) (k : κ) : Option ν :=
  (ws.filter fun w => w.1 = k).getLast?.map Prod.snd

theorem lastWrite_append (ws ws' : List (κ × ν)) (k : κ) :
    lastWrite (ws ++ ws') k = (lastWrite ws' k).or (lastWrite ws k) := by
  unfold lastWrite
  rw [List.filter_append, List.getLast?_append]
  cases (ws'.filter fun w => w.1 = k).getLast? <;> rfl

theorem lastWrite_cons (w : κ × ν) (ws : List (κ × ν)) (k : κ) :
    lastWrite (w :: ws) k = (lastWrite ws k).or (if k = w.1 then some w.2 else none) := by
  rw [← List.singleton_append, lastWrite_append]
  congr 1
  unfold lastWrite
  by_cases same : k = w.1
  · subst same
    simp
  · simp [same, Ne.symm same]

/-- What was written last was written. -/
theorem mem_of_lastWrite {ws : List (κ × ν)} {k : κ} {v : ν} (h : lastWrite ws k = some v) :
    (k, v) ∈ ws := by
  unfold lastWrite at h
  obtain ⟨⟨k', v'⟩, last, rfl⟩ := Option.map_eq_some_iff.mp h
  obtain ⟨member, same⟩ := List.mem_filter.mp (List.mem_of_getLast? last)
  have key : k' = k := of_decide_eq_true same
  subst key
  exact member

theorem lastWrite_eq_none {ws : List (κ × ν)} {k : κ} :
    lastWrite ws k = none ↔ ∀ v, (k, v) ∉ ws := by
  constructor
  · intro unwritten v member
    have kept : (k, v) ∈ ws.filter fun w => w.1 = k := by simp [member]
    unfold lastWrite at unwritten
    rw [Option.map_eq_none_iff, List.getLast?_eq_none_iff] at unwritten
    rw [unwritten] at kept
    exact List.not_mem_nil kept
  · intro unwritten
    cases last : lastWrite ws k with
    | none => rfl
    | some v => exact absurd (mem_of_lastWrite last) (unwritten v)

/-- A lookup finds the last value written, or else the old one. -/
theorem lookup_writeAll (ws : List (κ × ν)) (t : Table κ ν) (k : κ) :
    (writeAll ws t).lookup k = (lastWrite ws k).or (t.lookup k) := by
  induction ws generalizing t with
  | nil => rfl
  | cons w ws ih =>
      show (writeAll ws (t.insert w.1 w.2)).lookup k = _
      rw [ih, lookup_insert, lastWrite_cons, Option.or_assoc]
      by_cases same : k = w.1
      · rw [if_pos same, if_pos same]
        rfl
      · rw [if_neg same, if_neg same]
        rfl

/-- Every entry of the table is the last of these writes at its key. -/
def WrittenBy (ws : List (κ × ν)) (t : Table κ ν) : Prop :=
  ∀ k v, t.lookup k = some v → lastWrite ws k = some v

theorem writtenBy_empty (ws : List (κ × ν)) : WrittenBy ws ∅ := by
  intro k v found
  rw [Finmap.lookup_empty] at found
  cases found

/-- Further writes keep the entries accounted for. -/
theorem WrittenBy.writeAll {ws : List (κ × ν)} {t : Table κ ν} (h : WrittenBy ws t)
    (ws' : List (κ × ν)) : WrittenBy (ws ++ ws') (Table.writeAll ws' t) := by
  intro k v found
  rw [lookup_writeAll] at found
  rw [lastWrite_append]
  cases last : lastWrite ws' k with
  | some v' =>
      rw [last] at found
      exact found
  | none =>
      rw [last] at found
      exact h k v found

/-! ## Inclusion -/

/-- Every entry of `t` is an entry of `t'`. -/
def Within (t t' : Table κ ν) : Prop := ∀ k v, t.lookup k = some v → t'.lookup k = some v

theorem within_empty (t : Table κ ν) : Within ∅ t := by
  intro k v found
  rw [Finmap.lookup_empty] at found
  cases found

theorem Within.insert {t t' : Table κ ν} (h : Within t t') (k : κ) (v : ν) :
    Within (t.insert k v) (t'.insert k v) := by
  intro k' v' found
  rw [lookup_insert] at found ⊢
  by_cases same : k' = k
  · rw [if_pos same] at found ⊢
    exact found
  · rw [if_neg same] at found ⊢
    exact h k' v' found

/-- Writing at `k` keeps an inclusion unless another value was included there. -/
theorem within_insert_iff {t t' : Table κ ν} (h : Within t t') {k : κ} {v : ν} :
    Within t (t'.insert k v) ↔ ∀ v' ∈ t.lookup k, v = v' := by
  constructor
  · intro within v' found
    have kept := within k v' found
    rw [Finmap.lookup_insert] at kept
    exact Option.some.inj kept
  · intro agrees k' v' found
    rw [lookup_insert]
    by_cases same : k' = k
    · subst same
      rw [if_pos rfl, agrees v' found]
    · rw [if_neg same]
      exact h k' v' found

/-! ## Removing -/

theorem erase_eq_self_iff {k : κ} {t : Table κ ν} : t.erase k = t ↔ k ∉ t := by
  constructor
  · intro same
    rw [← same]
    exact Finmap.notMem_erase_self
  · intro absent
    refine Finmap.ext_lookup fun k' => ?_
    rw [lookup_erase]
    by_cases h : k' = k
    · rw [if_pos h, h, Finmap.lookup_eq_none.mpr absent]
    · rw [if_neg h]

/-- Keep the entries that `keep` accepts. -/
def retain (keep : κ → ν → Bool) (t : Table κ ν) : Table κ ν where
  entries := t.entries.filter (fun e => keep e.1 e.2)
  nodupKeys := by
    rw [← Multiset.nodup_keys]
    refine Multiset.nodup_of_le (Multiset.map_le_map (Multiset.filter_le _ _)) ?_
    exact Multiset.nodup_keys.mpr t.nodupKeys

theorem lookup_retain (keep : κ → ν → Bool) (t : Table κ ν) (k : κ) :
    (retain keep t).lookup k = (t.lookup k).filter (keep k) := by
  ext v
  rw [Option.filter_eq_some_iff, Finmap.lookup_eq_some_iff, Finmap.lookup_eq_some_iff]
  exact Multiset.mem_filter

omit [DecidableEq κ] in
theorem size_eq_card_entries (t : Table κ ν) : t.size = t.entries.card :=
  Multiset.card_map Sigma.fst t.entries

omit [DecidableEq κ] in
/-- A table that loses no entry stays as it is. -/
theorem retain_eq_self {keep : κ → ν → Bool} {t : Table κ ν}
    (all : t.size ≤ size (retain keep t)) : retain keep t = t := by
  rw [size_eq_card_entries, size_eq_card_entries] at all
  apply Finmap.ext
  exact Multiset.eq_of_le_of_card_le (Multiset.filter_le _ _) all

end Table

/-! ## Iteration order -/

section Iterate

variable {κ : Type*} [LinearOrder κ]

/-- The members of a finite set in ascending order. -/
def enumerate (s : Finset κ) : List κ :=
  Quot.liftOn s.val (List.insertionSort (· ≤ ·)) fun a b (h : a.Perm b) =>
    List.Perm.eq_of_pairwise (fun _ _ _ _ => le_antisymm)
      (List.pairwise_insertionSort _ a) (List.pairwise_insertionSort _ b)
      ((List.perm_insertionSort _ a).trans (h.trans (List.perm_insertionSort _ b).symm))

@[simp] theorem mem_enumerate {s : Finset κ} {k : κ} : k ∈ enumerate s ↔ k ∈ s := by
  obtain ⟨⟨l⟩, nodup⟩ := s
  exact List.mem_insertionSort _

/-- Walk `s` in the order of `order`; members that `order` does not name come last. -/
def iterate (order : List κ) (s : Finset κ) : List κ :=
  order.dedup.filter (· ∈ s) ++ (enumerate s).filter (· ∉ order)

@[simp] theorem mem_iterate {order : List κ} {s : Finset κ} {k : κ} :
    k ∈ iterate order s ↔ k ∈ s := by
  simp only [iterate, List.mem_append, List.mem_filter, List.mem_dedup, mem_enumerate,
    decide_eq_true_eq]
  by_cases h : k ∈ order <;> simp [h]

theorem nodup_enumerate (s : Finset κ) : (enumerate s).Nodup := by
  obtain ⟨⟨l⟩, nodup⟩ := s
  exact (List.perm_insertionSort _ l).nodup_iff.mpr nodup

theorem nodup_iterate (order : List κ) (s : Finset κ) : (iterate order s).Nodup := by
  refine List.Nodup.append ((List.nodup_dedup order).filter _) ((nodup_enumerate s).filter _) ?_
  intro k named unnamed
  simp only [List.mem_filter, List.mem_dedup] at named unnamed
  simp [named.1] at unnamed

/-- Two walks of a set differ in their order only. -/
theorem iterate_perm (order order' : List κ) (s : Finset κ) :
    (iterate order s).Perm (iterate order' s) := by
  refine (List.perm_ext_iff_of_nodup (nodup_iterate _ s) (nodup_iterate _ s)).mpr fun k => ?_
  rw [mem_iterate, mem_iterate]

theorem pairwise_enumerate (s : Finset κ) : (enumerate s).Pairwise (· < ·) := by
  obtain ⟨⟨l⟩, nodup⟩ := s
  have ascending : (l.insertionSort (· ≤ ·)).Pairwise (· ≤ ·) := List.pairwise_insertionSort _ l
  have distinct : (l.insertionSort (· ≤ ·)).Nodup :=
    (List.perm_insertionSort _ l).nodup_iff.mpr nodup
  exact (ascending.and distinct).imp fun both => lt_of_le_of_ne both.1 both.2

/-- Sorting forgets the order of the walk. -/
theorem insertionSort_iterate (order : List κ) (s : Finset κ) :
    (iterate order s).insertionSort (· ≤ ·) = enumerate s := by
  have sorted : (enumerate s).Pairwise (· ≤ ·) := (pairwise_enumerate s).imp le_of_lt
  refine List.Perm.eq_of_pairwise (fun _ _ _ _ => le_antisymm)
    (List.pairwise_insertionSort _ _) sorted ((List.perm_insertionSort _ _).trans ?_)
  refine (List.perm_ext_iff_of_nodup (nodup_iterate order s) (nodup_enumerate s)).mpr fun k => ?_
  rw [mem_iterate, mem_enumerate]

/-- The first member in ascending order is the least one. -/
theorem head?_enumerate (s : Finset κ) (k : κ) :
    (enumerate s).head? = some k ↔ IsLeast (s : Set κ) k := by
  have sorted := pairwise_enumerate s
  have members : ∀ k', k' ∈ enumerate s ↔ k' ∈ s := fun k' => mem_enumerate
  cases walked : enumerate s with
  | nil =>
      rw [walked] at members
      constructor
      · intro impossible
        cases impossible
      · intro least
        exact absurd ((members k).mpr least.1) List.not_mem_nil
  | cons a rest =>
      rw [walked] at members sorted
      have least : IsLeast (s : Set κ) a := by
        refine ⟨(members a).mp List.mem_cons_self, fun b member => ?_⟩
        rcases List.mem_cons.mp ((members b).mpr member) with rfl | later
        · exact le_refl _
        · exact le_of_lt (List.rel_of_pairwise_cons sorted later)
      constructor
      · intro first
        cases first
        exact least
      · intro other
        exact congrArg some (least.unique other)

theorem toFinset_iterate [DecidableEq κ] (order : List κ) (s : Finset κ) :
    (iterate order s).toFinset = s := by
  ext k
  rw [List.mem_toFinset, mem_iterate]

theorem length_iterate (order : List κ) (s : Finset κ) : (iterate order s).length = s.card := by
  rw [← List.toFinset_card_of_nodup (nodup_iterate order s), toFinset_iterate]

/-- A walk can start anywhere. -/
theorem head?_iterate {s : Finset κ} {k : κ} (member : k ∈ s) :
    (iterate [k] s).head? = some k := by
  simp [iterate, member]

/-- All walks of a set are the same exactly when there is nothing to order. -/
theorem iterate_unique_iff {s : Finset κ} :
    (∀ order order', iterate order s = iterate order' s) ↔ s.card ≤ 1 := by
  constructor
  · intro same
    by_contra many
    obtain ⟨a, inA, b, inB, distinct⟩ := Finset.one_lt_card.mp (Nat.lt_of_not_le many)
    have heads := congrArg List.head? (same [a] [b])
    rw [head?_iterate inA, head?_iterate inB] at heads
    exact distinct (Option.some.inj heads)
  · intro few order order'
    have perm := iterate_perm order order' s
    have length := length_iterate order s
    cases walked : iterate order s with
    | nil => rw [walked] at perm; exact perm.nil_eq
    | cons a rest =>
        rw [walked] at perm length
        have alone : rest = [] := by
          apply List.eq_nil_of_length_eq_zero
          simp at length
          omega
        rw [alone] at perm ⊢
        exact (List.perm_singleton.mp perm.symm).symm

/-! ### Entries -/

namespace Table

variable {ν : Type*} [DecidableEq κ]

/-- The entries of a table in the order of `order`. -/
def walk (order : List κ) (t : Table κ ν) : List (κ × ν) :=
  (iterate order t.keys).filterMap fun k => (t.lookup k).map fun v => (k, v)

/-- The entries are the same in whatever order they are walked. -/
theorem walk_perm (order order' : List κ) (t : Table κ ν) :
    (walk order t).Perm (walk order' t) :=
  (iterate_perm order order' t.keys).filterMap _

@[simp] theorem mem_walk {order : List κ} {t : Table κ ν} {k : κ} {v : ν} :
    (k, v) ∈ walk order t ↔ t.lookup k = some v := by
  simp only [walk, List.mem_filterMap, mem_iterate, Option.map_eq_some_iff, Prod.mk.injEq]
  constructor
  · rintro ⟨k', -, v', found, rfl, rfl⟩
    exact found
  · intro found
    exact ⟨k, Finmap.mem_keys.mpr (Finmap.mem_of_lookup_eq_some found), v, found, rfl, rfl⟩

/-- Writing the entries of a table in whatever order makes the table. -/
theorem writeAll_walk (order : List κ) (t : Table κ ν) : writeAll (walk order t) ∅ = t := by
  refine Finmap.ext_lookup fun k => ?_
  rw [lookup_writeAll, Finmap.lookup_empty, Option.or_none]
  cases last : lastWrite (walk order t) k with
  | some v => exact (mem_walk.mp (mem_of_lastWrite last)).symm
  | none =>
      cases found : t.lookup k with
      | none => rfl
      | some v => exact absurd (mem_walk.mpr found) (lastWrite_eq_none.mp last v)

/-- A walk over the entries is one over the keys. -/
theorem map_fst_walk (order : List κ) (t : Table κ ν) :
    (walk order t).map Prod.fst = iterate order t.keys := by
  have all : ∀ l : List κ, (∀ k ∈ l, k ∈ t) →
      (l.filterMap fun k => (t.lookup k).map fun v => (k, v)).map Prod.fst = l := by
    intro l
    induction l with
    | nil => intro _; rfl
    | cons k l ih =>
        intro present
        obtain ⟨v, found⟩ := Finmap.mem_iff.mp (present k List.mem_cons_self)
        have rest := ih fun k' member => present k' (List.mem_cons_of_mem k member)
        rw [List.filterMap_cons, found]
        simp [rest]
  refine all _ fun k member => ?_
  rw [mem_iterate] at member
  exact Finmap.mem_keys.mp member

end Table

end Iterate

/-! ## Maximum by a key -/

section MaxByKey

variable {α : Type*} (key : α → Nat)

/-- The last element of a list whose key is maximal. -/
def maxByKey : List α → Option α
  | [] => none
  | a :: rest =>
    match maxByKey rest with
    | some b => if key a ≤ key b then some b else some a
    | none => some a

theorem maxByKey_mem {l : List α} {a : α} (h : maxByKey key l = some a) : a ∈ l := by
  induction l with
  | nil => cases h
  | cons b rest ih =>
      unfold maxByKey at h
      cases hrest : maxByKey key rest with
      | none =>
          rw [hrest] at h
          cases h
          exact List.mem_cons_self
      | some c =>
          simp only [hrest] at h
          split at h
          · cases h
            exact List.mem_cons_of_mem _ (ih hrest)
          · cases h
            exact List.mem_cons_self

theorem exists_le_maxByKey {l : List α} {b : α} (hb : b ∈ l) :
    ∃ a, maxByKey key l = some a ∧ key b ≤ key a := by
  induction l with
  | nil => cases hb
  | cons c rest ih =>
      unfold maxByKey
      cases hrest : maxByKey key rest with
      | none =>
          refine ⟨c, rfl, ?_⟩
          rcases List.mem_cons.mp hb with rfl | later
          · exact Nat.le_refl _
          · obtain ⟨a, found, -⟩ := ih later
            rw [hrest] at found
            cases found
      | some d =>
          have below : b ∈ rest → key b ≤ key d := by
            intro later
            obtain ⟨a, found, le⟩ := ih later
            rw [hrest] at found
            cases found
            exact le
          by_cases larger : key c ≤ key d
          · refine ⟨d, by simp [larger], ?_⟩
            rcases List.mem_cons.mp hb with rfl | later
            · exact larger
            · exact below later
          · refine ⟨c, by simp [larger], ?_⟩
            rcases List.mem_cons.mp hb with rfl | later
            · exact Nat.le_refl _
            · have := below later
              omega

end MaxByKey

end Rabia.Lib
