import Mathlib.Data.List.Sort
import Mathlib.Order.MinMax

/-!
# A log behind a high-water mark

A receiver that remembers only the largest key it took takes the next key when
it lies above. `accept mark ks` is what it takes from `ks`:

* `accept_pairwise` — what it takes is strictly increasing;
* `complete_iff` — it takes every key above its first mark exactly when the
  first copies of these keys arrive in ascending order;
* `accept_eq_of_complete` — two orders of the same keys that are both taken
  completely are taken alike.
-/

namespace Rabia.Lib

variable {κ : Type*} [LinearOrder κ]

/-- What a receiver at `mark` takes from `ks`. -/
def accept (mark : κ) : List κ → List κ
  | [] => []
  | k :: ks => if mark < k then k :: accept k ks else accept mark ks

/-- The mark after `ks`. -/
def highWater (mark : κ) (ks : List κ) : κ := ks.foldl max mark

/-- Every key above the mark is taken. -/
def Complete (mark : κ) (ks : List κ) : Prop := ∀ k ∈ ks, mark < k → k ∈ accept mark ks

/-- A key above the mark that was not delivered before comes after lower keys only. -/
def FirstCopiesAscend (mark : κ) (ks : List κ) : Prop :=
  ∀ before k after, ks = before ++ k :: after → mark < k → k ∈ before ∨ ∀ j ∈ before, j < k

/-! ## What is taken -/

theorem accept_of_lt {mark k : κ} (h : mark < k) (ks : List κ) :
    accept mark (k :: ks) = k :: accept k ks := if_pos h

theorem accept_of_le {mark k : κ} (h : k ≤ mark) (ks : List κ) :
    accept mark (k :: ks) = accept mark ks := if_neg (not_lt.mpr h)

theorem highWater_lt_iff {mark k : κ} {ks : List κ} :
    highWater mark ks < k ↔ mark < k ∧ ∀ j ∈ ks, j < k := by
  induction ks generalizing mark with
  | nil => simp [highWater]
  | cons a ks ih =>
      show highWater (max mark a) ks < k ↔ _
      rw [ih, max_lt_iff, List.forall_mem_cons, and_assoc]

theorem mem_of_mem_accept {mark k : κ} {ks : List κ} (h : k ∈ accept mark ks) :
    k ∈ ks ∧ mark < k := by
  induction ks generalizing mark with
  | nil => cases h
  | cons a ks ih =>
      rcases lt_or_ge mark a with above | below
      · rw [accept_of_lt above] at h
        rcases List.mem_cons.mp h with rfl | h
        · exact ⟨List.mem_cons_self, above⟩
        · exact ⟨List.mem_cons_of_mem _ (ih h).1, above.trans (ih h).2⟩
      · rw [accept_of_le below] at h
        exact ⟨List.mem_cons_of_mem _ (ih h).1, (ih h).2⟩

theorem accept_pairwise (mark : κ) (ks : List κ) : (accept mark ks).Pairwise (· < ·) := by
  induction ks generalizing mark with
  | nil => exact List.Pairwise.nil
  | cons a ks ih =>
      rcases lt_or_ge mark a with above | below
      · rw [accept_of_lt above]
        exact List.pairwise_cons.mpr ⟨fun k hk => (mem_of_mem_accept hk).2, ih a⟩
      · rw [accept_of_le below]
        exact ih mark

theorem accept_append (mark : κ) (ks ks' : List κ) :
    accept mark (ks ++ ks') = accept mark ks ++ accept (highWater mark ks) ks' := by
  induction ks generalizing mark with
  | nil => rfl
  | cons a ks ih =>
      have raised : highWater mark (a :: ks) = highWater (max mark a) ks := rfl
      rw [List.cons_append, raised]
      rcases lt_or_ge mark a with above | below
      · rw [accept_of_lt above, accept_of_lt above, ih, max_eq_right above.le, List.cons_append]
      · rw [accept_of_le below, accept_of_le below, ih, max_eq_left below]

/-- The keys that are not taken do not move the mark. -/
theorem highWater_accept (mark : κ) (ks : List κ) :
    highWater mark (accept mark ks) = highWater mark ks := by
  induction ks generalizing mark with
  | nil => rfl
  | cons a ks ih =>
      have raised : highWater mark (a :: ks) = highWater (max mark a) ks := rfl
      rw [raised]
      rcases lt_or_ge mark a with above | below
      · rw [accept_of_lt above, max_eq_right above.le, ← ih a]
        show highWater (max mark a) (accept a ks) = _
        rw [max_eq_right above.le]
      · rw [accept_of_le below, max_eq_left below, ih]

/-! ## When everything is taken -/

theorem complete_iff {mark : κ} {ks : List κ} :
    Complete mark ks ↔ FirstCopiesAscend mark ks := by
  constructor
  · rintro complete before k after rfl above
    by_cases earlier : k ∈ before
    · exact Or.inl earlier
    right
    have taken := complete k (List.mem_append_right _ List.mem_cons_self) above
    rw [accept_append] at taken
    rcases List.mem_append.mp taken with taken | taken
    · exact absurd (mem_of_mem_accept taken).1 earlier
    · exact (highWater_lt_iff.mp (mem_of_mem_accept taken).2).2
  · intro ascend k hk above
    -- the first copy of `k` finds the mark below it
    obtain ⟨before, after, rfl, fresh⟩ := List.eq_append_cons_of_mem hk
    have lower := (ascend before k after rfl above).resolve_left fresh
    rw [accept_append, accept_of_lt (highWater_lt_iff.mpr ⟨above, lower⟩)]
    exact List.mem_append_right _ List.mem_cons_self

theorem accept_eq_of_complete {mark : κ} {ks ks' : List κ} (same : ∀ k, k ∈ ks ↔ k ∈ ks')
    (h : Complete mark ks) (h' : Complete mark ks') : accept mark ks = accept mark ks' := by
  have sorted := accept_pairwise mark ks
  have sorted' := accept_pairwise mark ks'
  have perm : (accept mark ks).Perm (accept mark ks') := by
    rw [List.perm_ext_iff_of_nodup (sorted.imp ne_of_lt) (sorted'.imp ne_of_lt)]
    intro k
    constructor
    · intro hk
      obtain ⟨member, above⟩ := mem_of_mem_accept hk
      exact h' k ((same k).mp member) above
    · intro hk
      obtain ⟨member, above⟩ := mem_of_mem_accept hk
      exact h k ((same k).mpr member) above
  exact perm.eq_of_pairwise (fun _ _ _ _ hab hba => absurd hab hba.asymm) sorted sorted'

end Rabia.Lib
