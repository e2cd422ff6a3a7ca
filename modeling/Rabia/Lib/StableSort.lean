import Mathlib.Data.List.Sort

/-!
# The newest of a list that grows at its end

`newestFirst key l` is the stable sort of `l` by descending keys. When the keys of the list
never fall it is nearly the list reversed: it differs where keys are equal, which the sort
leaves in the order of the list. Its first `k` elements are those of the list reversed
exactly when each of these has a larger key than the next (`Descends`).
-/

namespace Rabia.Lib

variable {α : Type*} (key : α → Nat)

/-- The stable sort by descending keys. -/
def newestFirst (l : List α) : List α := l.insertionSort fun a b => key b ≤ key a

/-- Each of the first `k` elements has a larger key than the next. -/
def Descends : Nat → List α → Prop
  | k + 1, b :: a :: l => key a < key b ∧ Descends k (a :: l)
  | _, _ => True

instance Descends.decidable : ∀ (k : Nat) (l : List α), Decidable (Descends key k l)
  | 0, _ => inferInstanceAs (Decidable True)
  | _ + 1, [] => inferInstanceAs (Decidable True)
  | _ + 1, [_] => inferInstanceAs (Decidable True)
  | k + 1, b :: a :: l =>
    have := Descends.decidable k (a :: l)
    inferInstanceAs (Decidable (key a < key b ∧ Descends key k (a :: l)))

variable {key}

theorem perm_newestFirst (l : List α) : (newestFirst key l).Perm l := List.perm_insertionSort _ l

/-- A last element with the largest key comes first. -/
theorem newestFirst_concat {l : List α} {b : α} (largest : ∀ a ∈ l, key a < key b) :
    newestFirst key (l ++ [b]) = b :: newestFirst key l := by
  induction l with
  | nil => rfl
  | cons a l ih =>
      have smaller : ¬ key b ≤ key a := Nat.not_le.mpr (largest a List.mem_cons_self)
      have rest := ih fun a' member => largest a' (List.mem_cons_of_mem a member)
      unfold newestFirst at rest ⊢
      rw [List.cons_append, List.insertionSort_cons, rest, List.orderedInsert_cons,
        if_neg smaller, List.insertionSort_cons]

/-- Where the keys never rise, a first key above the second is the largest of all. -/
theorem newestFirst_reverse_cons {l : List α} {a b : α}
    (sorted : (b :: a :: l).Pairwise fun newer older => key older ≤ key newer)
    (above : key a < key b) :
    newestFirst key (b :: a :: l).reverse = b :: newestFirst key (a :: l).reverse := by
  obtain ⟨-, rest⟩ := List.pairwise_cons.mp sorted
  rw [List.reverse_cons]
  refine newestFirst_concat fun x member => ?_
  rcases List.mem_cons.mp (List.mem_reverse.mp member) with rfl | later
  · exact above
  · exact ((List.pairwise_cons.mp rest).1 x later).trans_lt above

/-- Where they are equal, the sort puts first what came first. -/
theorem newestFirst_reverse_ne {l : List α} {a b : α} (tied : key b ≤ key a)
    (distinct : (b :: a :: l).Nodup) (tail : List α) :
    newestFirst key (b :: a :: l).reverse ≠ b :: tail := by
  intro first
  have inOrder : [a, b].Sublist (b :: a :: l).reverse := by
    rw [List.reverse_cons, List.reverse_cons, List.append_assoc]
    exact List.sublist_append_right _ _
  have kept : [a, b].Sublist (b :: tail) := first ▸ List.pair_sublist_insertionSort tied inOrder
  have nodup : (b :: tail).Nodup :=
    first ▸ (perm_newestFirst _).nodup_iff.mpr (List.nodup_reverse.mpr distinct)
  have different : a ≠ b := fun same => (List.nodup_cons.mp distinct).1 (same ▸ List.mem_cons_self)
  have inTail : [a, b].Sublist tail :=
    (List.sublist_cons_iff.mp kept).resolve_right fun ⟨_, same, _⟩ =>
      different (List.head_eq_of_cons_eq same)
  exact (List.nodup_cons.mp nodup).1 (inTail.subset (by simp))

theorem take_newestFirst_of_descends {k : Nat} {l : List α}
    (sorted : l.Pairwise fun newer older => key older ≤ key newer)
    (descends : Descends key k l) : (newestFirst key l.reverse).take k = l.take k := by
  induction k generalizing l with
  | zero => rfl
  | succ k ih =>
      match l, sorted, descends with
      | [], _, _ => rfl
      | [_], _, _ => rfl
      | b :: a :: l, sorted, ⟨above, descends⟩ =>
          have rest := ih (List.pairwise_cons.mp sorted).2 descends
          rw [newestFirst_reverse_cons sorted above, List.take_succ_cons, rest,
            List.take_succ_cons]

theorem descends_of_take_newestFirst {k : Nat} {l : List α}
    (sorted : l.Pairwise fun newer older => key older ≤ key newer) (distinct : l.Nodup)
    (same : (newestFirst key l.reverse).take k = l.take k) : Descends key k l := by
  induction k generalizing l with
  | zero => trivial
  | succ k ih =>
      match l, sorted, distinct, same with
      | [], _, _, _ => trivial
      | [_], _, _, _ => trivial
      | b :: a :: l, sorted, distinct, same =>
          by_cases above : key a < key b
          · rw [newestFirst_reverse_cons sorted above, List.take_succ_cons,
              List.take_succ_cons] at same
            refine ⟨above, ih (List.pairwise_cons.mp sorted).2 (List.nodup_cons.mp distinct).2 ?_⟩
            exact List.tail_eq_of_cons_eq same
          · exfalso
            have tied := newestFirst_reverse_ne (Nat.not_lt.mp above) distinct
            cases first : newestFirst key (b :: a :: l).reverse with
            | nil =>
                rw [first] at same
                cases same
            | cons c tail =>
                rw [first, List.take_succ_cons, List.take_succ_cons] at same
                rw [List.head_eq_of_cons_eq same] at first
                exact tied tail first

end Rabia.Lib
