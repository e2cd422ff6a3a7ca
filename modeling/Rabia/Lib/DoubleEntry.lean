import Mathlib.Algebra.BigOperators.Group.Finset.Basic
import Mathlib.Algebra.BigOperators.Group.Finset.Piecewise
import Mathlib.Algebra.Ring.Int.Defs

/-!
# Double-entry books

A posting moves an amount from one account to another; a posting without the one comes from
outside, a posting without the other goes there. `paidTo` and `paidFrom` are what the
postings say of one account, and `sum_paid` the law of the books: over all accounts that the
postings name what is moved between them cancels out, and what is left is what came from
outside less what went there.
-/

namespace Rabia.Lib

open Finset

structure Posting (α : Type*) where
  source : Option α
  target : Option α
  amount : Int

variable {α : Type*}

/-- The amounts of those of the postings that a test selects. -/
def amounts (selects : Posting α → Bool) (postings : List (Posting α)) : Int :=
  ((postings.filter selects).map Posting.amount).sum

@[simp] theorem amounts_nil (selects : Posting α → Bool) : amounts selects [] = 0 := rfl

theorem amounts_append (selects : Posting α → Bool) (postings postings' : List (Posting α)) :
    amounts selects (postings ++ postings') =
      amounts selects postings + amounts selects postings' := by
  unfold amounts
  rw [List.filter_append, List.map_append, List.sum_append]

theorem amounts_singleton (selects : Posting α → Bool) (posting : Posting α) :
    amounts selects [posting] = if selects posting then posting.amount else 0 := by
  unfold amounts
  cases selected : selects posting <;> simp [selected]

theorem amounts_eq_zero {selects : Posting α → Bool} {postings : List (Posting α)}
    (none : ∀ posting ∈ postings, selects posting = false) : amounts selects postings = 0 := by
  unfold amounts
  rw [List.filter_eq_nil_iff.mpr fun posting member => by simp [none posting member]]
  rfl

variable [DecidableEq α]

/-- What was paid to an account. -/
def paidTo (postings : List (Posting α)) (a : α) : Int :=
  amounts (fun posting => decide (posting.target = some a)) postings

/-- What was paid from it. -/
def paidFrom (postings : List (Posting α)) (a : α) : Int :=
  amounts (fun posting => decide (posting.source = some a)) postings

theorem paidTo_concat (postings : List (Posting α)) (posting : Posting α) (a : α) :
    paidTo (postings ++ [posting]) a =
      paidTo postings a + if posting.target = some a then posting.amount else 0 := by
  unfold paidTo
  rw [amounts_append, amounts_singleton]
  simp only [decide_eq_true_eq]

theorem paidFrom_concat (postings : List (Posting α)) (posting : Posting α) (a : α) :
    paidFrom (postings ++ [posting]) a =
      paidFrom postings a + if posting.source = some a then posting.amount else 0 := by
  unfold paidFrom
  rw [amounts_append, amounts_singleton]
  simp only [decide_eq_true_eq]

/-- What came from outside, and what went there. -/
def cameIn (postings : List (Posting α)) : Int :=
  amounts (fun posting => posting.source.isNone) postings

def wentOut (postings : List (Posting α)) : Int :=
  amounts (fun posting => posting.target.isNone) postings

/-- The posting names none but these accounts. -/
def Posting.Within (accounts : Finset α) (posting : Posting α) : Prop :=
  ∀ a, posting.source = some a ∨ posting.target = some a → a ∈ accounts

theorem sum_side {accounts : Finset α} (side : Option α) (amount : Int)
    (within : ∀ a, side = some a → a ∈ accounts) :
    ∑ a ∈ accounts, (if side = some a then amount else 0) =
      amount - if side.isNone then amount else 0 := by
  cases side with
  | none => simp
  | some named => simp [within named rfl]

/-- What the postings move between the accounts cancels out. -/
theorem sum_paid {accounts : Finset α} {postings : List (Posting α)}
    (within : ∀ posting ∈ postings, posting.Within accounts) :
    ∑ a ∈ accounts, (paidTo postings a - paidFrom postings a) =
      cameIn postings - wentOut postings := by
  induction postings with
  | nil => simp [paidTo, paidFrom, cameIn, wentOut]
  | cons posting postings ih =>
      have inside := within posting List.mem_cons_self
      have targets := sum_side posting.target posting.amount fun a named => inside a (Or.inr named)
      have sources := sum_side posting.source posting.amount fun a named => inside a (Or.inl named)
      have rest := ih fun later member => within later (List.mem_cons_of_mem posting member)
      simp only [paidTo, paidFrom, cameIn, wentOut, Finset.sum_sub_distrib] at rest ⊢
      rw [← List.singleton_append]
      simp only [amounts_append, amounts_singleton, Finset.sum_add_distrib, decide_eq_true_eq]
      rw [targets, sources]
      omega

end Rabia.Lib
