import Mathlib.Logic.Function.Basic
import Mathlib.Tactic.Common

/-!
# Free lists

Shelves of things that are handed out and taken back, one shelf for each kind. A
thing is taken from the front of its shelf, or made when the shelf is empty, and put
back at the end while there is room. Whatever is true of all that is made and put
back is true of all that is handed out (`Stocked.take_fst`, `Stocked.giveBack`).
-/

namespace Rabia.Lib

variable {κ α : Type*} [DecidableEq κ]

namespace FreeList

/-- Take the first thing on the shelf, or `fresh` if there is none. -/
def take (k : κ) (fresh : α) (shelves : κ → List α) : α × (κ → List α) :=
  match shelves k with
  | [] => (fresh, shelves)
  | a :: rest => (a, Function.update shelves k rest)

theorem take_fst_eq (k : κ) (fresh : α) (shelves : κ → List α) :
    (take k fresh shelves).1 = (shelves k).head?.getD fresh := by
  unfold take
  cases shelves k <;> rfl

/-- What is handed out is as wanted exactly when the first thing on the shelf is, if one
made for the purpose would be. -/
theorem take_fst_iff {P : α → Prop} (k : κ) {fresh : α} (made : P fresh)
    (shelves : κ → List α) :
    P (take k fresh shelves).1 ↔ ∀ front ∈ (shelves k).head?, P front := by
  rw [take_fst_eq]
  cases (shelves k).head? with
  | none => exact iff_of_true made fun _ member => by cases member
  | some front => simp

/-- Put things at the end of a shelf. -/
def stock (k : κ) (items : List α) (shelves : κ → List α) : κ → List α :=
  Function.update shelves k (shelves k ++ items)

/-- Put a thing back if there is room. -/
def giveBack (limit : Nat) (k : κ) (a : α) (shelves : κ → List α) : κ → List α :=
  if (shelves k).length < limit then stock k [a] shelves else shelves

end FreeList

/-- All that is on the shelves is as it should be. -/
def Stocked (P : κ → α → Prop) (shelves : κ → List α) : Prop := ∀ k, ∀ a ∈ shelves k, P k a

namespace Stocked

variable {P : κ → α → Prop} {shelves : κ → List α}

omit [DecidableEq κ] in
theorem empty : Stocked P fun _ => [] := fun _ _ member => absurd member List.not_mem_nil

theorem update (stocked : Stocked P shelves) {k : κ} {items : List α}
    (fine : ∀ a ∈ items, P k a) : Stocked P (Function.update shelves k items) := by
  intro k' a member
  by_cases same : k' = k
  · subst same
    rw [Function.update_self] at member
    exact fine a member
  · rw [Function.update_of_ne same] at member
    exact stocked k' a member

theorem take_fst (stocked : Stocked P shelves) {k : κ} {fresh : α} (fine : P k fresh) :
    P k (FreeList.take k fresh shelves).1 := by
  rw [FreeList.take_fst_eq]
  cases first : (shelves k).head? with
  | none => exact fine
  | some a => exact stocked k a (List.mem_of_mem_head? first)

theorem take_snd (stocked : Stocked P shelves) (k : κ) (fresh : α) :
    Stocked P (FreeList.take k fresh shelves).2 := by
  unfold FreeList.take
  cases shelf : shelves k with
  | nil => exact stocked
  | cons a rest =>
      refine stocked.update fun b member => ?_
      exact stocked k b (shelf ▸ List.mem_cons_of_mem a member)

theorem stock (stocked : Stocked P shelves) {k : κ} {items : List α}
    (fine : ∀ a ∈ items, P k a) : Stocked P (FreeList.stock k items shelves) := by
  refine stocked.update fun a member => ?_
  rcases List.mem_append.mp member with old | new
  · exact stocked k a old
  · exact fine a new

theorem giveBack (stocked : Stocked P shelves) (limit : Nat) {k : κ} {a : α} (fine : P k a) :
    Stocked P (FreeList.giveBack limit k a shelves) := by
  unfold FreeList.giveBack
  split
  · refine stocked.stock fun b member => ?_
    rw [List.mem_singleton.mp member]
    exact fine
  · exact stocked

end Stocked

end Rabia.Lib
