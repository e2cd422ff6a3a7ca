import Mathlib.Logic.Function.Basic
import Mathlib.Logic.Relation

/-!
# Reader-writer locks

Threads that run straight-line programs of acquisitions and releases, interleaved in
any order: an exclusive holder excludes all others, shared holders only exclusive
ones. Two threads wait for each other when each is about to acquire a lock that the
other holds in a conflicting mode.

`nestings p` lists what a program acquires while it holds what; it shrinks as the
program runs (`nestings_reachable`), so a mutual wait shows a pair of opposed
nestings in the two programs (`opposed_of_mutualWait`). Programs without such a pair
never wait for each other, whatever the number of threads and their order; two that
begin with one may do so (`mutualWait_of_opposed_starts`).
-/

namespace Rabia.Lib

inductive LockMode where
  | shared
  | exclusive
deriving DecidableEq

/-- Two holders of these modes exclude each other. -/
def LockMode.Conflicts (mode mode' : LockMode) : Prop :=
  mode = .exclusive ∨ mode' = .exclusive

instance (mode mode' : LockMode) : Decidable (mode.Conflicts mode') :=
  inferInstanceAs (Decidable (_ ∨ _))

inductive LockStep (L : Type*) where
  | acquire (lock : L) (mode : LockMode)
  | release (lock : L)

/-- A thread: the locks that it holds, and the rest of its program. -/
structure LockThread (L : Type*) where
  held : List (L × LockMode)
  todo : List (LockStep L)

variable {L ι : Type*} [DecidableEq L]

namespace LockThread

def start (program : List (LockStep L)) : LockThread L := ⟨[], program⟩

/-- The thread after its next step. -/
def advance : LockThread L → LockThread L
  | ⟨held, .acquire lock mode :: todo⟩ => ⟨(lock, mode) :: held, todo⟩
  | ⟨held, .release lock :: todo⟩ => ⟨held.filter fun h => h.1 ≠ lock, todo⟩
  | ⟨held, []⟩ => ⟨held, []⟩

omit [DecidableEq L] in
/-- The lock that the thread is about to acquire. -/
def wants (t : LockThread L) : Option (L × LockMode) :=
  match t.todo with
  | .acquire lock mode :: _ => some (lock, mode)
  | _ => none

/-- The thread holds the lock in a conflicting mode. -/
def Excludes (t : LockThread L) (wanted : L × LockMode) : Prop :=
  ∃ mode, (wanted.1, mode) ∈ t.held ∧ wanted.2.Conflicts mode

end LockThread

/-- Thread `i` waits for a lock that thread `j` holds. -/
def WaitsFor (s : ι → LockThread L) (i j : ι) : Prop :=
  ∃ wanted, (s i).wants = some wanted ∧ (s j).Excludes wanted

/-- Two threads wait for each other. -/
def MutualWait (s : ι → LockThread L) : Prop :=
  ∃ i j, i ≠ j ∧ WaitsFor s i j ∧ WaitsFor s j i

/-- A thread that waits for none makes its next step. -/
def LockMove [DecidableEq ι] (s s' : ι → LockThread L) : Prop :=
  ∃ i, (∀ j, ¬ WaitsFor s i j) ∧ s' = Function.update s i (s i).advance

/-- The state is reached when these programs are interleaved. -/
def LockReachable [DecidableEq ι] (programs : ι → List (LockStep L)) (s : ι → LockThread L) :
    Prop :=
  Relation.ReflTransGen LockMove (fun i => .start (programs i)) s

/-! ## Nestings -/

/-- What is acquired while what is held, in a program that starts with `held`. -/
def nestingsFrom : List (L × LockMode) → List (LockStep L) → List ((L × LockMode) × (L × LockMode))
  | _, [] => []
  | held, .acquire lock mode :: todo =>
    held.map (fun h => (h, (lock, mode))) ++ nestingsFrom ((lock, mode) :: held) todo
  | held, .release lock :: todo => nestingsFrom (held.filter fun h => h.1 ≠ lock) todo

def nestings (program : List (LockStep L)) : List ((L × LockMode) × (L × LockMode)) :=
  nestingsFrom [] program

def LockThread.nestings (t : LockThread L) : List ((L × LockMode) × (L × LockMode)) :=
  nestingsFrom t.held t.todo

theorem LockThread.nestings_advance (t : LockThread L) : t.advance.nestings ⊆ t.nestings := by
  obtain ⟨held, todo⟩ := t
  cases todo with
  | nil => exact List.Subset.refl _
  | cons step todo =>
      cases step with
      | acquire lock mode => exact List.subset_append_right _ _
      | release lock => exact List.Subset.refl _

/-- A thread that is about to acquire a lock holds what it holds while it does. -/
theorem LockThread.mem_nestings {t : LockThread L} {h wanted : L × LockMode}
    (holds : h ∈ t.held) (wants : t.wants = some wanted) : (h, wanted) ∈ t.nestings := by
  obtain ⟨held, todo⟩ := t
  cases todo with
  | nil => cases wants
  | cons step todo =>
      cases step with
      | acquire lock mode =>
          cases wants
          refine List.mem_append_left _ ?_
          exact List.mem_map_of_mem holds
      | release lock => cases wants

section Reachable

variable [DecidableEq ι] {programs : ι → List (LockStep L)}

/-- The rest of a program has no nestings of its own. -/
theorem nestings_reachable {s : ι → LockThread L} (reachable : LockReachable programs s) (i : ι) :
    (s i).nestings ⊆ nestings (programs i) := by
  induction reachable with
  | refl => exact List.Subset.refl _
  | tail _ move ih =>
      obtain ⟨j, -, rfl⟩ := move
      by_cases moved : i = j
      · subst moved
        rw [Function.update_self]
        exact List.Subset.trans (LockThread.nestings_advance _) ih
      · rw [Function.update_of_ne moved]
        exact ih

/-- Each of the two nestings acquires, in a conflicting mode, what the other holds. -/
def Opposes (a b : (L × LockMode) × (L × LockMode)) : Prop :=
  (a.2.1 = b.1.1 ∧ a.2.2.Conflicts b.1.2) ∧ b.2.1 = a.1.1 ∧ b.2.2.Conflicts a.1.2

instance (a b : (L × LockMode) × (L × LockMode)) : Decidable (Opposes a b) :=
  inferInstanceAs (Decidable (_ ∧ _))

/-- The programs have a pair of opposed nestings. -/
def Opposed (program program' : List (LockStep L)) : Prop :=
  ∃ a ∈ nestings program, ∃ b ∈ nestings program', Opposes a b

instance (program program' : List (LockStep L)) : Decidable (Opposed program program') :=
  inferInstanceAs (Decidable (∃ a ∈ _, _))

/-- Threads that wait for each other have programs with opposed nestings. -/
theorem opposed_of_mutualWait {s : ι → LockThread L} (reachable : LockReachable programs s)
    (stuck : MutualWait s) : ∃ i j, i ≠ j ∧ Opposed (programs i) (programs j) := by
  obtain ⟨i, j, distinct, ⟨wanted, wants, mode, held, conflict⟩,
    ⟨wanted', wants', mode', held', conflict'⟩⟩ := stuck
  refine ⟨i, j, distinct, ((wanted'.1, mode'), wanted), ?_, ((wanted.1, mode), wanted'), ?_, ?_⟩
  · exact nestings_reachable reachable i (LockThread.mem_nestings held' wants)
  · exact nestings_reachable reachable j (LockThread.mem_nestings held wants')
  · exact ⟨⟨rfl, conflict⟩, rfl, conflict'⟩

/-- A thread can make a step when no lock that it wants is held. -/
theorem LockReachable.advance {s : ι → LockThread L} (reachable : LockReachable programs s) (i : ι)
    (free : ∀ j, ¬ WaitsFor s i j) :
    LockReachable programs (Function.update s i (s i).advance) :=
  Relation.ReflTransGen.tail reachable ⟨i, free, rfl⟩

omit [DecidableEq L] [DecidableEq ι] in
/-- Nobody waits for a thread that holds nothing. -/
theorem not_waitsFor_of_held_nil {s : ι → LockThread L} {i j : ι} (idle : (s j).held = []) :
    ¬ WaitsFor s i j := by
  rintro ⟨wanted, -, mode, held, -⟩
  rw [idle] at held
  exact List.not_mem_nil held

/-- Two programs that begin with opposed nestings can be interleaved to a mutual wait. -/
theorem mutualWait_of_opposed_starts {i j : ι} (distinct : i ≠ j)
    {a b : (L × LockMode) × (L × LockMode)} {todo todo' : List (LockStep L)}
    (first : programs i = .acquire a.1.1 a.1.2 :: .acquire a.2.1 a.2.2 :: todo)
    (second : programs j = .acquire b.1.1 b.1.2 :: .acquire b.2.1 b.2.2 :: todo')
    (apart : a.1.1 ≠ b.1.1) (opposes : Opposes a b) :
    ∃ s, LockReachable programs s ∧ MutualWait s := by
  obtain ⟨h, wanted⟩ := a
  obtain ⟨h', wanted'⟩ := b
  let s₀ : ι → LockThread L := fun k => .start (programs k)
  let s₁ := Function.update s₀ i (s₀ i).advance
  let s₂ := Function.update s₁ j (s₁ j).advance
  have start : LockReachable programs s₀ := Relation.ReflTransGen.refl
  have one : LockReachable programs s₁ :=
    start.advance i fun k => not_waitsFor_of_held_nil rfl
  have ahead : s₁ i = ⟨[h], .acquire wanted.1 wanted.2 :: todo⟩ := by
    show Function.update s₀ i (LockThread.start (programs i)).advance i = _
    rw [Function.update_self, first]
    rfl
  have behind : s₁ j = ⟨[], .acquire h'.1 h'.2 :: .acquire wanted'.1 wanted'.2 :: todo'⟩ := by
    show Function.update s₀ i _ j = _
    rw [Function.update_of_ne distinct.symm]
    show LockThread.start (programs j) = _
    rw [second]
    rfl
  have two : LockReachable programs s₂ := by
    refine one.advance j fun k => ?_
    by_cases other : k = i
    · -- thread `i` holds another lock than the one that thread `j` starts with
      subst other
      rintro ⟨lock, wants, mode, held, -⟩
      rw [behind] at wants
      rw [ahead, List.mem_singleton] at held
      cases wants
      exact apart (congrArg Prod.fst held).symm
    · refine not_waitsFor_of_held_nil ?_
      show (Function.update s₀ i _ k).held = []
      rw [Function.update_of_ne other]
      rfl
  have holds_i : s₂ i = ⟨[h], .acquire wanted.1 wanted.2 :: todo⟩ := by
    show Function.update s₁ j _ i = _
    rw [Function.update_of_ne distinct, ahead]
  have holds_j : s₂ j = ⟨[h'], .acquire wanted'.1 wanted'.2 :: todo'⟩ := by
    show Function.update s₁ j (s₁ j).advance j = _
    rw [Function.update_self, behind]
    rfl
  obtain ⟨⟨same, conflict⟩, same', conflict'⟩ := opposes
  refine ⟨s₂, two, i, j, distinct, ⟨wanted, ?_, h'.2, ?_, conflict⟩,
    ⟨wanted', ?_, h.2, ?_, conflict'⟩⟩
  · rw [holds_i]
    rfl
  · rw [holds_j, show wanted.1 = h'.1 from same]
    exact List.mem_singleton_self _
  · rw [holds_j]
    rfl
  · rw [holds_i, show wanted'.1 = h.1 from same']
    exact List.mem_singleton_self _

end Reachable

end Rabia.Lib
