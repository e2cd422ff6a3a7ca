import Rabia.Lib.Runs

/-!
# Two replicas of a machine

Two replicas of a machine apply the same commands, each in an environment of its own, which
supplies what else a command reads. `Replicated` says that they cannot be told apart by
what they answer and by what there is to see of their states. `replicated_iff` reduces this
to one step from a common state: they are replicated throughout exactly when the
environments agree, at every step, on what the step takes from them.
-/

namespace Rabia.Lib

/-- A command, and what the environment of each replica supplies to it. -/
structure Shared (κ ε : Type*) where
  command : κ
  left : ε
  right : ε

variable {κ ε σ ρ τ : Type*}

def Shared.onLeft (i : Shared κ ε) : κ × ε := (i.command, i.left)

def Shared.onRight (i : Shared κ ε) : κ × ε := (i.command, i.right)

section

variable (machine : κ × ε → σ → ρ × σ) (view : σ → τ) (alike : ρ → ρ → Prop)

/-- The replicas answer alike, and their states look the same. -/
structure Replicated (s : σ) (is : List (Shared κ ε)) : Prop where
  state : view (leave machine s (is.map Shared.onLeft)) =
    view (leave machine s (is.map Shared.onRight))
  responses : List.Forall₂ alike (answers machine s (is.map Shared.onLeft))
    (answers machine s (is.map Shared.onRight))

end

variable {machine : κ × ε → σ → ρ × σ} {view : σ → τ} {alike : ρ → ρ → Prop}

theorem replicated_nil (s : σ) : Replicated machine view alike s ([] : List (Shared κ ε)) :=
  ⟨rfl, .nil⟩

/-- After a step that leaves the replicas in one state, only the rest of the run matters. -/
theorem replicated_cons_iff {s : σ} {i : Shared κ ε}
    (alikeNow : alike (machine i.onLeft s).1 (machine i.onRight s).1)
    (common : (machine i.onLeft s).2 = (machine i.onRight s).2) (is : List (Shared κ ε)) :
    Replicated machine view alike s (i :: is) ↔
      Replicated machine view alike (machine i.onLeft s).2 is := by
  have states : leave machine s ((i :: is).map Shared.onRight) =
      leave machine (machine i.onLeft s).2 (is.map Shared.onRight) := by
    rw [common]
    rfl
  have responses : answers machine s ((i :: is).map Shared.onRight) =
      (machine i.onRight s).1 ::
        answers machine (machine i.onLeft s).2 (is.map Shared.onRight) := by
    rw [common]
    rfl
  constructor
  · intro both
    have same := both.state
    have answered := both.responses
    rw [states] at same
    rw [responses] at answered
    exact ⟨same, (List.forall₂_cons.mp answered).2⟩
  · intro rest
    constructor
    · rw [states]
      exact rest.state
    · rw [responses]
      exact .cons alikeNow rest.responses

theorem replicated_singleton_iff {s : σ} {i : Shared κ ε} :
    Replicated machine view alike s [i] ↔
      alike (machine i.onLeft s).1 (machine i.onRight s).1 ∧
        view (machine i.onLeft s).2 = view (machine i.onRight s).2 := by
  constructor
  · rintro ⟨state, responses⟩
    exact ⟨(List.forall₂_cons.mp responses).1, state⟩
  · rintro ⟨alikeNow, same⟩
    exact ⟨same, .cons alikeNow .nil⟩

/-- Replicas stay identical exactly as long as their environments agree. -/
theorem replicated_iff {agree : σ → Shared κ ε → Prop}
    (step_iff : ∀ s i, agree s i ↔
      alike (machine i.onLeft s).1 (machine i.onRight s).1 ∧
        view (machine i.onLeft s).2 = view (machine i.onRight s).2)
    (common : ∀ s i, agree s i → (machine i.onLeft s).2 = (machine i.onRight s).2)
    (s : σ) (is : List (Shared κ ε)) :
    (∀ served, served <+: is → Replicated machine view alike s served) ↔
      Along (fun s i => (machine i.onLeft s).2) agree s is := by
  induction is generalizing s with
  | nil =>
      refine iff_of_true (fun served part => ?_) trivial
      rw [List.prefix_nil.mp part]
      exact replicated_nil s
  | cons i is ih =>
      show _ ↔ agree s i ∧ Along _ agree (machine i.onLeft s).2 is
      rw [← ih]
      constructor
      · intro throughout
        have first := throughout [i] (List.prefix_cons_inj i |>.mpr List.nil_prefix)
        have agrees := (step_iff s i).mpr (replicated_singleton_iff.mp first)
        refine ⟨agrees, fun served part => ?_⟩
        have longer := throughout (i :: served) (List.prefix_cons_inj i |>.mpr part)
        exact (replicated_cons_iff ((step_iff s i).mp agrees).1 (common s i agrees) served).mp
          longer
      · rintro ⟨agrees, later⟩ served part
        rcases List.prefix_cons_iff.mp part with rfl | ⟨rest, rfl, within⟩
        · exact replicated_nil s
        · exact (replicated_cons_iff ((step_iff s i).mp agrees).1 (common s i agrees) rest).mpr
            (later rest within)

end Rabia.Lib
