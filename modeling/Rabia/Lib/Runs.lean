import Mathlib.Algebra.BigOperators.Group.List.Basic
import Mathlib.Algebra.Ring.Nat
import Mathlib.Tactic.Common

/-!
# Runs of a deterministic step function

`run step s is` is the state after the inputs `is`. `Along step ok s is` says
that every step of that run meets a condition on the state before it and its
input. `run_invariant` is the induction every safety result of the development
goes through: a property of the start that each admissible step preserves holds
at the end. `along_congr` is its counterpart for equivalences.

`exists_run_of_simulation` is the induction of a forward simulation. Where a step
also answers, `answers step s is` is the list of the answers, and
`answers_eq_of_simulation` the induction of a refinement: machines whose related
states answer alike and stay related give the same answers to the same inputs.
-/

namespace Rabia.Lib

variable {σ ι : Type*} {step : σ → ι → σ} {ok ok' P Q : σ → ι → Prop}

/-- The state after the inputs `is`, from `s`. -/
def run (step : σ → ι → σ) (s : σ) (is : List ι) : σ := is.foldl step s

@[simp] theorem run_cons (s : σ) (i : ι) (is : List ι) :
    run step s (i :: is) = run step (step s i) is := rfl

theorem run_append (s : σ) (is js : List ι) :
    run step s (is ++ js) = run step (run step s is) js := List.foldl_append

/-- A run only depends on what its steps read of the inputs. -/
theorem run_filterMap {κ : Type*} {step' : σ → κ → σ} {reads : ι → Option κ}
    (factors : ∀ s i, step s i = (reads i).elim s (step' s)) (s : σ) (is : List ι) :
    run step s is = run step' s (is.filterMap reads) := by
  unfold run
  rw [List.foldl_filterMap]
  congr
  funext s i
  rw [factors s i]
  cases reads i <;> rfl

/-- Every step of the run from `s` over the inputs meets `ok`. -/
def Along (step : σ → ι → σ) (ok : σ → ι → Prop) : σ → List ι → Prop
  | _, [] => True
  | s, i :: is => ok s i ∧ Along step ok (step s i) is

instance Along.decidable [∀ s i, Decidable (ok s i)] :
    ∀ (s : σ) (is : List ι), Decidable (Along step ok s is)
  | _, [] => inferInstanceAs (Decidable True)
  | s, i :: is =>
    have := Along.decidable (step s i) is
    inferInstanceAs (Decidable (_ ∧ _))

theorem Along.mono (weaker : ∀ s i, ok s i → ok' s i) {s : σ} {is : List ι}
    (h : Along step ok s is) : Along step ok' s is := by
  induction is generalizing s with
  | nil => trivial
  | cons i is ih => exact ⟨weaker s i h.1, ih h.2⟩

theorem Along.and {s : σ} {is : List ι} (h : Along step P s is) (h' : Along step Q s is) :
    Along step (fun s i => P s i ∧ Q s i) s is := by
  induction is generalizing s with
  | nil => trivial
  | cons i is ih => exact ⟨⟨h.1, h'.1⟩, ih h.2 h'.2⟩

theorem along_of_forall (all : ∀ s i, ok s i) (s : σ) (is : List ι) : Along step ok s is := by
  induction is generalizing s with
  | nil => trivial
  | cons i is ih => exact ⟨all s i, ih (step s i)⟩

theorem along_of_mem {P : ι → Prop} {s : σ} {is : List ι} (all : ∀ i ∈ is, P i) :
    Along step (fun _ i => P i) s is := by
  induction is generalizing s with
  | nil => trivial
  | cons i is ih =>
      refine ⟨all i List.mem_cons_self, ih fun j hj => ?_⟩
      exact all j (List.mem_cons_of_mem i hj)

theorem along_append {s : σ} {is js : List ι} :
    Along step ok s (is ++ js) ↔ Along step ok s is ∧ Along step ok (run step s is) js := by
  induction is generalizing s with
  | nil => exact (iff_of_eq (true_and _)).symm
  | cons i is ih =>
      show ok s i ∧ Along step ok (step s i) (is ++ js) ↔ (ok s i ∧ _) ∧ _
      rw [ih, and_assoc]
      exact Iff.rfl

/-- Two runs, of which the second starts where the first ends, make one. -/
theorem along_run_append {a b c : σ} {is js : List ι}
    (first : Along step ok a is ∧ run step a is = b)
    (second : Along step ok b js ∧ run step b js = c) :
    Along step ok a (is ++ js) ∧ run step a (is ++ js) = c := by
  rw [along_append, run_append, first.2]
  exact ⟨⟨first.1, second.1⟩, second.2⟩

/-- Two conditions that say the same of every step whose state meets `I` hold along
the same runs, when the steps that meet them keep `I`. -/
theorem along_congr {I : σ → Prop} (same : ∀ s i, I s → ok s i → (P s i ↔ Q s i))
    (preserved : ∀ s i, I s → ok s i → P s i → I (step s i)) {s : σ} {is : List ι}
    (start : I s) (admissible : Along step ok s is) :
    Along step P s is ↔ Along step Q s is := by
  induction is generalizing s with
  | nil => exact Iff.rfl
  | cons i is ih =>
      show P s i ∧ Along step P (step s i) is ↔ Q s i ∧ Along step Q (step s i) is
      rw [← same s i start admissible.1]
      apply and_congr_right
      intro met
      exact ih (preserved s i start admissible.1 met) admissible.2

/-- What every admissible step preserves holds at the end of an admissible run. -/
theorem run_invariant {I : σ → Prop} (preserved : ∀ s i, I s → ok s i → I (step s i))
    {s : σ} {is : List ι} (start : I s) (admissible : Along step ok s is) :
    I (run step s is) := by
  induction is generalizing s with
  | nil => exact start
  | cons i is ih => exact ih (preserved s i start admissible.1) admissible.2

/-- What holds of every admissible step from a state that meets an invariant holds of
every step of an admissible run. -/
theorem along_of_invariant {I : σ → Prop}
    (preserved : ∀ s i, I s → ok s i → I (step s i)) (holds : ∀ s i, I s → ok s i → Q s i)
    {s : σ} {is : List ι} (start : I s) (admissible : Along step ok s is) :
    Along step Q s is := by
  induction is generalizing s with
  | nil => trivial
  | cons i is ih =>
      refine ⟨holds s i start admissible.1, ?_⟩
      exact ih (preserved s i start admissible.1) admissible.2

/-- The same, when every step keeps the invariant. -/
theorem along_of_kept {I : σ → Prop} (kept : ∀ s i, I s → I (step s i))
    (holds : ∀ s i, I s → Q s i) {s : σ} (start : I s) (is : List ι) : Along step Q s is :=
  along_of_invariant (fun s i held _ => kept s i held) (fun s i held _ => holds s i held) start
    (along_of_forall (fun _ _ => True.intro) s is)

/-- What every step keeps holds at the end of every run. -/
theorem run_of_kept {I : σ → Prop} (kept : ∀ s i, I s → I (step s i)) {s : σ} (start : I s)
    (is : List ι) : I (run step s is) :=
  run_invariant (fun s i held _ => kept s i held) start
    (along_of_forall (fun _ _ => True.intro) s is)

/-- What every step keeps at a cost holds at the end of a run at the cost of all its
steps. -/
theorem run_graded {I : Nat → σ → Prop} {cost : ι → Nat}
    (kept : ∀ n s i, I n s → I (n + cost i) (step s i)) {n : Nat} {s : σ} (start : I n s)
    (is : List ι) : I (n + (is.map cost).sum) (run step s is) := by
  induction is generalizing n s with
  | nil => exact start
  | cons i is ih =>
      rw [List.map_cons, List.sum_cons, ← Nat.add_assoc]
      exact ih (kept n s i start)

/-- What every step keeps at a cost of one holds at the end of a run at the cost of its
length. -/
theorem run_counted {I : Nat → σ → Prop} (kept : ∀ n s i, I n s → I (n + 1) (step s i))
    {n : Nat} {s : σ} (start : I n s) (is : List ι) : I (n + is.length) (run step s is) := by
  have counted : I (n + (is.map fun _ => 1).sum) (run step s is) := run_graded kept start is
  rwa [List.map_const', List.sum_replicate_nat, Nat.mul_one] at counted

/-- A forward simulation: what one machine does in a step, another can do in some steps with
the same observations, and so in a run. -/
theorem exists_run_of_simulation {τ κ γ : Type*} {step' : τ → κ → τ} {R : σ → τ → Prop}
    {f : ι → Option γ} {g : κ → Option γ}
    (simulates : ∀ s t i, R s t →
      ∃ js, js.filterMap g = (f i).toList ∧ R (step s i) (run step' t js))
    {s : σ} {t : τ} (start : R s t) (is : List ι) :
    ∃ js, js.filterMap g = is.filterMap f ∧ R (run step s is) (run step' t js) := by
  induction is generalizing s t with
  | nil => exact ⟨[], rfl, start⟩
  | cons i is ih =>
      obtain ⟨js, same, related⟩ := simulates s t i start
      obtain ⟨js', same', reached⟩ := ih related
      refine ⟨js ++ js', ?_, ?_⟩
      · rw [List.filterMap_append, same, same', List.filterMap_cons]
        cases f i <;> rfl
      · rw [run_append]
        exact reached

/-- `along_congr` where every step is admissible. -/
theorem along_congr_of_kept {I : σ → Prop} (same : ∀ s i, I s → (P s i ↔ Q s i))
    (kept : ∀ s i, I s → P s i → I (step s i)) {s : σ} (start : I s) (is : List ι) :
    Along step P s is ↔ Along step Q s is :=
  along_congr (fun s i held _ => same s i held) (fun s i held _ met => kept s i held met) start
    (along_of_forall (fun _ _ => True.intro) s is)

/-- A property of every state that the run passes through, its first included. -/
theorem forall_reached_iff {I : σ → Prop} {s : σ} {is : List ι} :
    (∀ served, served <+: is → I (run step s served)) ↔
      I s ∧ Along step (fun s i => I (step s i)) s is := by
  induction is generalizing s with
  | nil =>
      constructor
      · intro reached
        exact ⟨reached [] (List.prefix_refl []), trivial⟩
      · rintro ⟨start, -⟩ served part
        rw [List.prefix_nil.mp part]
        exact start
  | cons i is ih =>
      show _ ↔ I s ∧ I (step s i) ∧ Along step _ (step s i) is
      rw [← ih]
      constructor
      · intro reached
        refine ⟨reached [] List.nil_prefix, fun served part => ?_⟩
        exact reached (i :: served) (List.prefix_cons_inj i |>.mpr part)
      · rintro ⟨start, later⟩ served part
        rcases List.prefix_cons_iff.mp part with rfl | ⟨rest, rfl, within⟩
        · exact start
        · exact later rest within

/-! ## Machines that answer -/

section Answers

variable {ρ τ : Type*} {machine : ι → σ → ρ × σ} {machine' : ι → τ → ρ × τ}

/-- The answers to the inputs, in order. -/
def answers (machine : ι → σ → ρ × σ) : σ → List ι → List ρ
  | _, [] => []
  | s, i :: is => (machine i s).1 :: answers machine (machine i s).2 is

/-- The state in which a machine is left. -/
abbrev leave (machine : ι → σ → ρ × σ) : σ → List ι → σ := run fun s i => (machine i s).2

/-- A simulation: related machines answer alike, and stay related. -/
theorem answers_eq_of_simulation {R : σ → τ → Prop}
    (step_simulates : ∀ i s t, R s t →
      (machine i s).1 = (machine' i t).1 ∧ R (machine i s).2 (machine' i t).2)
    {s : σ} {t : τ} (start : R s t) (is : List ι) :
    answers machine s is = answers machine' t is ∧
      R (leave machine s is) (leave machine' t is) := by
  induction is generalizing s t with
  | nil => exact ⟨rfl, start⟩
  | cons i is ih =>
      obtain ⟨alike, related⟩ := step_simulates i s t start
      obtain ⟨rest, final⟩ := ih related
      refine ⟨?_, final⟩
      rw [answers, answers, alike, rest]

/-- The same, for answers that are read in another form. -/
theorem map_answers_eq_of_simulation {ρ' : Type*} {machine'' : ι → τ → ρ' × τ} {R : σ → τ → Prop}
    {reading : ρ → ρ'}
    (step_simulates : ∀ i s t, R s t →
      reading (machine i s).1 = (machine'' i t).1 ∧ R (machine i s).2 (machine'' i t).2)
    {s : σ} {t : τ} (start : R s t) (is : List ι) :
    (answers machine s is).map reading = answers machine'' t is ∧
      R (leave machine s is) (leave machine'' t is) := by
  induction is generalizing s t with
  | nil => exact ⟨rfl, start⟩
  | cons i is ih =>
      obtain ⟨alike, related⟩ := step_simulates i s t start
      obtain ⟨rest, final⟩ := ih related
      refine ⟨?_, final⟩
      rw [answers, answers, List.map_cons, alike, rest]

end Answers

end Rabia.Lib
