import Rabia.Lib.Runs

/-!
# Conservation along a run

`collect step f s is` is what the steps of a run from `s` give under `f`, in order. A
machine that holds back some of what it takes in conserves it when, at every step, what it
gives out and then holds is what it held and then takes in. `collect_conserved` carries
that law over the run, so nothing is lost, repeated or reordered on the way.

`replay_collect` is the law of a machine that reports what it does: an observer who
replays the reports of every step sees what there is to see of the machine.
-/

namespace Rabia.Lib

variable {σ ι α β : Type*} {step : σ → ι → σ} {ok : σ → ι → Prop}

/-- What the steps of the run give, in order. -/
def collect (step : σ → ι → σ) (f : σ → ι → List α) : σ → List ι → List α
  | _, [] => []
  | s, i :: is => f s i ++ collect step f (step s i) is

@[simp] theorem collect_nil (f : σ → ι → List α) (s : σ) : collect step f s [] = [] := rfl

@[simp] theorem collect_cons (f : σ → ι → List α) (s : σ) (i : ι) (is : List ι) :
    collect step f s (i :: is) = f s i ++ collect step f (step s i) is := rfl

theorem flatMap_collect (g : α → List β) (f : σ → ι → List α) (s : σ) (is : List ι) :
    (collect step f s is).flatMap g = collect step (fun s i => (f s i).flatMap g) s is := by
  induction is generalizing s with
  | nil => rfl
  | cons i is ih => rw [collect_cons, List.flatMap_append, ih, collect_cons]

theorem collect_congr {f g : σ → ι → List α} {s : σ} {is : List ι}
    (same : Along step (fun s i => f s i = g s i) s is) :
    collect step f s is = collect step g s is := by
  induction is generalizing s with
  | nil => rfl
  | cons i is ih => rw [collect_cons, same.1, ih same.2, collect_cons]

/-- What every admissible step lengthens by what it takes in, over a run. -/
theorem collect_grown (held : σ → List α) {taken : σ → ι → List α}
    (law : ∀ s i, ok s i → held (step s i) = held s ++ taken s i)
    {s : σ} {is : List ι} (admissible : Along step ok s is) :
    held (run step s is) = held s ++ collect step taken s is := by
  induction is generalizing s with
  | nil => exact (List.append_nil _).symm
  | cons i is ih =>
      rw [run_cons, ih admissible.2, law s i admissible.1, List.append_assoc, collect_cons]

/-- A law of every admissible step, over a run: what is given out, then what is held, is
what was held, then what was taken in. -/
theorem collect_conserved (held : σ → List α) {taken given : σ → ι → List α}
    (law : ∀ s i, ok s i → given s i ++ held (step s i) = held s ++ taken s i)
    {s : σ} {is : List ι} (admissible : Along step ok s is) :
    collect step given s is ++ held (run step s is) = held s ++ collect step taken s is := by
  induction is generalizing s with
  | nil => exact (List.append_nil _).symm
  | cons i is ih =>
      calc collect step given s (i :: is) ++ held (run step s (i :: is))
          = given s i ++ (collect step given (step s i) is ++ held (run step (step s i) is)) :=
            List.append_assoc ..
        _ = given s i ++ held (step s i) ++ collect step taken (step s i) is := by
            rw [ih admissible.2, List.append_assoc]
        _ = held s ++ collect step taken s (i :: is) := by
            rw [law s i admissible.1, List.append_assoc, collect_cons]

/-- An observer who follows every step by replaying what it gives follows the run. -/
theorem replay_collect {τ : Type*} {apply : τ → α → τ} {fits : τ → α → Prop} (view : σ → τ)
    (given : σ → ι → List α)
    (law : ∀ s i, Along apply fits (view s) (given s i) ∧
      run apply (view s) (given s i) = view (step s i)) (s : σ) (is : List ι) :
    Along apply fits (view s) (collect step given s is) ∧
      run apply (view s) (collect step given s is) = view (run step s is) := by
  induction is generalizing s with
  | nil => exact ⟨trivial, rfl⟩
  | cons i is ih => exact along_run_append (law s i) (ih (step s i))

/-- An account that every step raises by the price of its input. -/
theorem account_run {account : σ → Nat} {price : ι → Nat}
    (law : ∀ s i, account (step s i) = account s + price i) (s : σ) (is : List ι) :
    account (run step s is) = account s + (is.map price).sum :=
  run_graded (I := fun n s => account s = n) (fun _ s i now => now ▸ law s i) rfl is

end Rabia.Lib
