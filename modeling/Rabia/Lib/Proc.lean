import Mathlib.Tactic.Common

/-!
# Procedures with a state, effects and errors

`Proc ε σ ω α` is a call that reads and writes a state `σ`, emits effects `ω`
in order, and returns an `α` or an error `ε`. As in a method that mutates
`self` and leaves early through `?`, an error keeps every write and every
effect made before it.

The evaluation lemmas (`bind_ok`, `modify_bind`, …) run a `do` block step by
step. `Proc.Within R p` is the compositional rule for what a call may do: `R`
relates the state before, the emitted effects and the state after, and holds of
a block as soon as it holds of its steps (`Within.bind`).
-/

namespace Rabia.Lib

/-- What a call leaves behind. -/
@[ext] structure Outcome (ε σ ω α : Type) where
  result : Except ε α
  state : σ
  effects : List ω

/-- A call on a state `σ`. -/
def Proc (ε σ ω α : Type) := σ → Outcome ε σ ω α

/-- The same outcome with the effects `w` emitted first. -/
def Outcome.after {ε σ ω α : Type} (w : List ω) (o : Outcome ε σ ω α) : Outcome ε σ ω α :=
  { o with effects := w ++ o.effects }

namespace Proc

variable {ε σ ω α β : Type}

/-! ## The monad -/

/-- Return without touching anything. -/
protected def pure (a : α) : Proc ε σ ω α := fun s => ⟨.ok a, s, []⟩

/-- Sequencing: an error ends the call where it happened. -/
protected def bind (p : Proc ε σ ω α) (f : α → Proc ε σ ω β) : Proc ε σ ω β := fun s =>
  match p s with
  | ⟨.ok a, s', w⟩ => (f a s').after w
  | ⟨.error err, s', w⟩ => ⟨.error err, s', w⟩

instance : Monad (Proc ε σ ω) where
  pure := Proc.pure
  bind := Proc.bind

/-- Read from the state. -/
def read (f : σ → α) : Proc ε σ ω α := fun s => ⟨.ok (f s), s, []⟩

/-- Write the state. -/
def modify (f : σ → σ) : Proc ε σ ω Unit := fun s => ⟨.ok (), f s, []⟩

/-- Emit one effect. -/
def emit (w : ω) : Proc ε σ ω Unit := fun s => ⟨.ok (), s, [w]⟩

/-- Leave with an error. -/
def throw (err : ε) : Proc ε σ ω α := fun s => ⟨.error err, s, []⟩

/-- Leave with the error of a result, if it is one. -/
def ofExcept (r : Except ε α) : Proc ε σ ω α := fun s => ⟨r, s, []⟩

/-- Run `p` and hand its result over instead of leaving on an error. -/
def attempt (p : Proc ε σ ω α) : Proc ε σ ω (Except ε α) := fun s =>
  ⟨.ok (p s).result, (p s).state, (p s).effects⟩

/-! ## Evaluation -/

@[simp] theorem after_nil (o : Outcome ε σ ω α) : o.after [] = o := rfl

@[simp] theorem after_state (w : List ω) (o : Outcome ε σ ω α) :
    (o.after w).state = o.state := rfl

@[simp] theorem after_effects (w : List ω) (o : Outcome ε σ ω α) :
    (o.after w).effects = w ++ o.effects := rfl

@[simp] theorem read_bind (g : σ → α) (f : α → Proc ε σ ω β) (s : σ) :
    (read g >>= f) s = f (g s) s := rfl

@[simp] theorem modify_bind (g : σ → σ) (f : Unit → Proc ε σ ω β) (s : σ) :
    (modify g >>= f) s = f () (g s) := rfl

@[simp] theorem emit_bind (w : ω) (f : Unit → Proc ε σ ω β) (s : σ) :
    (emit w >>= f) s = (f () s).after [w] := rfl

@[simp] theorem pure_apply (a : α) (s : σ) :
    (Pure.pure a : Proc ε σ ω α) s = ⟨.ok a, s, []⟩ := rfl

@[simp] theorem throw_apply (err : ε) (s : σ) :
    (throw err : Proc ε σ ω α) s = ⟨.error err, s, []⟩ := rfl

@[simp] theorem ofExcept_ok_bind (a : α) (f : α → Proc ε σ ω β) (s : σ) :
    (ofExcept (.ok a) >>= f) s = f a s := rfl

@[simp] theorem ofExcept_error_bind (err : ε) (f : α → Proc ε σ ω β) (s : σ) :
    (ofExcept (.error err) >>= f) s = ⟨.error err, s, []⟩ := rfl

@[simp] theorem ofExcept_apply (r : Except ε α) (s : σ) :
    (ofExcept r : Proc ε σ ω α) s = ⟨r, s, []⟩ := rfl

@[simp] theorem attempt_bind (p : Proc ε σ ω α) (f : Except ε α → Proc ε σ ω β) (s : σ) :
    (attempt p >>= f) s = (f (p s).result (p s).state).after (p s).effects := rfl

/-- A block whose first step succeeds goes on from there. -/
theorem bind_ok {p : Proc ε σ ω α} {f : α → Proc ε σ ω β} {s s' : σ} {a : α} {w : List ω}
    (h : p s = ⟨.ok a, s', w⟩) : (p >>= f) s = (f a s').after w := by
  show Proc.bind p f s = _
  rw [Proc.bind, h]

/-- A block whose first step fails stops there. -/
theorem bind_error {p : Proc ε σ ω α} {f : α → Proc ε σ ω β} {s s' : σ} {err : ε}
    {w : List ω} (h : p s = ⟨.error err, s', w⟩) :
    (p >>= f) s = ⟨.error err, s', w⟩ := by
  show Proc.bind p f s = _
  rw [Proc.bind, h]

/-- A block that starts with a check that fails. -/
theorem ofExcept_bind_error {r : Except ε α} {err : ε} (h : r = .error err)
    (f : α → Proc ε σ ω β) (s : σ) : (ofExcept r >>= f) s = ⟨.error err, s, []⟩ := by
  rw [h, ofExcept_error_bind]

/-- Wrapping the result of a call. -/
theorem bind_pure_apply (p : Proc ε σ ω α) (g : α → β) (s : σ) :
    (p >>= fun a => Pure.pure (g a)) s =
      ⟨(p s).result.map g, (p s).state, (p s).effects⟩ := by
  cases h : p s with
  | mk result s' w =>
      cases result with
      | ok a =>
          rw [bind_ok h]
          simp [Outcome.after, Except.map]
      | error err =>
          rw [bind_error h]
          rfl

theorem bind_pure_ok {p : Proc ε σ ω α} {s s' : σ} {a : α} {w : List ω}
    (h : p s = ⟨.ok a, s', w⟩) (g : α → β) :
    (p >>= fun a => Pure.pure (g a)) s = ⟨.ok (g a), s', w⟩ := by
  rw [bind_pure_apply, h]
  rfl

/-- Blocks whose first steps come out alike come out alike. -/
theorem bind_congr {p q : Proc ε σ ω α} (f : α → Proc ε σ ω β) {s t : σ} (h : p s = q t) :
    (p >>= f) s = (q >>= f) t := by
  show Proc.bind p f s = Proc.bind q f t
  unfold Proc.bind
  rw [h]

/-- A loop that only writes. -/
theorem forM_modify (l : List α) (f : α → σ → σ) (s : σ) :
    (l.forM fun a => modify (f a) : Proc ε σ ω Unit) s =
      ⟨.ok (), l.foldl (fun s a => f a s) s, []⟩ := by
  induction l generalizing s with
  | nil => rfl
  | cons a l ih =>
      show (modify (f a) >>= fun _ => l.forM fun a => modify (f a) : Proc ε σ ω Unit) s = _
      rw [modify_bind, ih]
      rfl

/-! ## What a call may do -/

/-- Relations between a state, the effects emitted from it and the state
reached, closed under doing nothing and under doing one thing after another. -/
structure Path (R : σ → List ω → σ → Prop) : Prop where
  nil : ∀ s, R s [] s
  append : ∀ {s s' s'' w w'}, R s w s' → R s' w' s'' → R s (w ++ w') s''

/-- Every outcome of `p` is one that `R` allows. -/
def Within (R : σ → List ω → σ → Prop) (p : Proc ε σ ω α) : Prop :=
  ∀ s, R s (p s).effects (p s).state

namespace Within

variable {R : σ → List ω → σ → Prop}

theorem pure (path : Path R) (a : α) : Within R (Pure.pure a : Proc ε σ ω α) :=
  fun s => path.nil s

theorem read (path : Path R) (f : σ → α) : Within R (Proc.read f : Proc ε σ ω α) :=
  fun s => path.nil s

theorem throw (path : Path R) (err : ε) : Within R (Proc.throw err : Proc ε σ ω α) :=
  fun s => path.nil s

theorem ofExcept (path : Path R) (r : Except ε α) :
    Within R (Proc.ofExcept r : Proc ε σ ω α) :=
  fun s => path.nil s

theorem attempt {p : Proc ε σ ω α} (h : Within R p) : Within R (Proc.attempt p) := h

theorem bind (path : Path R) {p : Proc ε σ ω α} {f : α → Proc ε σ ω β}
    (hp : Within R p) (hf : ∀ a, Within R (f a)) : Within R (p >>= f) := by
  intro s
  have first := hp s
  cases h : p s with
  | mk result s' w =>
      rw [h] at first
      cases result with
      | ok a =>
          rw [bind_ok h]
          exact path.append first (hf a s')
      | error err =>
          rw [bind_error h]
          exact first

theorem forM (path : Path R) (l : List α) {f : α → Proc ε σ ω Unit}
    (h : ∀ a, Within R (f a)) : Within R (l.forM f) := by
  induction l with
  | nil => exact Within.pure path _
  | cons a l ih => exact Within.bind path (h a) fun _ => ih

theorem forM_of_mem (path : Path R) {l : List α} {f : α → Proc ε σ ω Unit}
    (h : ∀ a ∈ l, Within R (f a)) : Within R (l.forM f) := by
  induction l with
  | nil => exact Within.pure path _
  | cons a l ih =>
      exact Within.bind path (h a List.mem_cons_self) fun _ =>
        ih fun a' member => h a' (List.mem_cons_of_mem a member)

end Within

/-! ## What a call costs -/

/-- Relations between a state and a later one, graded by a cost and closed under doing
nothing, under doing one thing after another and under allowing more. -/
structure Graded (R : Nat → σ → σ → Prop) : Prop where
  nil : ∀ s, R 0 s s
  append : ∀ {m n s s' s''}, R m s s' → R n s' s'' → R (m + n) s s''
  mono : ∀ {m n s s'}, m ≤ n → R m s s' → R n s s'

/-- Whatever state `p` starts from, `R` allows the state it leaves at cost `n`. -/
def Costs (R : Nat → σ → σ → Prop) (n : Nat) (p : Proc ε σ ω α) : Prop :=
  ∀ s, R n s (p s).state

namespace Costs

variable {R : Nat → σ → σ → Prop}

/-- A call that leaves the state alone costs nothing. -/
theorem keep (graded : Graded R) {p : Proc ε σ ω α} (same : ∀ s, (p s).state = s) (n : Nat) :
    Costs R n p := by
  intro s
  rw [same s]
  exact graded.mono (Nat.zero_le n) (graded.nil s)

theorem attempt {n : Nat} {p : Proc ε σ ω α} (h : Costs R n p) :
    Costs R n (Proc.attempt p) := h

theorem bind (graded : Graded R) (m n : Nat) {p : Proc ε σ ω α} {f : α → Proc ε σ ω β}
    (hp : Costs R m p) (hf : ∀ a, Costs R n (f a)) : Costs R (m + n) (p >>= f) := by
  intro s
  have first := hp s
  cases h : p s with
  | mk result s' w =>
      rw [h] at first
      cases result with
      | ok a =>
          rw [bind_ok h]
          exact graded.append first (hf a s')
      | error err =>
          rw [bind_error h]
          exact graded.mono (Nat.le_add_right m n) first

/-- A first step that leaves the state alone adds nothing. -/
theorem skip (graded : Graded R) {n : Nat} {p : Proc ε σ ω α} {f : α → Proc ε σ ω β}
    (same : ∀ s, (p s).state = s) (hf : ∀ a, Costs R n (f a)) : Costs R n (p >>= f) := by
  have sum := bind graded 0 n (keep graded same 0) hf
  rwa [Nat.zero_add] at sum

theorem forM (graded : Graded R) (l : List α) {f : α → Proc ε σ ω Unit}
    (same : ∀ a s, (f a s).state = s) (n : Nat) : Costs R n (l.forM f) := by
  induction l with
  | nil => exact keep graded (fun _ => rfl) n
  | cons a l ih => exact skip graded (same a) fun _ => ih

end Costs

end Proc

end Rabia.Lib
