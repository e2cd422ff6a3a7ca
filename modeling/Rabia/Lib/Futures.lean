import Rabia.Lib.Runs

/-!
# Futures over a shared state

A `Future` is polled until it is ready; a poll may read and change the state that all futures
share. `inOrder` runs futures one after another, `pollAll` in whatever order a schedule says.

Futures are `Independent` when their polls commute and neither reads what the other writes.
Then a schedule makes no difference (`inOrder_pollAll`), and a join of fallible futures that
obeys the laws of `Joins` returns what they return one after another (`Joins.eq_ok`). `joined`
obeys them (`joins_joined`).
-/

namespace Rabia.Lib

variable {σ ρ : Type*}

/-- A computation that is ready, or whose next poll changes the state and leaves another
future. -/
inductive Future (σ ρ : Type*) where
  | ready (outcome : ρ)
  | pending (change : σ → σ) (next : σ → Future σ ρ)

namespace Future

/-- The outcome of a future that is polled until it is ready. -/
def finish : Future σ ρ → σ → ρ × σ
  | ready outcome, s => (outcome, s)
  | pending change next, s => finish (next s) (change s)

/-- One future after another. -/
def inOrder : List (Future σ ρ) → σ → List ρ × σ
  | [], s => ([], s)
  | f :: fs, s =>
    let (outcome, s') := f.finish s
    let (outcomes, s'') := inOrder fs s'
    (outcome :: outcomes, s'')

/-- One poll of the future at a position. -/
def poll : Nat → List (Future σ ρ) → σ → List (Future σ ρ) × σ
  | _, [], s => ([], s)
  | 0, ready outcome :: fs, s => (ready outcome :: fs, s)
  | 0, pending change next :: fs, s => (next s :: fs, change s)
  | i + 1, f :: fs, s => (f :: (poll i fs s).1, (poll i fs s).2)

/-- The futures are polled in the order of a schedule. -/
def pollAll (schedule : List Nat) (fs : List (Future σ ρ)) (s : σ) : List (Future σ ρ) × σ :=
  run (fun fs i => poll i fs.1 fs.2) (fs, s) schedule

/-- The polls of two futures commute, and neither reads what the other writes. -/
inductive Independent : Future σ ρ → Future σ ρ → Prop where
  | readyLeft (outcome : ρ) (f : Future σ ρ) : Independent (ready outcome) f
  | readyRight (f : Future σ ρ) (outcome : ρ) : Independent f (ready outcome)
  | pending {change change' : σ → σ} {next next' : σ → Future σ ρ}
      (commute : ∀ s, change (change' s) = change' (change s))
      (unread : ∀ s, next (change' s) = next s)
      (unread' : ∀ s, next' (change s) = next' s)
      (left : ∀ s, Independent (next s) (pending change' next'))
      (right : ∀ s, Independent (pending change next) (next' s)) :
      Independent (pending change next) (pending change' next')

variable {f g : Future σ ρ} {fs : List (Future σ ρ)} {change : σ → σ} {next : σ → Future σ ρ}

theorem Independent.next_left (apart : Independent (.pending change next) g) (s : σ) :
    Independent (next s) g := by
  cases apart with
  | readyRight _ outcome => exact .readyRight _ outcome
  | pending _ _ _ left _ => exact left s

theorem Independent.next_right (apart : Independent f (.pending change next)) (s : σ) :
    Independent f (next s) := by
  cases apart with
  | readyLeft outcome _ => exact .readyLeft outcome _
  | pending _ _ _ _ right => exact right s

/-- A future finishes alike before and after a poll of another, which then goes on alike. -/
theorem Independent.finish (apart : Independent f (.pending change next)) (s : σ) :
    f.finish (change s) = ((f.finish s).1, change (f.finish s).2) ∧
      next (f.finish s).2 = next s := by
  induction f generalizing s with
  | ready outcome => exact ⟨rfl, rfl⟩
  | pending change' next' ih =>
      cases apart with
      | pending commute unread unread' left right =>
          obtain ⟨alike, goesOn⟩ := ih s (left s) (change' s)
          refine ⟨?_, ?_⟩
          · simp only [Future.finish]
            rw [unread, commute, alike]
          · simp only [Future.finish]
            rw [goesOn, unread']

theorem poll_succ (i : Nat) (fs : List (Future σ ρ)) (s : σ) :
    poll (i + 1) (f :: fs) s = (f :: (poll i fs s).1, (poll i fs s).2) := by
  rw [poll]

theorem poll_nil (i : Nat) (s : σ) : poll i ([] : List (Future σ ρ)) s = ([], s) := by
  cases i <;> rfl

/-- What is independent of all futures is so after a poll. -/
theorem independent_poll {i : Nat} {s : σ} (apart : ∀ g ∈ fs, Independent f g) :
    ∀ g ∈ (poll i fs s).1, Independent f g := by
  induction fs generalizing i with
  | nil =>
      rw [poll_nil]
      exact apart
  | cons g fs ih =>
      have head := apart g List.mem_cons_self
      have tail : ∀ g' ∈ fs, Independent f g' := fun g' member =>
        apart g' (List.mem_cons_of_mem _ member)
      intro g' member
      match i, g with
      | 0, .ready outcome => exact apart g' member
      | 0, .pending change next =>
          rcases List.mem_cons.mp member with rfl | later
          · exact head.next_right s
          · exact tail g' later
      | i + 1, g =>
          rw [poll_succ] at member
          rcases List.mem_cons.mp member with rfl | later
          · exact head
          · exact ih tail g' later

/-- A poll leaves futures independent of one another that were so. -/
theorem pairwise_poll {i : Nat} {s : σ} (apart : fs.Pairwise Independent) :
    (poll i fs s).1.Pairwise Independent := by
  induction fs generalizing i with
  | nil =>
      rw [poll_nil]
      exact apart
  | cons g fs ih =>
      obtain ⟨head, tail⟩ := List.pairwise_cons.mp apart
      match i, g with
      | 0, .ready outcome => exact apart
      | 0, .pending change next =>
          exact List.pairwise_cons.mpr ⟨fun g' member => (head g' member).next_left s, tail⟩
      | i + 1, g =>
          rw [poll_succ]
          exact List.pairwise_cons.mpr ⟨independent_poll head, ih tail⟩

/-- A future that is independent of all finishes alike before and after a poll, which does the
same before and after it. -/
theorem finish_poll {i : Nat} (apart : ∀ g ∈ fs, Independent f g) (s : σ) :
    f.finish (poll i fs s).2 = ((f.finish s).1, (poll i fs (f.finish s).2).2) ∧
      (poll i fs (f.finish s).2).1 = (poll i fs s).1 := by
  induction fs generalizing i with
  | nil => simp only [poll_nil, and_self]
  | cons g fs ih =>
      match i, g with
      | 0, .ready outcome => exact ⟨rfl, rfl⟩
      | 0, .pending change next =>
          obtain ⟨alike, goesOn⟩ := (apart _ List.mem_cons_self).finish s
          refine ⟨alike, ?_⟩
          simp only [poll]
          rw [goesOn]
      | i + 1, g =>
          obtain ⟨alike, goesOn⟩ : f.finish (poll i fs s).2 = _ ∧ _ :=
            ih fun g' member => apart g' (List.mem_cons_of_mem _ member)
          rw [poll_succ, poll_succ]
          exact ⟨alike, congrArg (g :: ·) goesOn⟩

/-- A poll makes no difference to what the futures do in order. -/
theorem inOrder_poll {i : Nat} (apart : fs.Pairwise Independent) (s : σ) :
    inOrder (poll i fs s).1 (poll i fs s).2 = inOrder fs s := by
  induction fs generalizing i s with
  | nil => rw [poll_nil]
  | cons g fs ih =>
      obtain ⟨head, tail⟩ := List.pairwise_cons.mp apart
      match i, g with
      | 0, .ready outcome => rfl
      | 0, .pending change next => rfl
      | i + 1, g =>
          obtain ⟨alike, goesOn⟩ : g.finish (poll i fs s).2 = _ ∧ _ := finish_poll head s
          rw [poll_succ]
          simp only [inOrder]
          rw [alike, ← goesOn, ih tail]

/-- Whatever the schedule, what is left to do in order is what there was. -/
theorem inOrder_pollAll (apart : fs.Pairwise Independent) (s : σ) (schedule : List Nat) :
    inOrder (pollAll schedule fs s).1 (pollAll schedule fs s).2 = inOrder fs s := by
  have kept : ∀ (now : List (Future σ ρ) × σ) i,
      now.1.Pairwise Independent ∧ inOrder now.1 now.2 = inOrder fs s →
        (poll i now.1 now.2).1.Pairwise Independent ∧
          inOrder (poll i now.1 now.2).1 (poll i now.1 now.2).2 = inOrder fs s := by
    rintro now i ⟨apart', same⟩
    exact ⟨pairwise_poll apart', (inOrder_poll apart' now.2).trans same⟩
  exact (run_of_kept (I := fun now : List (Future σ ρ) × σ =>
    now.1.Pairwise Independent ∧ inOrder now.1 now.2 = inOrder fs s) kept ⟨apart, rfl⟩ schedule).2

/-- Futures that are all ready have nothing left to do. -/
theorem inOrder_ready (outcomes : List ρ) (s : σ) :
    inOrder (outcomes.map ready) s = (outcomes, s) := by
  induction outcomes with
  | nil => rfl
  | cons outcome outcomes ih => simp only [List.map_cons, inOrder, finish, ih]

/-- Polls of the futures behind the first. -/
theorem pollAll_succ (schedule : List Nat) (fs : List (Future σ ρ)) (s : σ) :
    pollAll (schedule.map (· + 1)) (f :: fs) s =
      (f :: (pollAll schedule fs s).1, (pollAll schedule fs s).2) := by
  induction schedule generalizing fs s with
  | nil => rfl
  | cons i schedule ih =>
      show pollAll (schedule.map (· + 1)) (poll (i + 1) (f :: fs) s).1
        (poll (i + 1) (f :: fs) s).2 = _
      rw [poll_succ, ih]
      rfl

theorem pollAll_append (schedule schedule' : List Nat) (fs : List (Future σ ρ)) (s : σ) :
    pollAll (schedule ++ schedule') fs s =
      pollAll schedule' (pollAll schedule fs s).1 (pollAll schedule fs s).2 :=
  run_append _ _ _

/-- The first future is polled until it is ready. -/
theorem exists_pollAll_finish (f : Future σ ρ) (fs : List (Future σ ρ)) (s : σ) :
    ∃ n, pollAll (List.replicate n 0) (f :: fs) s =
      (ready (f.finish s).1 :: fs, (f.finish s).2) := by
  induction f generalizing s with
  | ready outcome => exact ⟨0, rfl⟩
  | pending change next ih =>
      obtain ⟨n, finished⟩ := ih s (change s)
      exact ⟨n + 1, finished⟩

/-- What the futures do in order, some schedule does. -/
theorem exists_pollAll_inOrder (fs : List (Future σ ρ)) (s : σ) :
    ∃ schedule, pollAll schedule fs s = ((inOrder fs s).1.map ready, (inOrder fs s).2) := by
  induction fs generalizing s with
  | nil => exact ⟨[], rfl⟩
  | cons f fs ih =>
      obtain ⟨n, first⟩ := exists_pollAll_finish f fs s
      obtain ⟨schedule, rest⟩ := ih (f.finish s).2
      refine ⟨List.replicate n 0 ++ schedule.map (· + 1), ?_⟩
      rw [pollAll_append, first, pollAll_succ, rest]
      rfl

/-! ## Joining fallible futures -/

section Fallible

variable {ε α : Type*} {fs : List (Future σ (Except ε α))} {s s' : σ} {as : List α} {e : ε}

/-- One future after another, up to the first that fails. -/
def inSequence : List (Future σ (Except ε α)) → σ → Except ε (List α) × σ
  | [], s => (.ok [], s)
  | f :: fs, s =>
    match f.finish s with
    | (.ok a, s') =>
      match inSequence fs s' with
      | (.ok as, s'') => (.ok (a :: as), s'')
      | (.error e, s'') => (.error e, s'')
    | (.error e, s') => (.error e, s')

/-- A join of fallible futures: what it has returned, if it has, when they were polled from a
state by a schedule. -/
abbrev Join (σ ε α : Type*) :=
  List Nat → List (Future σ (Except ε α)) → σ → Option (Except ε (List α))

/-- A join returns the results of all futures, in their order, when all are ready with one, or
an error when some future is ready with it; and when all are ready, it has returned. -/
structure Joins (join : Join σ ε α) : Prop where
  ok {schedule : List Nat} {fs : List (Future σ (Except ε α))} {s : σ} {as : List α} :
    join schedule fs s = some (.ok as) → (pollAll schedule fs s).1 = (as.map .ok).map ready
  error {schedule : List Nat} {fs : List (Future σ (Except ε α))} {s : σ} {e : ε} :
    join schedule fs s = some (.error e) → ready (.error e) ∈ (pollAll schedule fs s).1
  returned {schedule : List Nat} {fs : List (Future σ (Except ε α))} {s : σ}
    {outcomes : List (Except ε α)} :
    (pollAll schedule fs s).1 = outcomes.map ready → join schedule fs s ≠ none

/-- What is known of the futures together: the results of all, or the first error. -/
def together : List (Future σ (Except ε α)) → Option (Except ε (List α))
  | [] => some (.ok [])
  | ready (.ok a) :: fs =>
    match together fs with
    | some (.ok as) => some (.ok (a :: as))
    | some (.error e) => some (.error e)
    | none => none
  | ready (.error e) :: _ => some (.error e)
  | pending _ _ :: fs =>
    match together fs with
    | some (.error e) => some (.error e)
    | some (.ok _) | none => none

theorem together_ready (outcomes : List (Except ε α)) :
    together (outcomes.map (ready (σ := σ))) ≠ none := by
  induction outcomes with
  | nil => exact nofun
  | cons outcome outcomes ih =>
      cases outcome with
      | error e => exact nofun
      | ok a =>
          rw [List.map_cons, together]
          split
          · exact nofun
          · exact nofun
          · next unknown => exact absurd unknown ih

theorem together_eq_ok (known : together fs = some (.ok as)) :
    fs = (as.map .ok).map ready := by
  induction fs generalizing as with
  | nil =>
      cases known
      rfl
  | cons f fs ih =>
      match f with
      | .ready (.error e) => cases known
      | .ready (.ok a) =>
          rw [together] at known
          split at known
          · next rest =>
              cases known
              rw [ih rest]
              rfl
          · cases known
          · cases known
      | .pending _ _ =>
          rw [together] at known
          split at known <;> cases known

theorem together_eq_error (known : together fs = some (.error e)) : ready (.error e) ∈ fs := by
  induction fs with
  | nil => cases known
  | cons f fs ih =>
      match f with
      | .ready (.error e') =>
          cases known
          exact List.mem_cons_self
      | .ready (.ok a) =>
          rw [together] at known
          split at known
          · cases known
          · next rest =>
              cases known
              exact List.mem_cons_of_mem _ (ih rest)
          · cases known
      | .pending _ _ =>
          rw [together] at known
          split at known
          · next rest =>
              cases known
              exact List.mem_cons_of_mem _ (ih rest)
          · cases known
          · cases known

/-- A join that returns as soon as it can. -/
def joined : Join σ ε α := fun schedule fs s => together (pollAll schedule fs s).1

theorem joins_joined : Joins (joined : Join σ ε α) where
  ok := together_eq_ok
  error := together_eq_error
  returned := by
    intro schedule fs s outcomes all
    unfold joined
    rw [all]
    exact together_ready outcomes

/-- A future that is ready has its outcome among the outcomes in order. -/
theorem mem_inOrder_of_ready {outcome : ρ} {fs : List (Future σ ρ)}
    (member : ready outcome ∈ fs) (s : σ) : outcome ∈ (inOrder fs s).1 := by
  induction fs generalizing s with
  | nil => cases member
  | cons f fs ih =>
      rcases List.mem_cons.mp member with rfl | later
      · exact List.mem_cons_self
      · exact List.mem_cons_of_mem _ (ih later _)

theorem inSequence_of_inOrder (all : inOrder fs s = (as.map .ok, s')) :
    inSequence fs s = (.ok as, s') := by
  induction fs generalizing s as with
  | nil =>
      cases as with
      | nil => cases all; rfl
      | cons a as => cases all
  | cons f fs ih =>
      cases as with
      | nil => cases all
      | cons a as =>
          simp only [inOrder, List.map_cons, Prod.mk.injEq, List.cons.injEq] at all
          obtain ⟨⟨first, others⟩, final⟩ := all
          have rest := ih (s := (f.finish s).2) (Prod.ext others final)
          unfold inSequence
          rw [show f.finish s = (.ok a, (f.finish s).2) from Prod.ext first rfl]
          dsimp only
          rw [rest]

theorem inSequence_fails_of_mem (member : .error e ∈ (inOrder fs s).1) :
    ∃ e', (inSequence fs s).1 = .error e' := by
  induction fs generalizing s with
  | nil => cases member
  | cons f fs ih =>
      unfold inSequence
      cases first : f.finish s with
      | mk outcome s' =>
          cases outcome with
          | error e' => exact ⟨e', rfl⟩
          | ok a =>
              simp only [inOrder, first, List.mem_cons, reduceCtorEq, false_or] at member
              obtain ⟨e', failed⟩ := ih member
              dsimp only
              cases rest : inSequence fs s' with
              | mk result s'' =>
                  rw [rest] at failed
                  cases failed
                  exact ⟨e', rfl⟩

/-- The error in sequence is that of one of the futures. -/
theorem mem_inOrder_of_inSequence (failed : (inSequence fs s).1 = .error e) :
    .error e ∈ (inOrder fs s).1 := by
  induction fs generalizing s with
  | nil => cases failed
  | cons f fs ih =>
      unfold inSequence at failed
      cases first : f.finish s with
      | mk outcome s' =>
          rw [first] at failed
          simp only [inOrder, first]
          cases outcome with
          | error e' =>
              cases failed
              exact List.mem_cons_self
          | ok a =>
              dsimp only at failed
              cases rest : inSequence fs s' with
              | mk result s'' =>
                  rw [rest] at failed
                  cases result with
                  | ok as => cases failed
                  | error e' =>
                      cases failed
                      exact List.mem_cons_of_mem _ (ih (congrArg Prod.fst rest))

variable {join : Join σ ε α}

/-- Joined futures that are independent return what they return in sequence, in the same
state. -/
theorem Joins.eq_ok (joins : Joins join) {schedule : List Nat} (apart : fs.Pairwise Independent)
    (returned : join schedule fs s = some (.ok as)) :
    inSequence fs s = (.ok as, (pollAll schedule fs s).2) := by
  refine inSequence_of_inOrder ?_
  rw [← inOrder_pollAll apart s schedule, joins.ok returned, inOrder_ready]

/-- When they return an error, it is that of one of them, and they fail in sequence. -/
theorem Joins.eq_error (joins : Joins join) {schedule : List Nat}
    (apart : fs.Pairwise Independent) (returned : join schedule fs s = some (.error e)) :
    .error e ∈ (inOrder fs s).1 ∧ ∃ e', (inSequence fs s).1 = .error e' := by
  have member : .error e ∈ (inOrder fs s).1 := by
    rw [← inOrder_pollAll apart s schedule]
    exact mem_inOrder_of_ready (joins.error returned) _
  exact ⟨member, inSequence_fails_of_mem member⟩

/-- However they were polled so far, they can be polled until they return. -/
theorem Joins.exists_returned (joins : Joins join) (schedule : List Nat)
    (fs : List (Future σ (Except ε α))) (s : σ) :
    ∃ more, join (schedule ++ more) fs s ≠ none := by
  obtain ⟨more, rest⟩ := exists_pollAll_inOrder (pollAll schedule fs s).1 (pollAll schedule fs s).2
  have all : (pollAll (schedule ++ more) fs s).1 =
      (inOrder (pollAll schedule fs s).1 (pollAll schedule fs s).2).1.map ready := by
    rw [pollAll_append, rest]
  exact ⟨more, joins.returned all⟩

end Fallible

end Future

end Rabia.Lib
