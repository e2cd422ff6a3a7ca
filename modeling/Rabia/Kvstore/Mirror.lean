import Rabia.Kvstore.Snapshot
import Rabia.Lib.Runs

/-!
# Notifications mirror the store

A subscriber that applies every notification to a map of its own. `Mirrors` is what
every method does to such a `Replica`: the notifications, applied in order, take it
from what the store shows before to what the store shows after, each names the value
that the replica holds when it arrives, and each carries the next version. It is a
`Path`, so it holds of sessions of any length as soon as it holds of single calls
(`session_mirrors`).
-/

namespace Rabia

open Rabia.Lib

/-- Apply a notification to a map: `Created` and `Updated` insert the new value,
`Deleted` removes the key, `Cleared` empties the map. -/
def ChangeNotification.applyTo (view : String → Option String) (n : ChangeNotification) :
    String → Option String :=
  match n.changeType, n.newValue with
  | .created, some value | .updated, some value => Function.update view n.key (some value)
  | .created, none | .updated, none => view
  | .deleted, _ => Function.update view n.key none
  | .cleared, _ => fun _ => none

/-- What a subscriber holds: a copy of the map and the version that it expects next. -/
structure Replica where
  view : String → Option String
  next : Nat

namespace Replica

/-- Take in a notification. -/
def take (r : Replica) (n : ChangeNotification) : Replica :=
  ⟨n.applyTo r.view, (r.next + 1) % u64Size⟩

/-- The notification carries the version expected, and as old value the one held. -/
def Expects (r : Replica) (n : ChangeNotification) : Prop :=
  n.version = r.next ∧ (n.changeType ≠ .cleared → n.oldValue = r.view n.key)

theorem view_run (r : Replica) (w : List ChangeNotification) :
    (run take r w).view = w.foldl ChangeNotification.applyTo r.view := by
  induction w generalizing r with
  | nil => rfl
  | cons n w ih => exact ih (r.take n)

/-- Versions increase while the counter does not pass the last `u64`. -/
theorem versions_increase {r : Replica} {w : List ChangeNotification}
    (expected : Along take Expects r w) (room : r.next + w.length ≤ u64Size) :
    (w.map ChangeNotification.version).Pairwise (· < ·) ∧ ∀ n ∈ w, r.next ≤ n.version := by
  induction w generalizing r with
  | nil => simp
  | cons n w ih =>
      obtain ⟨⟨version, -⟩, later⟩ := expected
      rw [List.length_cons] at room
      -- the last notification may use up the counter
      cases w with
      | nil => simp [version]
      | cons n' w =>
          have step : (r.take n).next = r.next + 1 := by
            rw [List.length_cons] at room
            exact Nat.mod_eq_of_lt (by omega)
          obtain ⟨increasing, above⟩ := ih later (by omega)
          rw [step] at above
          refine ⟨List.pairwise_cons.mpr ⟨?_, increasing⟩, ?_⟩
          · intro v member
            obtain ⟨m, published, rfl⟩ := List.mem_map.mp member
            have next := above m published
            omega
          · intro m member
            rcases List.mem_cons.mp member with rfl | member
            · omega
            · have next := above m member
              omega

end Replica

namespace KVStore

/-- The key to value map. -/
def view (s : KVStore) (key : String) : Option String :=
  (s.data.lookup key).map ValueEntry.value

/-- The replica of a subscriber that has seen everything. -/
def replica (s : KVStore) : Replica := ⟨s.view, s.version⟩

/-- With notifications on, what was published takes the replica of the store before to
that of the store after. -/
def Mirrors (s : KVStore) (w : List ChangeNotification) (s' : KVStore) : Prop :=
  s'.config = s.config ∧
    (s.config.enableNotifications →
      run Replica.take s.replica w = s'.replica ∧
        Along Replica.take Replica.Expects s.replica w)

theorem mirrors_path : Proc.Path Mirrors where
  nil s := ⟨rfl, fun _ => ⟨rfl, trivial⟩⟩
  append := by
    rintro s s' s'' w w' ⟨config, mirrors⟩ ⟨config', mirrors'⟩
    refine ⟨config'.trans config, fun on => ?_⟩
    obtain ⟨first, expected⟩ := mirrors on
    obtain ⟨second, expected'⟩ := mirrors' (config ▸ on)
    rw [run_append, first, along_append, first]
    exact ⟨second, expected, expected'⟩

/-! ## Single calls -/

/-- A change does to the view what its notification says. -/
theorem view_after (clock : Clock) (s : KVStore) (call : Call) (version timestamp : Nat) :
    (s.after clock (s.change call)).view =
      (s.change call).elim s.view fun c =>
        (c.notification version timestamp).applyTo s.view := by
  funext k
  unfold view
  cases call with
  | set key value =>
      rw [data_after_set, Table.lookup_insert]
      cases found : s.data.lookup key <;>
        by_cases same : k = key <;>
          simp [change, found, same, entrySet, ValueEntry.update, ValueEntry.new,
            Change.notification, ChangeNotification.applyTo]
  | delete key =>
      rw [data_after_delete, Table.lookup_erase]
      cases found : s.data.lookup key <;>
        by_cases same : k = key <;>
          simp [change, found, same, Change.notification, ChangeNotification.applyTo]
  | clear =>
      rw [data_after_clear]
      by_cases filled : s.size > 0
      · simp [change, filled, Change.notification, ChangeNotification.applyTo]
      · have bare := Table.size_eq_zero.mp (Nat.eq_zero_of_not_pos filled)
        simp [change, filled, bare]
  | get key | getWithMetadata key | keyExists key | keys order keyPrefix => rfl

/-- A change names the value that was there. -/
theorem oldValue_of_change {s : KVStore} {call : Call} {c : Change} (h : s.change call = some c)
    (version timestamp : Nat) :
    (c.notification version timestamp).changeType ≠ .cleared →
      (c.notification version timestamp).oldValue =
        s.view (c.notification version timestamp).key := by
  intro single
  unfold view
  cases call with
  | set key value =>
      cases found : s.data.lookup key <;> simp [change, found] at h <;> subst h <;>
        simp [Change.notification, found]
  | delete key =>
      cases found : s.data.lookup key <;> simp [change, found] at h
      subst h
      simp [Change.notification, found]
  | clear =>
      simp [change] at h
      obtain ⟨-, rfl⟩ := h
      exact absurd rfl single
  | get key | getWithMetadata key | keyExists key | keys order keyPrefix => cases h

/-- What an accepted call publishes mirrors what it does. -/
theorem mirrors_after (clock : Clock) (s : KVStore) (call : Call) :
    Mirrors s (s.news clock (s.change call)) (s.after clock (s.change call)) := by
  refine ⟨rfl, fun on => ?_⟩
  have shown := view_after clock s call s.version clock.notice
  cases made : s.change call with
  | none =>
      rw [news_none, after_none]
      exact ⟨rfl, trivial⟩
  | some c =>
      rw [made] at shown
      have told : s.news clock (some c) = [c.notification s.version clock.notice] := by
        simp [news, on]
      have counted : (s.after clock (some c)).version = (s.version + 1) % u64Size := by
        simp [after, on]
      rw [told]
      refine ⟨?_, ⟨?_, oldValue_of_change made s.version clock.notice⟩, trivial⟩
      · show Replica.take s.replica _ = _
        simp only [Replica.take, replica, counted, shown]
        rfl
      · cases c <;> rfl

theorem Makes.mirrors {α : Type} {method : Method α} {clock : Clock} {call : Call}
    {result : KVStore → α} (makes : Makes method clock call result) :
    Proc.Within Mirrors method := by
  intro s
  cases verdict : s.admits call with
  | ok _ =>
      rw [makes.ok verdict]
      exact mirrors_after clock s call
  | error err =>
      rw [makes.error verdict]
      exact mirrors_path.nil s

/-! ## Sessions -/

/-- A request to the store. -/
inductive Request where
  | call (clock : Clock) (call : Call)
  | batch (operations : List (Clock × KVOperation))

/-- Serve a request, whatever comes of it. -/
def serveRequest : Request → Method Unit
  | .call clock call => do
    let _ ← Proc.attempt (perform clock call)
  | .batch operations => do
    let _ ← Proc.attempt (applyBatch operations)

/-- Serve one request after another. -/
def session (requests : List Request) : Method Unit := requests.forM serveRequest

section Paths

variable {R : KVStore → List ChangeNotification → KVStore → Prop}

/-- What every method that makes a call stays within, a batch does. -/
theorem applyBatch_within (path : Proc.Path R)
    (makes_within : ∀ {α : Type} {method : Method α} {clock : Clock} {call : Call}
      {result : KVStore → α}, Makes method clock call result → Proc.Within R method)
    (operations : List (Clock × KVOperation)) : Proc.Within R (applyBatch operations) := by
  induction operations with
  | nil => exact Proc.Within.pure path []
  | cons first operations ih =>
      have round := makes_within (applyOperation_makes first.1 first.2)
      refine Proc.Within.bind path round fun result => ?_
      exact Proc.Within.bind path ih fun results => Proc.Within.pure path _

/-- And so does every request. -/
theorem serveRequest_within (path : Proc.Path R)
    (makes_within : ∀ {α : Type} {method : Method α} {clock : Clock} {call : Call}
      {result : KVStore → α}, Makes method clock call result → Proc.Within R method)
    (request : Request) : Proc.Within R (serveRequest request) := by
  cases request with
  | call clock call =>
      exact Proc.Within.bind path (Proc.Within.attempt (makes_within (perform_makes clock call)))
        fun _ => Proc.Within.pure path ()
  | batch operations =>
      have batch := applyBatch_within path makes_within operations
      exact Proc.Within.bind path (Proc.Within.attempt batch) fun _ => Proc.Within.pure path ()

end Paths

theorem session_mirrors (requests : List Request) : Proc.Within Mirrors (session requests) :=
  Proc.Within.forM mirrors_path requests
    (serveRequest_within mirrors_path fun makes => makes.mirrors)

/-! ## Silence -/

/-- A call that fails or has nothing to tell publishes nothing. -/
theorem Makes.silent {α : Type} {method : Method α} {clock : Clock} {call : Call}
    {result : KVStore → α} (makes : Makes method clock call result) {s : KVStore}
    (silent : s.NothingToTell call ∨ ∃ err, (method s).result = .error err) :
    (method s).effects = [] := by
  cases verdict : s.admits call with
  | error err => rw [makes.error verdict]
  | ok _ =>
      rw [makes.ok verdict] at silent ⊢
      rcases silent with nothing | ⟨err, failed⟩
      · rw [change_eq_none_iff.mpr nothing]
        exact news_none clock s
      · cases failed

/-- With notifications on, whatever the store holds and whatever is asked of it: what is
published, applied in order to the map before, makes the map after; every notification
names the value that it replaces and carries the next version, so that versions increase
while the counter does not pass the last `u64`; and a call that reads, deletes an absent
key, clears an empty store or fails publishes nothing, alone or in a batch. -/
theorem notifications_mirror (s : KVStore) (on : s.config.enableNotifications)
    (requests : List Request) :
    (session requests s).effects.foldl ChangeNotification.applyTo s.view =
        (session requests s).state.view ∧
      Along Replica.take Replica.Expects s.replica (session requests s).effects ∧
      (s.version + (session requests s).effects.length ≤ u64Size →
        ((session requests s).effects.map ChangeNotification.version).Pairwise (· < ·)) ∧
      (∀ (t : KVStore) (clock : Clock) (call : Call),
        (t.NothingToTell call ∨ ∃ err, (perform clock call t).result = .error err) →
          (perform clock call t).effects = []) ∧
      ∀ (t : KVStore) (clock : Clock) (operation : KVOperation),
        (t.NothingToTell (callOf operation) ∨
            ∃ err, (applyOperation clock operation t).result = .error err) →
          (applyOperation clock operation t).effects = [] := by
  obtain ⟨reached, expected⟩ := (session_mirrors requests s).2 on
  refine ⟨?_, expected, ?_, ?_, ?_⟩
  · have shown := Replica.view_run s.replica (session requests s).effects
    rw [reached] at shown
    exact shown.symm
  · intro room
    exact (Replica.versions_increase expected room).1
  · intro t clock call silent
    exact (perform_makes clock call).silent silent
  · intro t clock operation silent
    exact (applyOperation_makes clock operation).silent silent

/-- A key that is created, updated and deleted. -/
theorem notifications_mirror_one_key :
    let requests := [Request.call ⟨1, 1⟩ (.set "a" "1"), .call ⟨2, 2⟩ (.set "a" "2"),
      .call ⟨3, 3⟩ (.delete "a")]
    (session requests (new .default)).effects.map ChangeNotification.oldValue =
        [none, some "1", some "2"] ∧
      (session requests (new .default)).effects.foldl ChangeNotification.applyTo
          (new .default).view = (session requests (new .default)).state.view :=
  ⟨rfl, (notifications_mirror (new .default) rfl _).1⟩

/-- A store that was restored to the last version numbers its notifications from there,
and goes on with zero. -/
theorem versions_wrap :
    let restored := (restoreSnapshot polynomialHasher [] ⟨∅, u64Size - 1, 0, 7⟩
      (new .default)).state
    let requests := [Request.call ⟨1, 1⟩ (.set "a" "1"), .call ⟨2, 2⟩ (.set "b" "2")]
    restored.config.enableNotifications = true ∧
      ¬ ((session requests restored).effects.map ChangeNotification.version).Pairwise (· < ·) := by
  decide

end KVStore

end Rabia
