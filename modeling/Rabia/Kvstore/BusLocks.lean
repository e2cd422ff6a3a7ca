import Rabia.Lib.Locks

/-!
# The locks of the notification bus

`rabia-kvstore/src/notifications.rs`: the methods of the bus as the steps that they
make on its two reader-writer locks. A guard that is bound to a name is dropped at
the end of its block, later guards first.

`get_stats` takes `subscribers` while it holds `stats`; the other methods that hold
one lock while they take the other do so the other way round.
-/

namespace Rabia

open Rabia.Lib

/-- The locks of a `NotificationBus`. -/
inductive BusLock where
  | stats
  | subscribers
deriving DecidableEq

/-- The methods of the bus, with the outcome of the tests on which their locking depends. -/
inductive BusMethod where
  | subscribe
  /-- `removed`: `subscribers.remove(..)` finds the id. -/
  | unsubscribe (removed : Bool)
  /-- `dropped`: the loop counts a closed channel. -/
  | publish (dropped : Bool)
  | getStats
  | cleanupClosedSubscribers
deriving DecidableEq

/-- The steps of a method on the locks. -/
def BusMethod.steps : BusMethod → List (LockStep BusLock)
  | .subscribe =>
    [.acquire .subscribers .exclusive, .release .subscribers,
      .acquire .stats .exclusive, .release .stats]
  | .unsubscribe true =>
    [.acquire .subscribers .exclusive, .acquire .stats .exclusive,
      .release .stats, .release .subscribers]
  | .unsubscribe false => [.acquire .subscribers .exclusive, .release .subscribers]
  | .publish true =>
    [.acquire .stats .exclusive, .release .stats,
      .acquire .subscribers .shared, .acquire .stats .exclusive,
      .release .stats, .release .subscribers]
  | .publish false =>
    [.acquire .stats .exclusive, .release .stats,
      .acquire .subscribers .shared, .release .subscribers]
  | .getStats =>
    [.acquire .stats .shared, .acquire .subscribers .shared,
      .release .subscribers, .release .stats]
  | .cleanupClosedSubscribers => [.acquire .subscribers .exclusive, .release .subscribers]

/-- Only `get_stats` and an `unsubscribe` that removes its id nest the locks in opposite
orders. The nesting of `publish` is no danger to `get_stats`, since both share
`subscribers`. So it is in the model, where a reader waits only for a lock that is held
exclusively: the `read` of `parking_lot` waits behind a queued writer as well, and there a
`publish` that counts a drop, a `get_stats` and a writer queued for `subscribers` can wait
in a ring. -/
theorem BusMethod.opposed {a b : BusMethod} (opposed : Opposed a.steps b.steps) :
    (a = .getStats ∧ b = .unsubscribe true) ∨ (a = .unsubscribe true ∧ b = .getStats) := by
  rcases a with _ | (_ | _) | (_ | _) | _ | _ <;>
    rcases b with _ | (_ | _) | (_ | _) | _ | _ <;>
      revert opposed <;> decide

/-- Beside an `unsubscribe` that removes its id, `get_stats` can come to wait for it while
it waits for `get_stats`. -/
theorem waits_beside {ι : Type*} [DecidableEq ι] {calls : ι → BusMethod} {i j : ι}
    (stats : calls i = .getStats) (unsubscribe : calls j = .unsubscribe true) :
    ∃ s, LockReachable (fun i => (calls i).steps) s ∧ MutualWait s := by
  have distinct : i ≠ j := by
    rintro rfl
    rw [stats] at unsubscribe
    cases unsubscribe
  exact mutualWait_of_opposed_starts distinct (a := ((.stats, .shared), (.subscribers, .shared)))
    (b := ((.subscribers, .exclusive), (.stats, .exclusive)))
    (congrArg BusMethod.steps stats) (congrArg BusMethod.steps unsubscribe) (by decide) (by decide)

/-- Any number of calls on a bus, in whatever order they take their steps, never wait for
each other exactly when no `get_stats` runs beside an `unsubscribe` of an id in the
table. -/
theorem never_waits_iff {ι : Type*} [DecidableEq ι] (calls : ι → BusMethod) :
    (∀ s, LockReachable (fun i => (calls i).steps) s → ¬ MutualWait s) ↔
      ¬ ((∃ i, calls i = .getStats) ∧ ∃ j, calls j = .unsubscribe true) := by
  constructor
  · rintro never ⟨⟨i, stats⟩, j, unsubscribe⟩
    obtain ⟨s, reachable, stuck⟩ := waits_beside stats unsubscribe
    exact never s reachable stuck
  · intro apart s reachable stuck
    obtain ⟨i, j, -, opposed⟩ := opposed_of_mutualWait reachable stuck
    rcases BusMethod.opposed opposed with ⟨stats, unsubscribe⟩ | ⟨unsubscribe, stats⟩
    · exact apart ⟨⟨i, stats⟩, j, unsubscribe⟩
    · exact apart ⟨⟨j, stats⟩, i, unsubscribe⟩

/-- Two calls suffice. -/
theorem bus_deadlocks :
    ¬ ∀ (calls : Bool → BusMethod) (s : Bool → LockThread BusLock),
      LockReachable (fun i => (calls i).steps) s → ¬ MutualWait s := by
  intro never
  let calls : Bool → BusMethod := fun i => if i then .getStats else .unsubscribe true
  have stats : calls true = .getStats := rfl
  have unsubscribe : calls false = .unsubscribe true := rfl
  obtain ⟨s, reachable, stuck⟩ := waits_beside stats unsubscribe
  exact never calls s reachable stuck

end Rabia
