import Rabia.Kvstore.Calls

/-!
# The key-value state machine

`examples/kvstore_smr/src/smr_impl.rs`: the store as a state machine that is replicated.
The store that it wraps is the one of `rabia-kvstore`.
-/

namespace Rabia

open Rabia.Lib

/-- `to_string` of an error. -/
def StoreError.message : StoreError → String
  | .invalidKey reason => s!"Invalid key: {reason}"
  | .valueTooLarge => "Value too large"
  | .storeFull => "Store is full"
  | .invalidSnapshot => "Invalid snapshot"

structure KVStoreState where
  data : Table String ValueEntry
  version : Nat
deriving DecidableEq

namespace KVStoreSMR

open KVStore

/-- What `apply_command` makes of the outcome of a method of the store. -/
def respond {α : Type} (ok : α → KVResult)
    (outcome : Outcome StoreError KVStore ChangeNotification α) : KVResult × KVStore :=
  match outcome.result with
  | .ok result => (ok result, outcome.state)
  | .error e => (.error e.message, outcome.state)

/-- `apply_command`. -/
def applyCommand (clock : Clock) (command : KVOperation) (s : KVStore) : KVResult × KVStore :=
  match command with
  | .set key value => respond (fun result => result) (set clock key value s)
  | .get key => respond (fun value => if value.isSome then .success else .notFound) (get key s)
  | .delete key => respond (fun result => result) (delete clock key s)
  | .exists key => respond (fun found => if found then .success else .notFound) (keyExists key s)

/-- `get_state`. -/
def getState (s : KVStore) : KVStoreState := ⟨s.data, s.version⟩

theorem respond_makes {α : Type} {method : Method α} {clock : Clock} {call : Call}
    {result : KVStore → α} (makes : Makes method clock call result) (ok : α → KVResult)
    (s : KVStore) :
    respond ok (method s) =
      match s.admits call with
      | .ok () => (ok (result s), s.after clock (s.change call))
      | .error e => (.error e.message, s) := by
  cases admitted : s.admits call with
  | ok _ =>
      rw [makes.ok admitted]
      rfl
  | error e =>
      rw [makes.error admitted]
      rfl

/-- A command makes the call of its operation. -/
theorem applyCommand_eq (clock : Clock) (command : KVOperation) (s : KVStore) :
    applyCommand clock command s =
      match s.admits (callOf command) with
      | .ok () =>
        ((s.reply (callOf command)).outcome, s.after clock (s.change (callOf command)))
      | .error e => (.error e.message, s) := by
  cases command with
  | set key value => exact respond_makes (set_makes clock key value) _ s
  | delete key => exact respond_makes (delete_makes clock key) _ s
  | get key =>
      have makes : Makes (get key) clock (.get key) _ :=
        lookup_makes clock _ (fun _ => rfl) fun _ => rfl
      exact respond_makes makes _ s
  | «exists» key =>
      have makes : Makes (keyExists key) clock (.keyExists key) _ :=
        lookup_makes clock _ (fun _ => rfl) fun _ => rfl
      exact respond_makes makes _ s

end KVStoreSMR

end Rabia
