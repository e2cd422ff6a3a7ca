import Mathlib.Tactic.Common

/-!
# Change notifications

`rabia-kvstore/src/notifications.rs`: what a store tells its subscribers.
-/

namespace Rabia

/-- Types of changes that can occur in the store. -/
inductive ChangeType where
  | created
  | updated
  | deleted
  | cleared
deriving DecidableEq, Repr

/-- Notification about a change in the store. -/
structure ChangeNotification where
  key : String
  changeType : ChangeType
  oldValue : Option String
  newValue : Option String
  version : Nat
  timestamp : Nat
deriving DecidableEq, Repr

end Rabia
