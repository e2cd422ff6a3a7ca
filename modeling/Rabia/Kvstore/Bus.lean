import Rabia.Core.Types
import Rabia.Kvstore.Notifications
import Rabia.Lib.Table

/-!
# The notification bus

`rabia-kvstore/src/notifications.rs`: the bus keeps a table of subscribers, each a
filter and the sending end of an unbounded channel, and hands every notification to
those whose filter matches. The receiving ends belong to the subscribers, who may
drop them at any time.
-/

namespace Rabia

open Rabia.Lib

/-- Unique identifier for a subscription. -/
structure SubscriptionId where
  uuid : Nat
deriving DecidableEq, Repr

theorem SubscriptionId.uuid_injective : Function.Injective SubscriptionId.uuid := by
  rintro ⟨a⟩ ⟨b⟩ h
  exact congrArg SubscriptionId.mk h

instance : LinearOrder SubscriptionId :=
  LinearOrder.lift' SubscriptionId.uuid SubscriptionId.uuid_injective

/-- Filter for notifications. -/
inductive NotificationFilter where
  | all
  | key (key : String)
  | keyPrefix (keyPrefix : String)
  | changeType (changeType : ChangeType)
  | and (filters : List NotificationFilter)
  | or (filters : List NotificationFilter)

mutual

/-- `matches`. -/
def NotificationFilter.matches (notification : ChangeNotification) : NotificationFilter → Bool
  | .all => true
  | .key wanted => notification.key = wanted
  | .keyPrefix wanted => wanted.toList.isPrefixOf notification.key.toList
  | .changeType wanted => notification.changeType = wanted
  | .and filters => NotificationFilter.allMatch notification filters
  | .or filters => NotificationFilter.anyMatches notification filters

/-- `filters.iter().all(..)`. -/
def NotificationFilter.allMatch (notification : ChangeNotification) :
    List NotificationFilter → Bool
  | [] => true
  | filter :: filters =>
    NotificationFilter.matches notification filter && allMatch notification filters

/-- `filters.iter().any(..)`. -/
def NotificationFilter.anyMatches (notification : ChangeNotification) :
    List NotificationFilter → Bool
  | [] => false
  | filter :: filters =>
    NotificationFilter.matches notification filter || anyMatches notification filters

end

/-- An unbounded channel: all that was sent over it, and whether its receiver is alive. -/
structure Channel where
  received : List ChangeNotification
  isOpen : Bool
deriving DecidableEq

def Channel.push (notification : ChangeNotification) (channel : Channel) : Channel :=
  { channel with received := channel.received ++ [notification] }

/-- `send` on the sending end fails when the receiver is gone. -/
def Channel.send (notification : ChangeNotification) (channel : Channel) : Option Channel :=
  if channel.isOpen then some (channel.push notification) else none

structure NotificationStats where
  totalNotificationsSent : Nat := 0
  totalSubscribers : Nat := 0
  droppedNotifications : Nat := 0
deriving DecidableEq

/-- The bus. A sender is the number of its channel. -/
structure NotificationBus where
  /-- What was handed to the broadcast channel. -/
  broadcast : List ChangeNotification
  subscribers : Table SubscriptionId (NotificationFilter × Nat)
  stats : NotificationStats
  /-- The channels opened so far; their receivers are with the subscribers. -/
  channels : List Channel

namespace NotificationBus

/-- `NotificationBus::new`. -/
def new : NotificationBus := ⟨[], ∅, {}, []⟩

/-- `subscribe`, when `Uuid::new_v4` gives `id`. -/
def subscribe (id : SubscriptionId) (filter : NotificationFilter) (bus : NotificationBus) :
    NotificationBus :=
  { bus with
    channels := bus.channels ++ [⟨[], true⟩]
    subscribers := bus.subscribers.insert id (filter, bus.channels.length)
    stats := { bus.stats with totalSubscribers := bus.stats.totalSubscribers + 1 } }

/-- `unsubscribe`. -/
def unsubscribe (id : SubscriptionId) (bus : NotificationBus) : NotificationBus :=
  if id ∈ bus.subscribers then
    { bus with
      subscribers := bus.subscribers.erase id
      stats := { bus.stats with totalSubscribers := bus.stats.totalSubscribers - 1 } }
  else bus

/-- One round of the loop of `publish`, over the channels and `dropped_count`. -/
def deliver (notification : ChangeNotification) (progress : List Channel × Nat)
    (entry : SubscriptionId × NotificationFilter × Nat) : List Channel × Nat :=
  let (channels, droppedCount) := progress
  let (filter, sender) := entry.2
  if filter.matches notification then
    match channels[sender]?.bind (Channel.send notification) with
    | some channel => (channels.set sender channel, droppedCount)
    | none => (channels, droppedCount + 1)
  else (channels, droppedCount)

/-- `publish`, when the table of subscribers is walked in the order of `order`. -/
def publish (order : List SubscriptionId) (notification : ChangeNotification)
    (bus : NotificationBus) : NotificationBus :=
  let sent := (bus.stats.totalNotificationsSent + 1) % u64Size
  let (channels, droppedCount) :=
    (Table.walk order bus.subscribers).foldl (deliver notification) (bus.channels, 0)
  let dropped :=
    if droppedCount > 0 then (bus.stats.droppedNotifications + droppedCount) % u64Size
    else bus.stats.droppedNotifications
  { bus with
    broadcast := bus.broadcast ++ [notification]
    channels := channels
    stats := { bus.stats with totalNotificationsSent := sent, droppedNotifications := dropped } }

/-- `get_stats`. -/
def getStats (bus : NotificationBus) : NotificationStats where
  totalNotificationsSent := bus.stats.totalNotificationsSent
  totalSubscribers := bus.subscribers.size
  droppedNotifications := bus.stats.droppedNotifications

/-- `is_closed` of a sender. -/
def isClosed (sender : Nat) (bus : NotificationBus) : Bool :=
  !(bus.channels[sender]?.any Channel.isOpen)

/-- `cleanup_closed_subscribers`. -/
def cleanupClosedSubscribers (bus : NotificationBus) : NotificationBus :=
  { bus with
    subscribers := Table.retain (fun _ entry => !bus.isClosed entry.2) bus.subscribers }

/-- A subscriber drops its receiver. -/
def dropReceiver (sender : Nat) (bus : NotificationBus) : NotificationBus :=
  { bus with
    channels := bus.channels.modify sender fun channel => { channel with isOpen := false } }

end NotificationBus

/-- What can happen to a bus. -/
inductive BusCall where
  | subscribe (id : SubscriptionId) (filter : NotificationFilter)
  | unsubscribe (id : SubscriptionId)
  | publish (order : List SubscriptionId) (notification : ChangeNotification)
  | dropReceiver (sender : Nat)
  | cleanupClosedSubscribers

/-- The bus after a call. -/
def NotificationBus.step (bus : NotificationBus) : BusCall → NotificationBus
  | .subscribe id filter => bus.subscribe id filter
  | .unsubscribe id => bus.unsubscribe id
  | .publish order notification => bus.publish order notification
  | .dropReceiver sender => bus.dropReceiver sender
  | .cleanupClosedSubscribers => bus.cleanupClosedSubscribers

/-! ## The loop of a publication -/

section Deliver

variable (notification : ChangeNotification) (channels : List Channel) (dropped : Nat)

/-- A round sends over an open channel, or counts a loss, when the filter matches. -/
theorem deliver_eq (entry : SubscriptionId × NotificationFilter × Nat) :
    NotificationBus.deliver notification (channels, dropped) entry =
      if entry.2.1.matches notification then
        if channels[entry.2.2]?.any Channel.isOpen then
          (channels.modify entry.2.2 (Channel.push notification), dropped)
        else (channels, dropped + 1)
      else (channels, dropped) := by
  obtain ⟨id, filter, sender⟩ := entry
  unfold NotificationBus.deliver
  cases found : channels[sender]? with
  | none => simp only [found, Option.bind_none, Option.any_none, Bool.false_eq_true, if_false]
  | some channel =>
      obtain ⟨inside, rfl⟩ := List.getElem?_eq_some_iff.mp found
      have written : channels.set sender (channels[sender].push notification) =
          channels.modify sender (Channel.push notification) := by
        apply List.ext_getElem?
        intro c
        by_cases same : sender = c
        · subst same
          simp [inside]
        · simp [same]
      cases alive : channels[sender].isOpen <;> simp [found, Channel.send, alive, written]

theorem getElem?_deliver (entry : SubscriptionId × NotificationFilter × Nat) (c : Nat) :
    (NotificationBus.deliver notification (channels, dropped) entry).1[c]? =
      channels[c]?.map fun channel =>
        if (entry.2.2 = c && entry.2.1.matches notification) && channel.isOpen then
          channel.push notification
        else channel := by
  rw [deliver_eq]
  by_cases same : entry.2.2 = c
  · rw [same]
    cases found : channels[c]? with
    | none => cases entry.2.1.matches notification <;> simpa using found
    | some channel =>
        cases entry.2.1.matches notification <;> cases alive : channel.isOpen <;>
          simp [found, alive]
  · cases entry.2.1.matches notification <;> cases channels[entry.2.2]?.any Channel.isOpen <;>
      simp [same]

theorem deliver_snd (entry : SubscriptionId × NotificationFilter × Nat) :
    (NotificationBus.deliver notification (channels, dropped) entry).2 =
      dropped + if entry.2.1.matches notification && !channels[entry.2.2]?.any Channel.isOpen
        then 1 else 0 := by
  rw [deliver_eq]
  cases entry.2.1.matches notification <;> cases channels[entry.2.2]?.any Channel.isOpen <;> rfl

theorem any_isOpen_deliver (entry : SubscriptionId × NotificationFilter × Nat) (c : Nat) :
    (NotificationBus.deliver notification (channels, dropped) entry).1[c]?.any Channel.isOpen =
      channels[c]?.any Channel.isOpen := by
  rw [getElem?_deliver, Option.any_map]
  congr 1
  funext channel
  show Channel.isOpen (if _ then _ else _) = channel.isOpen
  split <;> rfl

end Deliver

/-- The loop sends to every channel whose entry wants the notification, and counts those of
the entries that want it in vain. -/
theorem deliver_all (notification : ChangeNotification)
    (entries : List (SubscriptionId × NotificationFilter × Nat))
    (distinct : (entries.map fun entry => entry.2.2).Nodup) (channels : List Channel)
    (dropped : Nat) :
    (∀ c : Nat, (entries.foldl (NotificationBus.deliver notification) (channels, dropped)).1[c]? =
      channels[c]?.map fun channel =>
        if (entries.any fun entry => entry.2.2 = c && entry.2.1.matches notification) &&
            channel.isOpen then
          channel.push notification
        else channel) ∧
    (entries.foldl (NotificationBus.deliver notification) (channels, dropped)).2 =
      dropped + entries.countP fun entry =>
        entry.2.1.matches notification && !channels[entry.2.2]?.any Channel.isOpen := by
  induction entries generalizing channels dropped with
  | nil => exact ⟨fun c => by simp, rfl⟩
  | cons entry entries ih =>
      rw [List.map_cons, List.nodup_cons] at distinct
      obtain ⟨later, counted⟩ := ih distinct.2
        (NotificationBus.deliver notification (channels, dropped) entry).1
        (NotificationBus.deliver notification (channels, dropped) entry).2
      refine ⟨fun c => ?_, ?_⟩
      · rw [List.foldl_cons, later c, getElem?_deliver, Option.map_map]
        congr 1
        funext channel
        rw [List.any_cons, Function.comp_apply]
        by_cases here : entry.2.2 = c
        · -- no later entry has this channel
          have others : (entries.any fun entry =>
              entry.2.2 = c && entry.2.1.matches notification) = false := by
            rw [List.any_eq_false]
            rintro entry' member both
            have same : entry'.2.2 = c := by simpa using (Bool.and_eq_true_iff.mp both).1
            exact distinct.1 (List.mem_map.mpr ⟨entry', member, same.trans here.symm⟩)
          simp [here, others]
        · rw [decide_eq_false here, Bool.false_and, Bool.false_and, if_neg Bool.false_ne_true,
            Bool.false_or]
      · rw [List.foldl_cons, counted, deliver_snd, List.countP_cons]
        simp only [any_isOpen_deliver]
        omega

end Rabia
