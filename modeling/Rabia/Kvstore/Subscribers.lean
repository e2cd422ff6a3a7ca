import Rabia.Kvstore.Bus
import Rabia.Lib.Conservation

/-!
# What the subscribers receive

Over the table of a bus stands the roster: all subscribers that there ever were, in
the order in which they came, each with what became of it. `Represents` connects the
two, and since a call changes the members of the roster one by one
(`Subscriber.after`), what a subscriber receives is read off its own history
(`served`).
-/

namespace Rabia

open Rabia.Lib

/-! ## The roster -/

/-- A subscriber and what became of it. -/
structure Subscriber where
  id : SubscriptionId
  filter : NotificationFilter
  registered : Bool
  channel : Channel

namespace Subscriber

/-- What a call does to the subscriber whose channel has the number `sender`. -/
def after (sender : Nat) (s : Subscriber) : BusCall → Subscriber
  | .subscribe _ _ => s
  | .unsubscribe id => if id = s.id then { s with registered := false } else s
  | .publish _ notification =>
    if s.registered && s.filter.matches notification && s.channel.isOpen then
      { s with channel := s.channel.push notification }
    else s
  | .dropReceiver sender' =>
    if sender' = sender then { s with channel := { s.channel with isOpen := false } } else s
  | .cleanupClosedSubscribers => if s.channel.isOpen then s else { s with registered := false }

/-- The notification is lost on the subscriber: it is still registered, and its receiver
is gone. -/
def Misses (notification : ChangeNotification) (s : Subscriber) : Bool :=
  s.registered && s.filter.matches notification && !s.channel.isOpen

end Subscriber

/-- The subscriber that a call brings in. -/
def BusCall.newcomer : BusCall → Option Subscriber
  | .subscribe id filter => some ⟨id, filter, true, ⟨[], true⟩⟩
  | _ => none

/-- The roster after a call. -/
def rosterStep (roster : List Subscriber) (call : BusCall) : List Subscriber :=
  roster.mapIdx (fun sender s => s.after sender call) ++ call.newcomer.toList

/-- What a publication loses on closed subscribers: itself, with each of them. -/
def missed (roster : List Subscriber) : BusCall → List (ChangeNotification × SubscriptionId)
  | .publish _ notification =>
    (roster.filter (Subscriber.Misses notification)).map fun s => (notification, s.id)
  | _ => []

/-- What a call publishes. -/
def BusCall.published : BusCall → List ChangeNotification
  | .publish _ notification => [notification]
  | _ => []

/-- The bus shows the members of the roster: each has its channel, and the registered ones
are those in the table. -/
structure Represents (bus : NotificationBus) (roster : List Subscriber) : Prop where
  channels : bus.channels = roster.map Subscriber.channel
  subscribers : ∀ id filter sender, bus.subscribers.lookup id = some (filter, sender) ↔
    ∃ s, roster[sender]? = some s ∧ s.id = id ∧ s.filter = filter ∧ s.registered = true
  distinct : (roster.map Subscriber.id).Nodup

/-! ## The bus shows the roster -/

@[simp] theorem Subscriber.after_id (sender : Nat) (s : Subscriber) (call : BusCall) :
    (s.after sender call).id = s.id := by
  cases call <;> simp only [Subscriber.after] <;> (try split) <;> rfl

@[simp] theorem Subscriber.after_filter (sender : Nat) (s : Subscriber) (call : BusCall) :
    (s.after sender call).filter = s.filter := by
  cases call <;> simp only [Subscriber.after] <;> (try split) <;> rfl

theorem map_id_rosterStep (roster : List Subscriber) (call : BusCall) :
    (rosterStep roster call).map Subscriber.id =
      roster.map Subscriber.id ++ (call.newcomer.map Subscriber.id).toList := by
  have kept : (roster.mapIdx fun sender s => s.after sender call).map Subscriber.id =
      roster.map Subscriber.id := by
    apply List.ext_getElem?
    intro c
    rw [List.getElem?_map, List.getElem?_mapIdx, List.getElem?_map]
    cases roster[c]? <;> simp
  unfold rosterStep
  rw [List.map_append, kept]
  cases call.newcomer <;> rfl

theorem getElem?_concat_eq_some {α : Type*} {l : List α} {a b : α} {i : Nat} :
    (l ++ [a])[i]? = some b ↔ l[i]? = some b ∨ i = l.length ∧ a = b := by
  by_cases old : i < l.length
  · rw [List.getElem?_append_left old]
    exact ⟨.inl, fun either => either.resolve_right fun new => absurd new.1 (by omega)⟩
  · rw [List.getElem?_append_right (by omega), List.getElem?_eq_none (by omega : l.length ≤ i),
      List.getElem?_singleton]
    by_cases same : i = l.length
    · simp [same]
    · have above : i - l.length ≠ 0 := by omega
      simp [same, above]

namespace Represents

variable {bus bus' : NotificationBus} {roster : List Subscriber} {call : BusCall}

/-- A call without a newcomer is followed when channels and table change as the members of
the roster do. -/
theorem follow (represents : Represents bus roster) (quiet : call.newcomer = none)
    (channels : ∀ c : Nat, bus'.channels[c]? =
      roster[c]?.map fun s => (s.after c call).channel)
    (subscribers : ∀ id filter sender, bus'.subscribers.lookup id = some (filter, sender) ↔
      ∃ s, roster[sender]? = some s ∧ s.id = id ∧ s.filter = filter ∧
        (s.after sender call).registered = true) :
    Represents bus' (rosterStep roster call) := by
  have members : ∀ c : Nat, (rosterStep roster call)[c]? =
      roster[c]?.map fun s => s.after c call := by
    intro c
    unfold rosterStep
    rw [quiet, Option.toList_none, List.append_nil, List.getElem?_mapIdx]
  refine ⟨?_, ?_, ?_⟩
  · apply List.ext_getElem?
    intro c
    rw [channels c, List.getElem?_map, members c, Option.map_map]
    rfl
  · intro id filter sender
    rw [subscribers id filter sender, members sender]
    cases roster[sender]? with
    | none => simp
    | some s => simp
  · rw [map_id_rosterStep, quiet, Option.map_none, Option.toList_none, List.append_nil]
    exact represents.distinct

theorem unsubscribe (represents : Represents bus roster) (id : SubscriptionId) :
    Represents (bus.unsubscribe id) (rosterStep roster (.unsubscribe id)) := by
  have channels : (bus.unsubscribe id).channels = bus.channels := by
    unfold NotificationBus.unsubscribe
    split <;> rfl
  have lookups : ∀ id', (bus.unsubscribe id).subscribers.lookup id' =
      if id' = id then none else bus.subscribers.lookup id' := by
    intro id'
    unfold NotificationBus.unsubscribe
    by_cases present : id ∈ bus.subscribers
    · rw [if_pos present]
      exact Table.lookup_erase id id' bus.subscribers
    · rw [if_neg present]
      by_cases same : id' = id
      · rw [if_pos same, same]
        exact Finmap.lookup_eq_none.mpr present
      · rw [if_neg same]
  refine represents.follow rfl ?_ ?_
  · intro c
    rw [channels, represents.channels, List.getElem?_map]
    congr 1
    funext s
    simp only [Subscriber.after]
    split <;> rfl
  · intro id' filter sender
    rw [lookups id']
    by_cases same : id' = id
    · subst same
      rw [if_pos rfl]
      constructor
      · intro impossible
        cases impossible
      · rintro ⟨s, -, named, -, registered⟩
        simp [Subscriber.after, named] at registered
    · rw [if_neg same, represents.subscribers]
      refine exists_congr fun s => and_congr_right fun _ => and_congr_right fun named => ?_
      have other : id ≠ s.id := fun equal => same (named.symm.trans equal.symm)
      simp [Subscriber.after, other]

theorem dropReceiver (represents : Represents bus roster) (sender : Nat) :
    Represents (bus.dropReceiver sender) (rosterStep roster (.dropReceiver sender)) := by
  refine represents.follow rfl ?_ ?_
  · intro c
    show (bus.channels.modify sender _)[c]? = _
    rw [List.getElem?_modify, represents.channels, List.getElem?_map]
    by_cases same : sender = c
    · simp only [Subscriber.after, same, if_true]
      cases roster[c]? <;> rfl
    · simp only [Subscriber.after, same, if_false]
      cases roster[c]? <;> rfl
  · intro id filter sender'
    refine (represents.subscribers id filter sender').trans (exists_congr fun s => ?_)
    by_cases same : sender = sender' <;> simp [Subscriber.after, same]

theorem isClosed_eq (represents : Represents bus roster) {sender : Nat} {s : Subscriber}
    (found : roster[sender]? = some s) : bus.isClosed sender = !s.channel.isOpen := by
  unfold NotificationBus.isClosed
  rw [represents.channels, List.getElem?_map, found]
  rfl

theorem cleanup (represents : Represents bus roster) :
    Represents bus.cleanupClosedSubscribers (rosterStep roster .cleanupClosedSubscribers) := by
  refine represents.follow rfl ?_ ?_
  · intro c
    show bus.channels[c]? = _
    rw [represents.channels, List.getElem?_map]
    congr 1
    funext s
    simp only [Subscriber.after]
    split <;> rfl
  · intro id filter sender
    show (Table.retain _ bus.subscribers).lookup id = _ ↔ _
    rw [Table.lookup_retain, Option.filter_eq_some_iff, represents.subscribers]
    constructor
    · rintro ⟨⟨s, found, named, filtered, registered⟩, kept⟩
      rw [represents.isClosed_eq found, Bool.not_not] at kept
      exact ⟨s, found, named, filtered, by simp [Subscriber.after, kept, registered]⟩
    · rintro ⟨s, found, named, filtered, registered⟩
      cases alive : s.channel.isOpen with
      | false => simp [Subscriber.after, alive] at registered
      | true =>
          simp only [Subscriber.after, alive, if_true] at registered
          refine ⟨⟨s, found, named, filtered, registered⟩, ?_⟩
          rw [represents.isClosed_eq found, alive]
          rfl

theorem subscribe (represents : Represents bus roster) {id : SubscriptionId}
    (fresh : id ∉ roster.map Subscriber.id) (filter : NotificationFilter) :
    Represents (bus.subscribe id filter) (rosterStep roster (.subscribe id filter)) := by
  have grown : rosterStep roster (.subscribe id filter) =
      roster ++ [⟨id, filter, true, ⟨[], true⟩⟩] := by
    have same : roster.mapIdx (fun sender s => s.after sender (.subscribe id filter)) = roster := by
      apply List.ext_getElem?
      intro c
      rw [List.getElem?_mapIdx]
      exact Option.map_id'
    exact congrArg (· ++ _) same
  have length : bus.channels.length = roster.length := by
    rw [represents.channels, List.length_map]
  rw [grown]
  refine ⟨?_, ?_, ?_⟩
  · show bus.channels ++ _ = _
    rw [represents.channels, List.map_append]
    rfl
  · intro id' filter' sender
    show (bus.subscribers.insert id (filter, bus.channels.length)).lookup id' = _ ↔ _
    rw [Table.lookup_insert, length]
    simp only [getElem?_concat_eq_some]
    by_cases same : id' = id
    · subst same
      rw [if_pos rfl]
      constructor
      · intro found
        cases found
        exact ⟨_, .inr ⟨rfl, rfl⟩, rfl, rfl, rfl⟩
      · rintro ⟨s, old | ⟨rfl, rfl⟩, named, rfl, -⟩
        · have member := List.mem_map_of_mem (f := Subscriber.id) (List.mem_of_getElem? old)
          rw [named] at member
          exact absurd member fresh
        · rfl
    · rw [if_neg same, represents.subscribers]
      refine exists_congr fun s => ⟨fun ⟨found, rest⟩ => ⟨.inl found, rest⟩, ?_⟩
      rintro ⟨found | ⟨-, rfl⟩, named, rest⟩
      · exact ⟨found, named, rest⟩
      · exact absurd named.symm same
  · rw [List.map_append, List.nodup_append']
    refine ⟨represents.distinct, List.nodup_singleton id, ?_⟩
    exact List.disjoint_singleton.mpr fresh

/-! ### Publications -/

theorem mem_walk_iff (represents : Represents bus roster) (order : List SubscriptionId)
    (entry : SubscriptionId × NotificationFilter × Nat) :
    entry ∈ Table.walk order bus.subscribers ↔
      ∃ s, roster[entry.2.2]? = some s ∧ s.id = entry.1 ∧ s.filter = entry.2.1 ∧
        s.registered = true := by
  obtain ⟨id, filter, sender⟩ := entry
  rw [Table.mem_walk, represents.subscribers]

/-- The senders in the table are pairwise distinct. -/
theorem nodup_senders (represents : Represents bus roster) (order : List SubscriptionId) :
    ((Table.walk order bus.subscribers).map fun entry => entry.2.2).Nodup := by
  have ids : ((Table.walk order bus.subscribers).map Prod.fst).Nodup := by
    rw [Table.map_fst_walk]
    exact nodup_iterate order _
  refine List.Nodup.map_on ?_ ids.of_map
  intro entry member entry' member' same
  -- two entries with one sender are entries of one member
  obtain ⟨s, found, named, filtered, -⟩ := (represents.mem_walk_iff order entry).mp member
  obtain ⟨s', found', named', filtered', -⟩ := (represents.mem_walk_iff order entry').mp member'
  rw [same, found'] at found
  cases found
  obtain ⟨id, filter, sender⟩ := entry
  obtain ⟨id', filter', sender'⟩ := entry'
  cases named
  cases named'
  cases filtered
  cases filtered'
  cases same
  rfl

/-- An entry of the table wants a notification for a channel exactly when the member with
that channel is registered and wants it. -/
theorem any_walk (represents : Represents bus roster) (order : List SubscriptionId)
    (notification : ChangeNotification) {c : Nat} {s : Subscriber} (found : roster[c]? = some s) :
    ((Table.walk order bus.subscribers).any fun entry =>
        entry.2.2 = c && entry.2.1.matches notification) =
      (s.registered && s.filter.matches notification) := by
  rw [Bool.eq_iff_iff, List.any_eq_true, Bool.and_eq_true]
  constructor
  · rintro ⟨entry, member, both⟩
    obtain ⟨here, wanted⟩ := Bool.and_eq_true_iff.mp both
    obtain ⟨s', found', -, filtered, registered⟩ := (represents.mem_walk_iff order entry).mp member
    rw [of_decide_eq_true here, found] at found'
    cases found'
    exact ⟨registered, filtered ▸ wanted⟩
  · rintro ⟨registered, wanted⟩
    refine ⟨(s.id, s.filter, c), ?_, by simp [wanted]⟩
    exact (represents.mem_walk_iff order _).mpr ⟨s, found, rfl, rfl, registered⟩

theorem publish (represents : Represents bus roster) (order : List SubscriptionId)
    (notification : ChangeNotification) :
    Represents (bus.publish order notification)
      (rosterStep roster (.publish order notification)) := by
  obtain ⟨sent, -⟩ := deliver_all notification (Table.walk order bus.subscribers)
    (represents.nodup_senders order) bus.channels 0
  refine represents.follow rfl ?_ ?_
  · intro c
    show ((Table.walk order bus.subscribers).foldl _ (bus.channels, 0)).1[c]? = _
    rw [sent c, represents.channels, List.getElem?_map]
    cases found : roster[c]? with
    | none => rfl
    | some s =>
        rw [represents.any_walk order notification found]
        simp only [Option.map_some, Subscriber.after]
        split <;> rfl
  · intro id filter sender
    refine (represents.subscribers id filter sender).trans (exists_congr fun s => ?_)
    have kept : (s.after sender (.publish order notification)).registered = s.registered := by
      simp only [Subscriber.after]
      split <;> rfl
    rw [kept]

/-- The loop of a publication counts the members that miss it. -/
theorem dropped_eq (represents : Represents bus roster) (order : List SubscriptionId)
    (notification : ChangeNotification) :
    ((Table.walk order bus.subscribers).foldl (NotificationBus.deliver notification)
        (bus.channels, 0)).2 = roster.countP (Subscriber.Misses notification) := by
  obtain ⟨-, counted⟩ := deliver_all notification (Table.walk order bus.subscribers)
    (represents.nodup_senders order) bus.channels 0
  rw [counted, Nat.zero_add]
  -- both sides count channel numbers
  let missing := fun c : Nat => roster[c]?.any (Subscriber.Misses notification)
  have entries : (Table.walk order bus.subscribers).countP (fun entry =>
      entry.2.1.matches notification && !bus.channels[entry.2.2]?.any Channel.isOpen) =
      ((Table.walk order bus.subscribers).map fun entry => entry.2.2).countP missing := by
    rw [List.countP_map]
    refine List.countP_congr fun entry member => ?_
    obtain ⟨s, found, -, filtered, registered⟩ := (represents.mem_walk_iff order entry).mp member
    simp [missing, represents.channels, found, filtered, registered, Subscriber.Misses]
  have members : roster.countP (Subscriber.Misses notification) =
      (List.range roster.length).countP missing := by
    have listed : (List.range roster.length).map (fun c => roster[c]?) = roster.map some := by
      apply List.ext_getElem
      · simp
      · intro c inside _
        simp
    have counts := congrArg (List.countP (Option.any (Subscriber.Misses notification))) listed
    rw [List.countP_map, List.countP_map] at counts
    exact counts.symm
  rw [entries, members, List.countP_eq_length_filter, List.countP_eq_length_filter]
  refine List.Perm.length_eq ?_
  refine (List.perm_ext_iff_of_nodup ((represents.nodup_senders order).filter _)
    (List.nodup_range.filter _)).mpr fun c => ?_
  rw [List.mem_filter, List.mem_filter, List.mem_map, List.mem_range]
  refine and_congr_left fun misses => ?_
  constructor
  · rintro ⟨entry, member, rfl⟩
    obtain ⟨s, found, -⟩ := (represents.mem_walk_iff order entry).mp member
    exact (List.getElem?_eq_some_iff.mp found).1
  · intro inside
    have found := List.getElem?_eq_getElem inside
    simp only [missing, found, Option.any_some, Subscriber.Misses, Bool.and_eq_true] at misses
    refine ⟨(roster[c].id, roster[c].filter, c), ?_, rfl⟩
    exact (represents.mem_walk_iff order _).mpr ⟨_, found, rfl, rfl, misses.1.1⟩

end Represents

/-! ## Histories -/

/-- The id that a call gives out. -/
def BusCall.subscribed (call : BusCall) : Option SubscriptionId :=
  call.newcomer.map Subscriber.id

/-- The counters after so many publications and losses, which are `u64`. -/
structure Counts (bus : NotificationBus) (sent lost : Nat) : Prop where
  sent : bus.stats.totalNotificationsSent = sent % u64Size
  lost : bus.stats.droppedNotifications = lost % u64Size

section Steps

variable {bus : NotificationBus} {roster : List Subscriber}

theorem represents_step (represents : Represents bus roster) (call : BusCall)
    (fresh : ∀ id ∈ call.subscribed, id ∉ roster.map Subscriber.id) :
    Represents (bus.step call) (rosterStep roster call) := by
  cases call with
  | subscribe id filter => exact represents.subscribe (fresh id rfl) filter
  | unsubscribe id => exact represents.unsubscribe id
  | publish order notification => exact represents.publish order notification
  | dropReceiver sender => exact represents.dropReceiver sender
  | cleanupClosedSubscribers => exact represents.cleanup

theorem counts_step {sent lost : Nat} (represents : Represents bus roster)
    (counts : Counts bus sent lost) (call : BusCall) :
    Counts (bus.step call) (sent + call.published.length)
      (lost + (missed roster call).length) := by
  cases call with
  | subscribe id filter => exact ⟨counts.sent, counts.lost⟩
  | unsubscribe id =>
      show Counts (bus.unsubscribe id) sent lost
      unfold NotificationBus.unsubscribe
      split
      · exact ⟨counts.sent, counts.lost⟩
      · exact counts
  | publish order notification =>
      have drops := represents.dropped_eq order notification
      have losses : (missed roster (.publish order notification)).length =
          roster.countP (Subscriber.Misses notification) := by
        rw [List.countP_eq_length_filter]
        exact List.length_map _
      refine ⟨?_, ?_⟩
      · show (bus.stats.totalNotificationsSent + 1) % u64Size = _
        rw [counts.sent, Nat.mod_add_mod]
        rfl
      · show (if (List.foldl _ (bus.channels, 0) _).2 > 0 then _ else _) = _
        rw [drops, losses, counts.lost, Nat.mod_add_mod]
        split
        · rfl
        · have none_lost : roster.countP (Subscriber.Misses notification) = 0 := by omega
          rw [none_lost, Nat.add_zero]
  | dropReceiver sender => exact ⟨counts.sent, counts.lost⟩
  | cleanupClosedSubscribers => exact ⟨counts.sent, counts.lost⟩

/-- Along every history whose subscriptions have ids of their own, the bus shows the
roster and counts publications and losses. -/
theorem represents_run {sent lost : Nat} (represents : Represents bus roster)
    (counts : Counts bus sent lost) (calls : List BusCall)
    (distinct : (roster.map Subscriber.id ++ calls.filterMap BusCall.subscribed).Nodup) :
    Represents (run NotificationBus.step bus calls) (run rosterStep roster calls) ∧
      Counts (run NotificationBus.step bus calls)
        (sent + (calls.flatMap BusCall.published).length)
        (lost + (collect rosterStep missed roster calls).length) := by
  induction calls generalizing bus roster sent lost with
  | nil => exact ⟨represents, counts⟩
  | cons call calls ih =>
      have ids : call.subscribed.toList ++ calls.filterMap BusCall.subscribed =
          (call :: calls).filterMap BusCall.subscribed := by
        rw [List.filterMap_cons]
        cases call.subscribed <;> rfl
      rw [← ids, ← List.append_assoc] at distinct
      have fresh : ∀ id ∈ call.subscribed, id ∉ roster.map Subscriber.id := by
        intro id given old
        have apart := (List.nodup_append'.mp (List.nodup_append'.mp distinct).1).2.2
        exact apart old (Option.mem_toList.mpr given)
      have next := represents_step represents call fresh
      obtain ⟨reached, counted⟩ := ih next (counts_step represents counts call) (by
        rw [map_id_rosterStep]
        exact distinct)
      refine ⟨reached, ?_⟩
      rw [List.flatMap_cons, List.length_append, collect_cons, List.length_append,
        ← Nat.add_assoc, ← Nat.add_assoc]
      exact counted

end Steps

/-! ### One subscriber -/

/-- What is published until the id is unsubscribed. -/
def publishedUntil (id : SubscriptionId) : List BusCall → List ChangeNotification
  | [] => []
  | .unsubscribe id' :: later => if id' = id then [] else publishedUntil id later
  | .publish _ notification :: later => notification :: publishedUntil id later
  | .subscribe _ _ :: later | .dropReceiver _ :: later | .cleanupClosedSubscribers :: later =>
    publishedUntil id later

theorem getElem?_run_rosterStep {roster : List Subscriber} {c : Nat} {s : Subscriber}
    (found : roster[c]? = some s) (calls : List BusCall) :
    (run rosterStep roster calls)[c]? = some (run (Subscriber.after c) s calls) := by
  induction calls generalizing roster s with
  | nil => exact found
  | cons call calls ih =>
      refine ih ?_
      have inside := (List.getElem?_eq_some_iff.mp found).1
      unfold rosterStep
      rw [List.getElem?_append_left (by rwa [List.length_mapIdx]), List.getElem?_mapIdx, found]
      rfl

/-- The roster lists the subscriptions. -/
theorem map_id_run (roster : List Subscriber) (calls : List BusCall) :
    (run rosterStep roster calls).map Subscriber.id =
      roster.map Subscriber.id ++ calls.filterMap BusCall.subscribed := by
  induction calls generalizing roster with
  | nil => exact (List.append_nil _).symm
  | cons call calls ih =>
      rw [run_cons, ih, map_id_rosterStep, List.append_assoc, List.filterMap_cons]
      congr 1
      unfold BusCall.subscribed
      cases call.newcomer <;> rfl

/-- A subscriber that is no longer registered gets nothing more. -/
theorem received_unregistered {c : Nat} {s : Subscriber} (gone : s.registered = false)
    {calls : List BusCall} (alive : .dropReceiver c ∉ calls) :
    (run (Subscriber.after c) s calls).channel = s.channel := by
  induction calls generalizing s with
  | nil => rfl
  | cons call calls ih =>
      rw [List.mem_cons, not_or] at alive
      have same : (s.after c call).registered = false ∧ (s.after c call).channel = s.channel := by
        cases call with
        | subscribe id filter => exact ⟨gone, rfl⟩
        | unsubscribe id =>
            simp only [Subscriber.after]
            split
            · exact ⟨rfl, rfl⟩
            · exact ⟨gone, rfl⟩
        | publish order notification =>
            simp only [Subscriber.after, gone, Bool.false_and, Bool.false_eq_true, if_false,
              and_self]
        | dropReceiver sender =>
            have other : sender ≠ c := fun equal => alive.1 (by rw [equal])
            simp only [Subscriber.after, if_neg other]
            exact ⟨gone, True.intro⟩
        | cleanupClosedSubscribers =>
            simp only [Subscriber.after]
            split
            · exact ⟨gone, rfl⟩
            · exact ⟨rfl, rfl⟩
      rw [run_cons, ih same.1 alive.2, same.2]

/-- `s'` is the subscriber `s` after these calls: it got what it wants of what was
published until it unsubscribed, and until then it stayed registered. -/
structure Served (s : Subscriber) (calls : List BusCall) (s' : Subscriber) : Prop where
  channel : s'.channel =
    ⟨s.channel.received ++ (publishedUntil s.id calls).filter (s.filter.matches ·), true⟩
  stays : .unsubscribe s.id ∉ calls →
    s'.registered = true ∧ s'.id = s.id ∧ s'.filter = s.filter

/-- A call adds to what is served later what the subscriber wants of it. -/
theorem Served.cons {s t s' : Subscriber} {calls : List BusCall} (later : Served t calls s')
    (call : BusCall) (id : t.id = s.id) (filter : t.filter = s.filter)
    (got : t.channel.received ++ (publishedUntil s.id calls).filter (s.filter.matches ·) =
      s.channel.received ++ (publishedUntil s.id (call :: calls)).filter (s.filter.matches ·)) :
    Served s (call :: calls) s' := by
  obtain ⟨channel, stays⟩ := later
  rw [id, filter] at channel stays
  rw [got] at channel
  exact ⟨channel, fun kept => stays fun member => kept (List.mem_cons_of_mem call member)⟩

/-- A registered subscriber whose receiver stays alive is served. -/
theorem served {c : Nat} {s : Subscriber} (registered : s.registered = true)
    (isOpen : s.channel.isOpen = true) {calls : List BusCall}
    (alive : .dropReceiver c ∉ calls) : Served s calls (run (Subscriber.after c) s calls) := by
  induction calls generalizing s with
  | nil =>
      obtain ⟨id, filter, reg, received, alive⟩ := s
      cases isOpen
      refine ⟨?_, fun _ => ⟨registered, rfl, rfl⟩⟩
      rw [publishedUntil, List.filter_nil, List.append_nil]
      rfl
  | cons call calls ih =>
      rw [List.mem_cons, not_or] at alive
      rw [run_cons]
      cases call with
      | subscribe id filter => exact (ih registered isOpen alive.2).cons _ rfl rfl rfl
      | unsubscribe id =>
          by_cases own : id = s.id
          · -- from here on nothing is published to it, and nothing more arrives
            subst own
            have gone : s.after c (.unsubscribe s.id) = { s with registered := false } :=
              if_pos rfl
            refine ⟨?_, fun kept => absurd List.mem_cons_self kept⟩
            rw [gone, received_unregistered rfl alive.2, publishedUntil, if_pos rfl,
              List.filter_nil, List.append_nil, ← isOpen]
          · have same : s.after c (.unsubscribe id) = s := if_neg own
            rw [same]
            refine (ih registered isOpen alive.2).cons _ rfl rfl ?_
            rw [publishedUntil, if_neg own]
      | publish order notification =>
          cases wanted : s.filter.matches notification with
          | true =>
              have pushed : s.after c (.publish order notification) =
                  { s with channel := s.channel.push notification } := by
                simp [Subscriber.after, registered, wanted, isOpen]
              rw [pushed]
              have later := ih (s := { s with channel := s.channel.push notification })
                registered isOpen alive.2
              refine later.cons _ rfl rfl ?_
              show s.channel.received ++ [notification] ++ _ = _
              rw [publishedUntil,
                List.filter_cons_of_pos (p := fun n => s.filter.matches n) wanted,
                List.append_assoc, List.singleton_append]
          | false =>
              have same : s.after c (.publish order notification) = s := by
                simp [Subscriber.after, wanted]
              rw [same]
              refine (ih registered isOpen alive.2).cons _ rfl rfl ?_
              rw [publishedUntil,
                List.filter_cons_of_neg (p := fun n => s.filter.matches n) (by simp [wanted])]
      | dropReceiver sender =>
          have other : sender ≠ c := fun equal => alive.1 (by rw [equal])
          have same : s.after c (.dropReceiver sender) = s := if_neg other
          rw [same]
          exact (ih registered isOpen alive.2).cons _ rfl rfl rfl
      | cleanupClosedSubscribers =>
          have same : s.after c .cleanupClosedSubscribers = s := if_pos isOpen
          rw [same]
          exact (ih registered isOpen alive.2).cons _ rfl rfl rfl

/-- The bus delivers exactly once and in order: whatever happens around it, a subscriber
whose receiver is alive has received what its filter matches of what was published between
its subscription and its unsubscription, and is in the table until then. The statistics
count the publications, and the pairs of a publication and a registered subscriber that
wants it and has dropped its receiver. -/
theorem bus_delivers (calls : List BusCall)
    (distinct : (calls.filterMap BusCall.subscribed).Nodup) :
    let bus := run NotificationBus.step .new calls
    (∀ earlier id filter later, calls = earlier ++ .subscribe id filter :: later →
      let sender := (earlier.filterMap BusCall.subscribed).length
      .dropReceiver sender ∉ later →
        bus.channels[sender]? =
            some ⟨(publishedUntil id later).filter (filter.matches ·), true⟩ ∧
          (.unsubscribe id ∉ later → bus.subscribers.lookup id = some (filter, sender))) ∧
      bus.getStats.totalNotificationsSent =
        (calls.flatMap BusCall.published).length % u64Size ∧
      bus.getStats.droppedNotifications =
        (collect rosterStep missed [] calls).length % u64Size := by
  intro bus
  have start : Represents .new [] := by
    refine ⟨rfl, fun id filter sender => ?_, List.nodup_nil⟩
    show (∅ : Table SubscriptionId _).lookup id = _ ↔ _
    simp
  have zero : Counts .new 0 0 := ⟨rfl, rfl⟩
  obtain ⟨represents, counts⟩ := represents_run start zero calls distinct
  rw [Nat.zero_add, Nat.zero_add] at counts
  refine ⟨?_, counts.sent, counts.lost⟩
  intro earlier id filter later split sender alive
  subst split
  have arrived : (run rosterStep [] (earlier ++ [.subscribe id filter]))[sender]? =
      some ⟨id, filter, true, ⟨[], true⟩⟩ := by
    have ids := congrArg List.length (map_id_run [] earlier)
    rw [List.map_nil, List.nil_append, List.length_map] at ids
    rw [run_append]
    show (List.mapIdx _ _ ++ [_])[sender]? = _
    refine getElem?_concat_eq_some.mpr (.inr ⟨?_, rfl⟩)
    rw [List.length_mapIdx]
    exact ids.symm
  have reached := getElem?_run_rosterStep arrived later
  rw [← run_append, List.append_assoc, List.singleton_append] at reached
  have outcome := served (s := ⟨id, filter, true, ⟨[], true⟩⟩) rfl rfl alive
  refine ⟨?_, ?_⟩
  · rw [represents.channels, List.getElem?_map, reached]
    exact congrArg some outcome.channel
  · intro kept
    obtain ⟨registered, named, filtered⟩ := outcome.stays kept
    exact (represents.subscribers id filter sender).mpr ⟨_, reached, named, filtered, registered⟩

/-- Two subscribers, of whom the second drops its receiver between two publications. -/
theorem bus_delivers_two :
    let wanted : NotificationFilter := .and [.key "a", .or [.changeType .created, .keyPrefix "b"]]
    let note (changeType : ChangeType) : ChangeNotification := ⟨"a", changeType, none, none, 0, 0⟩
    let later : List BusCall := [.subscribe ⟨2⟩ .all, .publish [] (note .created),
      .dropReceiver 1, .publish [⟨2⟩] (note .updated), .cleanupClosedSubscribers,
      .publish [] (note .created), .unsubscribe ⟨1⟩, .publish [] (note .created)]
    let bus := run NotificationBus.step .new (.subscribe ⟨1⟩ wanted :: later)
    bus.channels[0]? = some ⟨[note .created, note .created], true⟩ ∧
      bus.getStats.totalNotificationsSent = 4 ∧ bus.getStats.droppedNotifications = 1 := by
  intro wanted note later bus
  obtain ⟨served, sent, dropped⟩ := bus_delivers (.subscribe ⟨1⟩ wanted :: later) (by decide)
  have first := (served [] ⟨1⟩ wanted later rfl (by simp [later])).1
  refine ⟨first.trans ?_, sent.trans rfl, dropped.trans ?_⟩
  · simp [later, publishedUntil, wanted, note, NotificationFilter.matches,
      NotificationFilter.allMatch, NotificationFilter.anyMatches]
  · simp [later, wanted, note, collect, missed, rosterStep, BusCall.newcomer, Subscriber.after,
      Subscriber.Misses, NotificationFilter.matches, NotificationFilter.allMatch,
      NotificationFilter.anyMatches, Channel.push, u64Size]

end Rabia
