import Rabia.Kvstore.Store

/-!
# What a call on the store does

Every call is refused or accepted on the strength of the store before it
(`admits`). A refused call leaves the store as it was and publishes nothing; an
accepted one makes at most one `Change` of the contents, and publishes that change
when notifications are enabled. `Makes` says so of a method, and `perform_makes` and
`applyOperation_makes` of all of them: what is proved of runs of the store rests on
these two alone.
-/

namespace Rabia

open Rabia.Lib

/-- A change of the contents, with what its notification tells of it. -/
inductive Change where
  | created (key value : String)
  | updated (key old value : String)
  | deleted (key old : String)
  | cleared (count : Nat)
deriving DecidableEq, Repr

namespace Change

/-- The contents afterwards. -/
def effect (now : Nat) : Change → Table String ValueEntry → Table String ValueEntry
  | .created key value, data => data.insert key (.new now value)
  | .updated key _ value, data => Table.update key (ValueEntry.update now value) data
  | .deleted key _, data => data.erase key
  | .cleared _, _ => ∅

/-- Its notification. -/
def notification (version timestamp : Nat) : Change → ChangeNotification
  | .created key value => ⟨key, .created, none, some value, version, timestamp⟩
  | .updated key old value => ⟨key, .updated, some old, some value, version, timestamp⟩
  | .deleted key old => ⟨key, .deleted, some old, none, version, timestamp⟩
  | .cleared count => ⟨"*", .cleared, some s!"{count} keys", none, version, timestamp⟩

end Change

namespace KVStore

/-- The calls on the contents of a store. -/
inductive Call where
  | set (key value : String)
  | get (key : String)
  | getWithMetadata (key : String)
  | delete (key : String)
  | keyExists (key : String)
  | keys (order : List String) (keyPrefix : Option String)
  | clear
deriving DecidableEq

/-- What a call returns when it does not fail. -/
inductive Reply where
  | result (result : KVResult)
  | value (value : Option String)
  | entry (entry : Option ValueEntry)
  | found (found : Bool)
  | keys (keys : List String)
deriving DecidableEq

/-- Make a call. -/
def perform (clock : Clock) : Call → Method Reply
  | .set key value => do return .result (← set clock key value)
  | .get key => do return .value (← get key)
  | .getWithMetadata key => do return .entry (← getWithMetadata key)
  | .delete key => do return .result (← delete clock key)
  | .keyExists key => do return .found (← keyExists key)
  | .keys order keyPrefix => do return .keys (← keys order keyPrefix)
  | .clear => do return .result (← clear clock)

/-! ## Refused and accepted -/

/-- Whether a call is accepted, and the error that refuses it. -/
def admits (s : KVStore) : Call → Except StoreError Unit
  | .set key value => do
    validateKey key
    validateValue s.config value
    if key ∉ s.data ∧ s.size ≥ s.config.maxKeys then .error .storeFull else .ok ()
  | .get key | .getWithMetadata key | .delete key | .keyExists key => validateKey key
  | .keys _ _ | .clear => .ok ()

/-- The change that an accepted call makes. -/
def change (s : KVStore) : Call → Option Change
  | .set key value =>
    match s.data.lookup key with
    | some entry => some (.updated key entry.value value)
    | none => some (.created key value)
  | .delete key => (s.data.lookup key).map fun entry => .deleted key entry.value
  | .clear => if s.size > 0 then some (.cleared s.size) else none
  | .get _ | .getWithMetadata _ | .keyExists _ | .keys _ _ => none

/-- What an accepted call returns. -/
def reply (s : KVStore) : Call → Reply
  | .set _ _ | .clear => .result .success
  | .get key => .value ((s.data.lookup key).map ValueEntry.value)
  | .getWithMetadata key => .entry (s.data.lookup key)
  | .delete key => .result (if key ∈ s.data then .success else .notFound)
  | .keyExists key => .found (key ∈ s.data)
  | .keys order keyPrefix =>
    .keys ((iterate order s.data.keys).filter fun key => StartsWith keyPrefix key)

/-- The store after an accepted call that makes this change. -/
def after (clock : Clock) (change : Option Change) (s : KVStore) : KVStore :=
  { s.incrementOperationCount with
    data := change.elim s.data fun c => c.effect clock.entry s.data
    version := if s.config.enableNotifications ∧ change.isSome then
        (s.version + 1) % u64Size
      else s.version }

/-- What an accepted call that makes this change publishes. -/
def news (clock : Clock) (change : Option Change) (s : KVStore) : List ChangeNotification :=
  if s.config.enableNotifications then
    (change.map fun c => c.notification s.version clock.notice).toList
  else []

theorem validateValue_eq_ok {config : KVStoreConfig} {value : String} :
    validateValue config value = .ok () ↔ value.utf8ByteSize ≤ config.maxValueSize := by
  unfold validateValue
  by_cases long : value.utf8ByteSize > config.maxValueSize
  · simp [long]
  · simp [long]
    omega

theorem admits_set {s : KVStore} {key value : String} :
    s.admits (.set key value) = .ok () ↔
      validateKey key = .ok () ∧ validateValue s.config value = .ok () ∧
        (key ∈ s.data ∨ s.size < s.config.maxKeys) := by
  simp only [admits]
  cases validateKey key with
  | error err => simp [bind, Except.bind]
  | ok _ =>
      cases validateValue s.config value with
      | error err => simp [bind, Except.bind]
      | ok _ =>
          by_cases present : key ∈ s.data
          · simp [bind, Except.bind, present]
          · simp [bind, Except.bind, present]

/-- A method makes a call: it only fails when the call is refused, and otherwise
returns, changes the contents and publishes as the call has it. -/
structure Makes {α : Type} (method : Method α) (clock : Clock) (call : Call)
    (result : KVStore → α) : Prop where
  ok : ∀ {s : KVStore}, s.admits call = .ok () →
    method s = ⟨.ok (result s), s.after clock (s.change call), s.news clock (s.change call)⟩
  error : ∀ {s : KVStore} {err : StoreError}, s.admits call = .error err →
    method s = ⟨.error err, s, []⟩

/-- Wrapping the result changes nothing else. -/
theorem Makes.map {α β : Type} {method : Method α} {clock : Clock} {call : Call}
    {result : KVStore → α} (makes : Makes method clock call result) (g : α → β) :
    Makes (method >>= fun a => pure (g a)) clock call fun s => g (result s) where
  ok admitted := Proc.bind_pure_ok (makes.ok admitted) g
  error refused := Proc.bind_error (makes.error refused)

/-! ## The operations -/

theorem mem_of_lookup {s : KVStore} {key : String} {entry : ValueEntry}
    (h : s.data.lookup key = some entry) : key ∈ s.data :=
  Finmap.mem_of_lookup_eq_some h

theorem notMem_of_lookup {s : KVStore} {key : String} (h : s.data.lookup key = none) :
    key ∉ s.data :=
  Finmap.lookup_eq_none.mp h

@[simp] theorem publish_bind {α : Type} (clock : Clock) (key : String)
    (changeType : ChangeType) (oldValue newValue : Option String) (f : Unit → Method α)
    (s : KVStore) :
    (publish clock key changeType oldValue newValue >>= f) s =
      (f () { s with version := (s.version + 1) % u64Size }).after
        [⟨key, changeType, oldValue, newValue, s.version, clock.notice⟩] := rfl

theorem write_present (clock : Clock) {key : String} (value : String) {s : KVStore}
    {entry : ValueEntry} (found : s.data.lookup key = some entry) :
    write clock key value s =
      ⟨.ok (some entry.value),
        { s with data := s.data.insert key (entry.update clock.entry value) }, []⟩ := by
  unfold write
  rw [Proc.read_bind, found]
  rfl

theorem write_absent (clock : Clock) {key : String} (value : String) {s : KVStore}
    (absent : s.data.lookup key = none) :
    write clock key value s =
      if s.size ≥ s.config.maxKeys then ⟨.error .storeFull, s, []⟩
      else ⟨.ok none, { s with data := s.data.insert key (.new clock.entry value) }, []⟩ := by
  unfold write
  rw [Proc.read_bind, absent]
  by_cases full : s.size ≥ s.config.maxKeys
  · simp [full]
  · simp [full]

theorem set_ok (clock : Clock) {key value : String} {s : KVStore}
    (ok : s.admits (.set key value) = .ok ()) :
    set clock key value s =
      ⟨.ok .success, s.after clock (s.change (.set key value)),
        s.news clock (s.change (.set key value))⟩ := by
  unfold set
  obtain ⟨keyOk, valueOk, room⟩ := admits_set.mp ok
  rw [keyOk, Proc.ofExcept_ok_bind, Proc.read_bind, valueOk, Proc.ofExcept_ok_bind]
  cases found : s.data.lookup key with
  | some entry =>
      rw [Proc.bind_ok (write_present clock value found)]
      cases on : s.config.enableNotifications <;>
        simp [change, found, after, news, on, incrementOperationCount, Change.effect,
          Change.notification, Table.update, Outcome.after]
  | none =>
      have some_room : ¬ s.size ≥ s.config.maxKeys := by
        have absent := notMem_of_lookup found
        have below := room.resolve_left absent
        omega
      have written := write_absent clock value found
      rw [if_neg some_room] at written
      rw [Proc.bind_ok written]
      cases on : s.config.enableNotifications <;>
        simp [change, found, after, news, on, incrementOperationCount, Change.effect,
          Change.notification, Outcome.after]

theorem set_error (clock : Clock) {key value : String} {s : KVStore} {err : StoreError}
    (refused : s.admits (.set key value) = .error err) :
    set clock key value s = ⟨.error err, s, []⟩ := by
  unfold set
  simp only [admits] at refused
  cases keyOk : validateKey key with
  | error err' =>
      rw [keyOk] at refused
      cases refused
      rfl
  | ok _ =>
      rw [Proc.ofExcept_ok_bind, Proc.read_bind]
      cases valueOk : validateValue s.config value with
      | error err' =>
          rw [keyOk, valueOk] at refused
          cases refused
          rfl
      | ok _ =>
          rw [keyOk, valueOk] at refused
          replace refused : (if key ∉ s.data ∧ s.size ≥ s.config.maxKeys
            then Except.error StoreError.storeFull else Except.ok ()) = .error err := refused
          -- `write` looks for room before it writes
          split at refused
          · rename_i full
            cases refused
            have written := write_absent clock value (Finmap.lookup_eq_none.mpr full.1)
            rw [if_pos full.2] at written
            rw [Proc.ofExcept_ok_bind, Proc.bind_error written]
          · cases refused

theorem after_none (clock : Clock) (s : KVStore) :
    s.after clock none = incrementOperationCount s := by
  simp [after, incrementOperationCount]

theorem news_none (clock : Clock) (s : KVStore) : s.news clock none = [] := by
  simp [news]

/-- A method that checks its key and reads. -/
theorem lookup_makes {α : Type} (clock : Clock) {call : Call} {key : String}
    (look : KVStore → α) (admits : ∀ s, KVStore.admits s call = validateKey key)
    (quiet : ∀ s, KVStore.change s call = none) :
    Makes (do
      Proc.ofExcept (validateKey key)
      let result ← Proc.read look
      Proc.modify incrementOperationCount
      return result) clock call look where
  ok {s} admitted := by
    rw [admits s] at admitted
    rw [admitted, quiet s, after_none, news_none]
    rfl
  error {s err} refused := by
    rw [admits s] at refused
    exact Proc.ofExcept_bind_error refused _ s

theorem delete_ok (clock : Clock) {key : String} {s : KVStore}
    (ok : validateKey key = .ok ()) :
    delete clock key s =
      ⟨.ok (if key ∈ s.data then .success else .notFound), s.after clock (s.change (.delete key)),
        s.news clock (s.change (.delete key))⟩ := by
  unfold delete
  rw [ok, Proc.ofExcept_ok_bind, Proc.read_bind]
  cases found : s.data.lookup key with
  | some entry =>
      have present := mem_of_lookup found
      cases on : s.config.enableNotifications <;>
        simp [change, found, after, news, on, incrementOperationCount, Change.effect,
          Change.notification, present, Outcome.after]
  | none =>
      have absent := notMem_of_lookup found
      have same := Table.erase_eq_self_iff.mpr absent
      cases on : s.config.enableNotifications <;>
        simp [change, found, after, news, on, incrementOperationCount, same, absent]

theorem clear_ok (clock : Clock) (s : KVStore) :
    clear clock s =
      ⟨.ok .success, s.after clock (s.change .clear), s.news clock (s.change .clear)⟩ := by
  unfold clear
  by_cases filled : s.size > 0
  · cases on : s.config.enableNotifications <;>
      simp [change, filled, after, news, on, incrementOperationCount, Change.effect,
        Change.notification, Outcome.after]
  · have bare : s.data = ∅ := Table.size_eq_zero.mp (Nat.eq_zero_of_not_pos filled)
    cases on : s.config.enableNotifications <;>
      simp [change, filled, after, news, on, incrementOperationCount, bare]

/-! ## All operations at once -/

theorem set_makes (clock : Clock) (key value : String) :
    Makes (set clock key value) clock (.set key value) fun _ => .success :=
  ⟨set_ok clock, set_error clock⟩

theorem delete_makes (clock : Clock) (key : String) :
    Makes (delete clock key) clock (.delete key) fun s =>
      if key ∈ s.data then .success else .notFound where
  ok := delete_ok clock
  error {s _} refused := Proc.ofExcept_bind_error refused _ s

/-- Every method makes its call and returns the reply to it. -/
theorem perform_makes (clock : Clock) (call : Call) :
    Makes (perform clock call) clock call fun s => s.reply call := by
  cases call with
  | set key value => exact (set_makes clock key value).map Reply.result
  | delete key => exact (delete_makes clock key).map Reply.result
  | get key =>
      exact (lookup_makes clock _ (fun _ => rfl) fun _ => rfl).map Reply.value
  | getWithMetadata key =>
      exact (lookup_makes clock _ (fun _ => rfl) fun _ => rfl).map Reply.entry
  | keyExists key =>
      exact (lookup_makes clock _ (fun _ => rfl) fun _ => rfl).map Reply.found
  | keys order keyPrefix =>
      refine ⟨fun {s} _ => ?_, fun refused => by cases refused⟩
      rw [show s.change (.keys order keyPrefix) = none from rfl, after_none, news_none]
      rfl
  | clear =>
      refine ⟨fun {s} _ => ?_, fun refused => by cases refused⟩
      exact Proc.bind_pure_ok (clear_ok clock s) Reply.result

/-! ## What a change leaves -/

@[simp] theorem after_config (clock : Clock) (change : Option Change) (s : KVStore) :
    (s.after clock change).config = s.config := rfl

/-- The entry that a set leaves in the place of another, or of none. -/
def entrySet (now : Nat) (value : String) : Option ValueEntry → ValueEntry
  | some entry => entry.update now value
  | none => .new now value

theorem data_after_set (clock : Clock) (s : KVStore) (key value : String) :
    (s.after clock (s.change (.set key value))).data =
      s.data.insert key (entrySet clock.entry value (s.data.lookup key)) := by
  cases found : s.data.lookup key with
  | some entry => simp [after, change, found, Change.effect, Table.update, entrySet]
  | none => simp [after, change, found, Change.effect, entrySet]

theorem data_after_delete (clock : Clock) (s : KVStore) (key : String) :
    (s.after clock (s.change (.delete key))).data = s.data.erase key := by
  cases found : s.data.lookup key with
  | some entry => simp [after, change, found, Change.effect]
  | none =>
      have same := Table.erase_eq_self_iff.mpr (notMem_of_lookup found)
      simp [after, change, found, same]

theorem data_after_clear (clock : Clock) (s : KVStore) :
    (s.after clock (s.change .clear)).data = ∅ := by
  by_cases filled : s.size > 0
  · simp [after, change, filled, Change.effect]
  · have bare := Table.size_eq_zero.mp (Nat.eq_zero_of_not_pos filled)
    simp [after, change, filled, bare]

/-- The call has nothing to tell: it reads, deletes an absent key or clears an empty
store. -/
def NothingToTell (s : KVStore) : Call → Prop
  | .set _ _ => False
  | .delete key => key ∉ s.data
  | .clear => s.data = ∅
  | .get _ | .getWithMetadata _ | .keyExists _ | .keys _ _ => True

theorem change_eq_none_iff {s : KVStore} {call : Call} :
    s.change call = none ↔ s.NothingToTell call := by
  cases call with
  | set key value => cases found : s.data.lookup key <;> simp [change, found, NothingToTell]
  | delete key => simp [change, NothingToTell, Finmap.lookup_eq_none]
  | clear => simp [change, NothingToTell, size, Table.size_eq_zero]
  | get key | getWithMetadata key | keyExists key | keys order keyPrefix =>
      exact iff_of_true rfl trivial

/-! ## Operations of a batch -/

/-- What a batch reports of a reply. -/
def Reply.outcome : Reply → KVResult
  | .result r => r
  | .value v => if v.isSome then .success else .notFound
  | .entry e => if e.isSome then .success else .notFound
  | .found b => if b then .success else .notFound
  | .keys _ => .success

/-- The call that an operation of a batch makes. -/
def callOf : KVOperation → Call
  | .set key value => .set key value
  | .get key => .get key
  | .delete key => .delete key
  | .exists key => .keyExists key

/-- A round of the loop of a batch makes the call of its operation. -/
theorem applyOperation_makes (clock : Clock) (operation : KVOperation) :
    Makes (applyOperation clock operation) clock (callOf operation) fun s =>
      (s.reply (callOf operation)).outcome := by
  cases operation with
  | set key value => exact set_makes clock key value
  | delete key => exact delete_makes clock key
  | get key =>
      exact (lookup_makes clock _ (fun _ => rfl) fun _ => rfl).map fun v : Option String =>
        if v.isSome then KVResult.success else .notFound
  | «exists» key =>
      exact (lookup_makes clock _ (fun _ => rfl) fun _ => rfl).map fun b : Bool =>
        if b then KVResult.success else .notFound

end KVStore

end Rabia
