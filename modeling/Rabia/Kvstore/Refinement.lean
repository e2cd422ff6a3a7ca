import Rabia.Kvstore.Calls
import Rabia.Lib.BoundedMap
import Rabia.Lib.Runs

/-!
# The store as a bounded map

What the store is for, without its bookkeeping: a map with at most `max_keys` keys
that holds for each key the successful sets since the key was created. `Reference.step`
is the meaning of each call on such a map, and `store_refines` says that the store
answers every sequence of calls as the map does, and that its entries are what the
recorded sets make of them.
-/

namespace Rabia

open Rabia.Lib

namespace KVStore

/-- A successful set of a key. -/
structure Write where
  time : Nat
  value : String
deriving DecidableEq, Repr

/-- The successful sets of a key since it was created, the latest first. -/
structure Record where
  latest : Write
  earlier : List Write
deriving DecidableEq, Repr

namespace Record

/-- The record of a list of sets, when there are any. -/
def ofSets : List Write → Option Record
  | [] => none
  | latest :: earlier => some ⟨latest, earlier⟩

/-- The sets of a key, none when it is absent. -/
def sets : Option Record → List Write
  | none => []
  | some record => record.latest :: record.earlier

@[simp] theorem ofSets_sets (record : Option Record) : ofSets (sets record) = record := by
  cases record <;> rfl

/-- One more set, or the first. -/
def add (write : Write) (record : Option Record) : Record := ⟨write, sets record⟩

/-- The entry that shows a record: the value of the last set and its length, the number
of sets as a `u64`, the time of the first and of the last. -/
def entry (record : Record) : ValueEntry where
  value := record.latest.value
  version := (record.earlier.length + 1) % u64Size
  createdAt := (record.earlier.getLastD record.latest).time
  updatedAt := record.latest.time
  size := record.latest.value.utf8ByteSize

theorem entry_add (now : Nat) (value : String) (record : Option Record) :
    (add ⟨now, value⟩ record).entry = entrySet now value (record.map entry) := by
  cases record with
  | none => simp [add, sets, entry, entrySet, ValueEntry.new, u64Size]
  | some record =>
      simp [add, sets, entry, entrySet, ValueEntry.update, List.getLast?_cons]

end Record

/-! ## The reference -/

/-- A map with at most `max_keys` keys. -/
abbrev Reference (config : KVStoreConfig) := BoundedMap String Record config.maxKeys

namespace Reference

variable {config : KVStoreConfig}

/-- What is wrong with a key that is not 1 to 256 bytes long. -/
def keyFault (key : String) : Option StoreError :=
  if key.utf8ByteSize = 0 then some (.invalidKey "Key cannot be empty")
  else if key.utf8ByteSize ≤ 256 then none
  else some (.invalidKey "Key too long")

/-- A call for which the key has to be right. -/
def guarded (key : String) (m : Reference config)
    (answer : Except StoreError Reply × Reference config) :
    Except StoreError Reply × Reference config :=
  match keyFault key with
  | some err => (.error err, m)
  | none => answer

/-- The meaning of a call at time `now`. -/
def step (now : Nat) : Call → Reference config → Except StoreError Reply × Reference config
  | .set key value, m =>
    guarded key m <|
      if value.utf8ByteSize ≤ config.maxValueSize then
        match m.write key (Record.add ⟨now, value⟩ (m.lookup key)) with
        | some m' => (.ok (.result .success), m')
        | none => (.error .storeFull, m)
      else (.error .valueTooLarge, m)
  | .get key, m =>
    guarded key m (.ok (.value ((m.lookup key).map fun record => record.latest.value)), m)
  | .getWithMetadata key, m => guarded key m (.ok (.entry ((m.lookup key).map Record.entry)), m)
  | .delete key, m =>
    guarded key m <|
      match m.lookup key with
      | some _ => (.ok (.result .success), m.remove key)
      | none => (.ok (.result .notFound), m)
  | .keyExists key, m => guarded key m (.ok (.found (m.lookup key).isSome), m)
  | .keys order keyPrefix, m =>
    (.ok (.keys ((iterate order m.entries.keys).filter fun key => StartsWith keyPrefix key)), m)
  | .clear, _ => (.ok (.result .success), .empty)

end Reference

/-! ## Simulation -/

/-- The store shows the map. -/
structure Represents {config : KVStoreConfig} (s : KVStore) (m : Reference config) : Prop where
  config : s.config = config
  lookup : ∀ key, s.data.lookup key = (m.lookup key).map Record.entry

/-- A call on the store as a machine that answers. -/
def serve (input : Clock × Call) (s : KVStore) : Except StoreError Reply × KVStore :=
  ((perform input.1 input.2 s).result, (perform input.1 input.2 s).state)

/-- A call on the reference. -/
def Reference.serve {config : KVStoreConfig} (input : Clock × Call) (m : Reference config) :
    Except StoreError Reply × Reference config :=
  Reference.step input.1.entry input.2 m

section Simulation

variable {config : KVStoreConfig} {s : KVStore} {m : Reference config}

theorem validateKey_eq (key : String) :
    validateKey key = match Reference.keyFault key with
      | some err => .error err
      | none => .ok () := by
  unfold validateKey Reference.keyFault
  by_cases bare : key.utf8ByteSize = 0
  · have isEmpty : key.isEmpty := by simpa [String.isEmpty] using bare
    rw [if_pos isEmpty, if_pos bare]
  · have notEmpty : ¬ key.isEmpty := by simpa [String.isEmpty] using bare
    rw [if_neg notEmpty, if_neg bare]
    by_cases fits : key.utf8ByteSize ≤ 256
    · rw [if_neg (by omega), if_pos fits]
    · rw [if_pos (by omega), if_neg fits]

theorem Represents.keys (represents : Represents s m) : s.data.keys = m.entries.keys :=
  Table.keys_eq_of_lookup represents.lookup

theorem Represents.size (represents : Represents s m) : s.size = m.entries.size := by
  unfold KVStore.size Table.size
  rw [represents.keys]

theorem Represents.mem_iff (represents : Represents s m) {key : String} :
    key ∈ s.data ↔ (m.lookup key).isSome := by
  rw [← Finmap.lookup_isSome, represents.lookup, Option.isSome_map]

/-- The same answer, and a store that shows the map afterwards. -/
def Simulates (clock : Clock) (call : Call) (s : KVStore) (m : Reference config) : Prop :=
  (serve (clock, call) s).1 = (m.serve (clock, call)).1 ∧
    Represents (serve (clock, call) s).2 (m.serve (clock, call)).2

theorem simulates_of_ok {clock : Clock} {call : Call} (answer : Reference config)
    (ok : s.admits call = .ok ())
    (meaning : m.serve (clock, call) = (.ok (s.reply call), answer))
    (shows : Represents (s.after clock (s.change call)) answer) : Simulates clock call s m := by
  unfold Simulates serve
  rw [(perform_makes clock call).ok ok, meaning]
  exact ⟨rfl, shows⟩

theorem simulates_of_error {clock : Clock} {call : Call} (err : StoreError)
    (represents : Represents s m) (refused : s.admits call = .error err)
    (meaning : m.serve (clock, call) = (.error err, m)) : Simulates clock call s m := by
  unfold Simulates serve
  rw [(perform_makes clock call).error refused, meaning]
  exact ⟨rfl, represents⟩

/-- A call whose key decides. -/
theorem simulates_guarded {clock : Clock} {call : Call} {key : String}
    (answer : Reference config) (represents : Represents s m)
    (admits : s.admits call = validateKey key)
    (meaning : m.serve (clock, call) = Reference.guarded key m (.ok (s.reply call), answer))
    (shows : Represents (s.after clock (s.change call)) answer) : Simulates clock call s m := by
  rw [validateKey_eq] at admits
  unfold Reference.guarded at meaning
  cases fault : Reference.keyFault key with
  | some err =>
      rw [fault] at admits meaning
      exact simulates_of_error err represents admits meaning
  | none =>
      rw [fault] at admits meaning
      exact simulates_of_ok answer admits meaning shows

/-- A call that changes nothing leaves what the store shows. -/
theorem Represents.after_none (represents : Represents s m) (clock : Clock) :
    Represents (s.after clock none) m :=
  ⟨represents.config, represents.lookup⟩

theorem simulates_set (represents : Represents s m) (clock : Clock) (key value : String) :
    Simulates clock (.set key value) s m := by
  -- the cases follow the checks of `set`: the key, the value, the room for it
  have meaning : m.serve (clock, .set key value) = Reference.guarded key m _ := rfl
  unfold Reference.guarded at meaning
  have valid := validateKey_eq key
  have limit : s.config.maxValueSize = config.maxValueSize := by rw [represents.config]
  cases fault : Reference.keyFault key with
  | some err =>
      rw [fault] at valid meaning
      refine simulates_of_error err represents ?_ meaning
      simp [admits, valid, bind, Except.bind]
  | none =>
      rw [fault] at valid meaning
      by_cases fits : value.utf8ByteSize ≤ config.maxValueSize
      · have valueOk := validateValue_eq_ok.mpr (limit ▸ fits)
        cases written : m.write key (Record.add ⟨clock.entry, value⟩ (m.lookup key)) with
        | none =>
            have full : key ∉ s.data ∧ s.size ≥ s.config.maxKeys := by
              have noRoom := BoundedMap.write_eq_none_iff.mp written
              rw [represents.size, represents.config, ← Finmap.mem_keys, represents.keys,
                Finmap.mem_keys]
              exact noRoom
            refine simulates_of_error .storeFull represents ?_ ?_
            · simp [admits, valid, valueOk, full, bind, Except.bind]
            · simp [meaning, fits, written]
        | some m' =>
            have room : key ∈ s.data ∨ s.size < s.config.maxKeys := by
              rw [represents.size, represents.config, ← Finmap.mem_keys, represents.keys,
                Finmap.mem_keys]
              exact BoundedMap.room_of_write written
            refine simulates_of_ok m' (admits_set.mpr ⟨valid, valueOk, room⟩) ?_ ?_
            · simp [meaning, fits, written, reply]
            · refine ⟨represents.config, fun k => ?_⟩
              rw [data_after_set, Table.lookup_insert, BoundedMap.lookup_write written]
              by_cases same : k = key
              · rw [if_pos same, if_pos same, represents.lookup, ← Record.entry_add]
                rfl
              · rw [if_neg same, if_neg same, represents.lookup]
      · have valueBad : validateValue s.config value = .error .valueTooLarge := by
          unfold validateValue
          rw [if_pos (by omega)]
        refine simulates_of_error .valueTooLarge represents ?_ ?_
        · simp [admits, valid, valueBad, bind, Except.bind]
        · simp [meaning, fits]

/-- Every call is answered as by the map. -/
theorem simulates (represents : Represents s m) (clock : Clock) (call : Call) :
    Simulates clock call s m := by
  have found := represents.lookup
  cases call with
  | set key value => exact simulates_set represents clock key value
  | get key =>
      refine simulates_guarded m represents rfl ?_ (represents.after_none clock)
      simp [Reference.serve, Reference.step, reply, found, Record.entry, Function.comp_def]
  | getWithMetadata key =>
      refine simulates_guarded m represents rfl ?_ (represents.after_none clock)
      simp [Reference.serve, Reference.step, reply, found]
  | keyExists key =>
      refine simulates_guarded m represents rfl ?_ (represents.after_none clock)
      simp [Reference.serve, Reference.step, reply, represents.mem_iff]
  | keys order keyPrefix =>
      refine simulates_of_ok m rfl ?_ (represents.after_none clock)
      simp [Reference.serve, Reference.step, reply, represents.keys]
  | clear =>
      refine simulates_of_ok .empty rfl rfl ⟨represents.config, fun key => ?_⟩
      rw [data_after_clear]
      simp
  | delete key =>
      have present : key ∈ s.data ↔ _ := represents.mem_iff
      cases there : m.lookup key with
      | some record =>
          refine simulates_guarded (m.remove key) represents rfl ?_
            ⟨represents.config, fun k => ?_⟩
          · simp [Reference.serve, Reference.step, reply, present, there]
          · rw [data_after_delete, Table.lookup_erase, BoundedMap.lookup_remove, found]
            split <;> rfl
      | none =>
          have absent : s.change (.delete key) = none := by simp [change, found, there]
          refine simulates_guarded m represents rfl ?_ ?_
          · simp [Reference.serve, Reference.step, reply, present, there]
          · rw [absent]
            exact represents.after_none clock

end Simulation

/-! ## Histories -/

/-- A call with the answer to it. -/
abbrev Exchange := (Clock × Call) × Except StoreError Reply

/-- What an exchange adds to the sets of a key, the latest first, since it was created. -/
def note (key : String) (before : List Write) : Exchange → List Write
  | ((clock, .set k value), .ok _) =>
    if k = key then ⟨clock.entry, value⟩ :: before else before
  | ((_, .delete k), .ok _) => if k = key then [] else before
  | ((_, .clear), .ok _) => []
  | _ => before

/-- The successful sets of a key since it was last created, the latest first. -/
def setsSinceCreation (key : String) (log : List Exchange) : List Write :=
  log.foldl (note key) []

section Histories

variable {config : KVStoreConfig}

/-- The reference records what the exchange tells. -/
theorem sets_serve (m : Reference config) (input : Clock × Call) (key : String) :
    Record.sets ((m.serve input).2.lookup key) =
      note key (Record.sets (m.lookup key)) (input, (m.serve input).1) := by
  obtain ⟨clock, call⟩ := input
  cases call with
  | set k value =>
      show Record.sets ((Reference.guarded k m _).2.lookup key) =
        note key _ (_, (Reference.guarded k m _).1)
      unfold Reference.guarded
      cases Reference.keyFault k with
      | some err => rfl
      | none =>
          by_cases fits : value.utf8ByteSize ≤ config.maxValueSize
          · rw [if_pos fits]
            cases written : m.write k (Record.add ⟨clock.entry, value⟩ (m.lookup k)) with
            | none => rfl
            | some m' =>
                simp only [note, BoundedMap.lookup_write written]
                by_cases same : key = k
                · simp [same, Record.add, Record.sets]
                · simp [same, Ne.symm same]
          · rw [if_neg fits]
            rfl
  | delete k =>
      show Record.sets ((Reference.guarded k m _).2.lookup key) =
        note key _ (_, (Reference.guarded k m _).1)
      unfold Reference.guarded
      cases Reference.keyFault k with
      | some err => rfl
      | none =>
          cases there : m.lookup k with
          | none =>
              by_cases same : key = k
              · simp [note, same, there, Record.sets]
              · simp [note, Ne.symm same]
          | some record =>
              by_cases same : key = k
              · simp [note, same, Record.sets]
              · simp [note, same, Ne.symm same]
  | get k | getWithMetadata k | keyExists k =>
      show Record.sets ((Reference.guarded k m _).2.lookup key) =
        note key _ (_, (Reference.guarded k m _).1)
      unfold Reference.guarded
      cases Reference.keyFault k <;> rfl
  | keys order keyPrefix => rfl
  | clear => simp [Reference.serve, Reference.step, note, Record.sets]

theorem sets_leave (m : Reference config) (calls : List (Clock × Call)) (key : String) :
    Record.sets ((leave Reference.serve m calls).lookup key) =
      (calls.zip (answers Reference.serve m calls)).foldl (note key)
        (Record.sets (m.lookup key)) := by
  induction calls generalizing m with
  | nil => rfl
  | cons input calls ih =>
      show Record.sets ((leave Reference.serve (m.serve input).2 calls).lookup key) = _
      rw [ih, sets_serve]
      rfl

/-- A new store and the empty map answer alike, and the store shows the map in the end. -/
theorem represents_leave (config : KVStoreConfig) (calls : List (Clock × Call)) :
    answers serve (new config) calls =
        answers Reference.serve (.empty : Reference config) calls ∧
      Represents (leave serve (new config) calls)
        (leave Reference.serve (.empty : Reference config) calls) := by
  have start : Represents (new config) (.empty : Reference config) := ⟨rfl, fun key => rfl⟩
  have step : ∀ (input : Clock × Call) (s : KVStore) (m : Reference config), Represents s m →
      (serve input s).1 = (m.serve input).1 ∧ Represents (serve input s).2 (m.serve input).2 :=
    fun input s m represents => simulates represents input.1 input.2
  exact answers_eq_of_simulation step start calls

/-- The entries are what the sets since the creation of their keys make of them. -/
theorem lookup_leave (config : KVStoreConfig) (calls : List (Clock × Call)) (key : String) :
    (leave serve (new config) calls).data.lookup key =
      (Record.ofSets (setsSinceCreation key
        (calls.zip (answers serve (new config) calls)))).map Record.entry := by
  obtain ⟨alike, shows⟩ := represents_leave config calls
  have told := sets_leave (.empty : Reference config) calls key
  rw [BoundedMap.lookup_empty] at told
  rw [shows.lookup, alike, setsSinceCreation,
    ← Record.ofSets_sets ((leave Reference.serve (.empty : Reference config) calls).lookup key),
    told]
  rfl

/-- A new store answers every sequence of calls as the empty map does. In the end it has at
most `max_keys` keys, it shows the map, and its entries are those of the successful sets
of each key since the key was last created. -/
theorem store_refines (config : KVStoreConfig) (calls : List (Clock × Call)) :
    answers serve (new config) calls =
        answers Reference.serve (.empty : Reference config) calls ∧
      (leave serve (new config) calls).size ≤ config.maxKeys ∧
      (∀ key, (leave serve (new config) calls).data.lookup key =
        ((leave Reference.serve (.empty : Reference config) calls).lookup key).map Record.entry) ∧
      ∀ key, (leave serve (new config) calls).data.lookup key =
        (Record.ofSets (setsSinceCreation key
          (calls.zip (answers serve (new config) calls)))).map Record.entry := by
  obtain ⟨alike, shows⟩ := represents_leave config calls
  refine ⟨alike, ?_, shows.lookup, lookup_leave config calls⟩
  rw [shows.size]
  exact (leave Reference.serve (.empty : Reference config) calls).bounded

/-- A set that is accepted once is accepted as often as it is repeated. -/
theorem length_sets_replicate {s : KVStore} (clock : Clock) {key value : String}
    (ok : s.admits (.set key value) = .ok ()) (n : Nat) (before : List Write) :
    (((List.replicate n (clock, Call.set key value)).zip
      (answers serve s (List.replicate n (clock, Call.set key value)))).foldl
        (note key) before).length = before.length + n := by
  induction n generalizing s before with
  | zero => rfl
  | succ n ih =>
      have served : serve (clock, .set key value) s =
          (.ok (.result .success), s.after clock (s.change (.set key value))) := by
        unfold serve
        rw [(perform_makes clock (.set key value)).ok ok]
        rfl
      have again : (s.after clock (s.change (.set key value))).admits (.set key value) =
          .ok () := by
        obtain ⟨keyOk, valueOk, -⟩ := admits_set.mp ok
        refine admits_set.mpr ⟨keyOk, valueOk, .inl ?_⟩
        rw [← Finmap.lookup_isSome, data_after_set, Finmap.lookup_insert]
        rfl
      rw [List.replicate_succ, answers, served, List.zip_cons_cons, List.foldl_cons, ih again]
      simp [note]
      omega

/-- After 2^64 sets of a key its version is zero. -/
theorem entry_version_wraps :
    let calls := List.replicate u64Size ((⟨0, 0⟩ : Clock), Call.set "a" "1")
    ∃ entry, (leave serve (new .default) calls).data.lookup "a" = some entry ∧
      entry.version ≠ (setsSinceCreation "a"
        (calls.zip (answers serve (new .default) calls))).length := by
  intro calls
  have ok : (new .default).admits (.set "a" "1") = .ok () := by decide
  have count : (setsSinceCreation "a"
      (calls.zip (answers serve (new .default) calls))).length = u64Size := by
    rw [setsSinceCreation, length_sets_replicate ⟨0, 0⟩ ok u64Size []]
    exact Nat.zero_add u64Size
  have found := lookup_leave .default calls "a"
  rw [count]
  cases sets : setsSinceCreation "a" (calls.zip (answers serve (new .default) calls)) with
  | nil =>
      rw [sets] at count
      cases count
  | cons latest earlier =>
      rw [sets] at count found
      refine ⟨_, found, ?_⟩
      rw [List.length_cons] at count
      show (earlier.length + 1) % u64Size ≠ u64Size
      rw [count, Nat.mod_self]
      decide

end Histories

end KVStore

end Rabia
