import Rabia.Core.StateMachine
import Rabia.Lib.Runs
import Rabia.Lib.Table
import Rabia.Lib.Text

/-!
# The state machine in memory

`InMemoryStateMachine` of `rabia-core/src/state_machine.rs`: a hash map that is changed by
commands in words. `Reference` says what it is for, a partial function from words to words,
and `in_memory_serves` that nothing more can be seen of it.
-/

namespace Rabia

open Rabia.Lib
open Rabia.Lib.Text (Word encode decodeLossy splitWhitespace words)

/-- `serde_json` on the map, which it walks in the order of a list, and `crc32fast::hash`. -/
structure InMemoryCodecs where
  toVec : List String → Table String Bytes → Except RabiaError Bytes
  fromSlice : Bytes → Except RabiaError (Table String Bytes)
  hash : Bytes → Nat

/-- What was serialized is deserialized. -/
structure InMemoryCodecs.Lawful (codecs : InMemoryCodecs) : Prop where
  roundTrip : ∀ {order map bytes}, codecs.toVec order map = .ok bytes →
    codecs.fromSlice bytes = .ok map

namespace Snapshot

variable (codecs : InMemoryCodecs)

/-- `Snapshot::new`. -/
def new (version : Nat) (data : Bytes) : Snapshot := ⟨version, data, codecs.hash data⟩

/-- `verify_checksum`. -/
def verifyChecksum (snapshot : Snapshot) : Bool := codecs.hash snapshot.data = snapshot.checksum

end Snapshot

/-- `InMemoryStateMachine`, with the order in which its hash map is walked. -/
structure InMemoryStateMachine (codecs : InMemoryCodecs) where
  state : Table String Bytes
  version : Nat
  order : List String
deriving DecidableEq

namespace InMemoryStateMachine

variable {codecs : InMemoryCodecs}

def new (order : List String) : InMemoryStateMachine codecs := ⟨∅, 0, order⟩

/-- `apply_command`. -/
def applyCommand (sm : InMemoryStateMachine codecs) (command : Command) :
    Except RabiaError Bytes × InMemoryStateMachine codecs :=
  match splitWhitespace (decodeLossy command.data) with
  | [] => (.ok (encode "ERROR: Empty command"), sm)
  | [name, key, value] =>
    if name = "SET" then
      (.ok (encode "OK"), { sm with
        state := sm.state.insert key (encode value)
        version := (sm.version + 1) % u64Size })
    else (.ok (encode "ERROR: Invalid command"), sm)
  | [name, key] =>
    if name = "GET" then
      match sm.state.lookup key with
      | some value => (.ok value, sm)
      | none => (.ok (encode "NOT_FOUND"), sm)
    else if name = "DEL" then
      match sm.state.lookup key with
      | some _ =>
        (.ok (encode "OK"), { sm with
          state := sm.state.erase key
          version := (sm.version + 1) % u64Size })
      | none => (.ok (encode "NOT_FOUND"), sm)
    else (.ok (encode "ERROR: Invalid command"), sm)
  | _ => (.ok (encode "ERROR: Invalid command"), sm)

/-- `create_snapshot`. -/
def createSnapshot (sm : InMemoryStateMachine codecs) : Except RabiaError Snapshot := do
  let serialized ← codecs.toVec sm.order sm.state
  return Snapshot.new codecs sm.version serialized

/-- `restore_snapshot`. -/
def restoreSnapshot (sm : InMemoryStateMachine codecs) (snapshot : Snapshot) :
    Except RabiaError Unit × InMemoryStateMachine codecs :=
  if snapshot.verifyChecksum codecs then
    match codecs.fromSlice snapshot.data with
    | .ok state => (.ok (), { sm with state := state, version := snapshot.version })
    | .error err => (.error err, sm)
  else (.error (.checksumMismatch snapshot.checksum (codecs.hash snapshot.data)), sm)

instance : StateMachine (InMemoryStateMachine codecs) where
  applyCommand := applyCommand
  createSnapshot := createSnapshot
  restoreSnapshot := restoreSnapshot

/-! ## Requests -/

/-- What a client asks of the machine. -/
inductive Request where
  | set (key value : Word)
  | get (key : Word)
  | del (key : Word)
deriving DecidableEq

namespace Request

/-- The words of a request. -/
def spelled : Request → List Word
  | .set key value => [⟨"SET", by decide, by simp [Text.isWhitespace]⟩, key, value]
  | .get key => [⟨"GET", by decide, by simp [Text.isWhitespace]⟩, key]
  | .del key => [⟨"DEL", by decide, by simp [Text.isWhitespace]⟩, key]

/-- The request as a client writes it, with single spaces. -/
def data (request : Request) : Bytes := encode (" ".intercalate (request.spelled.map Word.text))

/-- The request in the data of a command, or what it is refused with. -/
def read (data : Bytes) : Except String Request :=
  match words (decodeLossy data) with
  | [] => .error "ERROR: Empty command"
  | [name, key, value] =>
    if name.text = "SET" then .ok (.set key value) else .error "ERROR: Invalid command"
  | [name, key] =>
    if name.text = "GET" then .ok (.get key)
    else if name.text = "DEL" then .ok (.del key)
    else .error "ERROR: Invalid command"
  | _ => .error "ERROR: Invalid command"

/-- What a client writes is read. -/
theorem read_data (request : Request) : read request.data = .ok request := by
  unfold read data
  rw [Text.decodeLossy_encode, Text.words_spaced]
  cases request <;> rfl

end Request

/-! ## The reference -/

/-- A partial function from words to words, and how often it was changed. -/
structure Reference where
  entry : Word → Option Word := fun _ => none
  changes : Nat := 0

inductive Answer where
  | done
  | value (word : Word)
  | notFound
  | refused (message : String)
deriving DecidableEq

def Answer.bytes : Answer → Bytes
  | .done => encode "OK"
  | .value word => encode word.text
  | .notFound => encode "NOT_FOUND"
  | .refused message => encode message

/-- One entry is changed. -/
def Reference.put (key : Word) (value : Option Word) (r : Reference) : Reference where
  entry := Function.update r.entry key value
  changes := r.changes + 1

theorem Reference.entry_put (key key' : Word) (value : Option Word) (r : Reference) :
    (r.put key value).entry key' = if key' = key then value else r.entry key' :=
  Function.update_apply r.entry key value key'

/-- The reference serves a request. -/
def Reference.step (r : Reference) : Except String Request → Answer × Reference
  | .error message => (.refused message, r)
  | .ok (.set key value) => (.done, r.put key (some value))
  | .ok (.get key) =>
    match r.entry key with
    | some value => (.value value, r)
    | none => (.notFound, r)
  | .ok (.del key) =>
    match r.entry key with
    | some _ => (.done, r.put key none)
    | none => (.notFound, r)

/-- The reference behind the interface of a state machine. -/
def Reference.serve (command : Command) (r : Reference) : Except RabiaError Bytes × Reference :=
  let (answer, r') := r.step (Request.read command.data)
  (.ok answer.bytes, r')

/-- The map has the entries of the reference and no others. -/
structure Represents (sm : InMemoryStateMachine codecs) (r : Reference) : Prop where
  entry : ∀ key : Word, sm.state.lookup key.text = (r.entry key).map fun value => encode value.text
  keys : ∀ k v, sm.state.lookup k = some v → ∃ key : Word, key.text = k
  version : sm.version = r.changes % u64Size

theorem represents_new (order : List String) :
    Represents (new order : InMemoryStateMachine codecs) {} where
  entry _ := Finmap.lookup_empty _
  keys _ _ impossible := by
    rw [new, Finmap.lookup_empty] at impossible
    cases impossible
  version := rfl

variable {sm sm' : InMemoryStateMachine codecs} {r : Reference}

theorem Represents.put (represents : Represents sm r) {key : Word} {value : Option Word}
    (state : ∀ k, sm'.state.lookup k =
      if k = key.text then value.map fun value => encode value.text else sm.state.lookup k)
    (version : sm'.version = (sm.version + 1) % u64Size) : Represents sm' (r.put key value) where
  entry key' := by
    rw [state, Reference.entry_put]
    by_cases same : key' = key
    · rw [same, if_pos rfl, if_pos rfl]
    · rw [if_neg fun texts => same (Word.ext texts), if_neg same]
      exact represents.entry key'
  keys k v found := by
    rw [state] at found
    split at found
    · next same => exact ⟨key, same.symm⟩
    · exact represents.keys k v found
  version := by
    rw [version, represents.version, Nat.mod_add_mod]
    rfl

/-- The machine does what the reference does. -/
theorem Represents.apply (represents : Represents sm r) (command : Command) :
    (applyCommand sm command).1 = (Reference.serve command r).1 ∧
      Represents (applyCommand sm command).2 (Reference.serve command r).2 := by
  unfold applyCommand Reference.serve Request.read
  rw [← Text.map_text_words]
  generalize words (decodeLossy command.data) = ws
  match ws with
  | [] | [_] | _ :: _ :: _ :: _ :: _ => exact ⟨rfl, represents⟩
  | [name, key, value] =>
      simp only [List.map_cons, List.map_nil]
      split
      · refine ⟨rfl, Represents.put represents (fun k => ?_) rfl⟩
        exact Table.lookup_insert key.text k (encode value.text) sm.state
      · exact ⟨rfl, represents⟩
  | [name, key] =>
      simp only [List.map_cons, List.map_nil, represents.entry key]
      split
      · cases found : r.entry key with
        | none => simp only [Option.map_none, Reference.step, found]; exact ⟨rfl, represents⟩
        | some value => simp only [Option.map_some, Reference.step, found]; exact ⟨rfl, represents⟩
      · split
        · cases found : r.entry key with
          | none => simp only [Option.map_none, Reference.step, found]; exact ⟨rfl, represents⟩
          | some value =>
              simp only [Option.map_some, Reference.step, found]
              refine ⟨rfl, Represents.put represents (fun k => ?_) rfl⟩
              exact Table.lookup_erase key.text k sm.state
        · exact ⟨rfl, represents⟩

/-- The machine is a partial function from words to words: whatever bytes the commands are, it
answers as the reference does and is left with its entries, and a request is read as what its
client wrote. -/
theorem in_memory_serves (codecs : InMemoryCodecs) (order : List String)
    (commands : List Command) :
    answers (fun command sm => applyCommand sm command)
        (new order : InMemoryStateMachine codecs) commands =
      answers Reference.serve {} commands ∧
    Represents
      (leave (fun command sm => applyCommand sm command)
        (new order : InMemoryStateMachine codecs) commands)
      (leave Reference.serve {} commands) ∧
    ∀ request : Request, Request.read request.data = .ok request := by
  obtain ⟨alike, represents⟩ := answers_eq_of_simulation (R := @Represents codecs)
    (fun command sm r represents => represents.apply command) (represents_new order) commands
  exact ⟨alike, represents, Request.read_data⟩

end InMemoryStateMachine

end Rabia
