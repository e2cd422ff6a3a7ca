import Rabia.Kvstore.Calls

/-!
# Batches

`apply_batch` makes one call after another and leaves at the first refusal, with what
the calls before it did. Which calls these are depends on the keys of the store only
(`accepted`), and what they leave at a key on the writes to it only (`foldr_put`). So
a batch fails without a trace exactly when the operations before the first refused one
say nothing to subscribers and cancel each other at every key
(`applyBatch_atomic_iff`).
-/

namespace Rabia

open Rabia.Lib

namespace KVStore

/-! ## Which operations are made -/

/-- A store that holds these keys refuses the operation. -/
def Refuses (config : KVStoreConfig) (keys : Finset String) : KVOperation → Prop
  | .set key value =>
    validateKey key ≠ .ok () ∨ validateValue config value ≠ .ok () ∨
      (key ∉ keys ∧ keys.card ≥ config.maxKeys)
  | .get key | .delete key | .exists key => validateKey key ≠ .ok ()

instance (config : KVStoreConfig) (keys : Finset String) (operation : KVOperation) :
    Decidable (Refuses config keys operation) := by
  cases operation <;> unfold Refuses <;> infer_instance

/-- The keys after an operation. -/
def keysAfter (keys : Finset String) : KVOperation → Finset String
  | .set key _ => insert key keys
  | .delete key => keys.erase key
  | .get _ | .exists _ => keys

/-- The operations before the first that is refused. -/
def accepted (config : KVStoreConfig) : Finset String → List KVOperation → List KVOperation
  | _, [] => []
  | keys, operation :: operations =>
    if Refuses config keys operation then []
    else operation :: accepted config (keysAfter keys operation) operations

theorem admits_ok_iff {s : KVStore} {operation : KVOperation} :
    s.admits (callOf operation) = .ok () ↔ ¬ Refuses s.config s.data.keys operation := by
  cases operation with
  | set key value =>
      show s.admits (.set key value) = .ok () ↔ _
      rw [admits_set]
      simp only [Refuses, Finmap.mem_keys, size, Table.size, not_or, not_and, Ne, not_not]
      constructor
      · rintro ⟨keyOk, valueOk, room⟩
        refine ⟨keyOk, valueOk, fun absent => ?_⟩
        have below := room.resolve_left absent
        omega
      · rintro ⟨keyOk, valueOk, room⟩
        refine ⟨keyOk, valueOk, ?_⟩
        by_cases present : key ∈ s.data
        · exact .inl present
        · have below := room present
          exact .inr (by omega)
  | get key | delete key | «exists» key => exact not_not.symm

theorem keys_after (clock : Clock) (s : KVStore) (operation : KVOperation) :
    (s.after clock (s.change (callOf operation))).data.keys =
      keysAfter s.data.keys operation := by
  cases operation with
  | set key value =>
      show (s.after clock (s.change (.set key value))).data.keys = insert key s.data.keys
      rw [data_after_set, Table.keys_insert]
  | delete key =>
      show (s.after clock (s.change (.delete key))).data.keys = s.data.keys.erase key
      rw [data_after_delete, Finmap.keys_erase]
  | get key | «exists» key => rfl

/-! ## What they leave at a key -/

/-- The value and the version at a key. -/
def content (s : KVStore) (key : String) : Option (String × Nat) :=
  (s.data.lookup key).map fun entry => (entry.value, entry.version)

/-- The writes to a key: a value, or none for a delete. -/
def write? (key : String) : KVOperation → Option (Option String)
  | .set k value => if k = key then some (some value) else none
  | .delete k => if k = key then some none else none
  | .get _ | .exists _ => none

/-- The writes of a batch to a key, the latest first. -/
def writes (key : String) (operations : List KVOperation) : List (Option String) :=
  (operations.filterMap (write? key)).reverse

/-- One write. -/
def put (write : Option String) (before : Option (String × Nat)) : Option (String × Nat) :=
  write.map fun value => (value, ((before.elim 0 Prod.snd) + 1) % u64Size)

/-- The values set since the last delete, the latest first. -/
def setsSinceDelete : List (Option String) → List String
  | some value :: earlier => value :: setsSinceDelete earlier
  | _ => []

/-- The writes, the latest first, leave a key as it was: there are none; or the last is a
delete and nothing was there; or it sets the value that was there and the sets, counted
from the last delete or else on from the version, make its version. -/
def Cancels (before : Option (String × Nat)) : List (Option String) → Prop
  | [] => True
  | none :: _ => before = none
  | some value :: earlier => ∃ version, before = some (value, version) ∧
      ((if none ∈ earlier then 0 else version) + (setsSinceDelete earlier).length + 1) % u64Size
        = version

theorem foldr_put (before : Option (String × Nat)) (value : String)
    (earlier : List (Option String)) :
    (some value :: earlier).foldr put before =
      some (value, ((if none ∈ earlier then 0 else before.elim 0 Prod.snd) +
        (setsSinceDelete earlier).length + 1) % u64Size) := by
  induction earlier generalizing value with
  | nil => simp [put, setsSinceDelete]
  | cons write earlier ih =>
      rw [List.foldr_cons]
      cases write with
      | none => simp [put, setsSinceDelete]
      | some value' =>
          rw [ih value']
          simp [put, setsSinceDelete]
          congr 1

theorem foldr_put_eq_iff {before : Option (String × Nat)} {ws : List (Option String)} :
    ws.foldr put before = before ↔ Cancels before ws := by
  match ws with
  | [] => simp [Cancels]
  | none :: earlier => simp [Cancels, put, eq_comm]
  | some value :: earlier =>
      rw [foldr_put]
      cases before with
      | none => simp [Cancels]
      | some content =>
          obtain ⟨value', version⟩ := content
          simp only [Cancels, Option.some.injEq, Prod.mk.injEq, Option.elim_some]
          constructor
          · rintro ⟨rfl, same⟩
            exact ⟨version, ⟨rfl, rfl⟩, same⟩
          · rintro ⟨_, ⟨rfl, rfl⟩, same⟩
            exact ⟨rfl, same⟩

theorem content_after (clock : Clock) (s : KVStore) (operation : KVOperation) (key : String) :
    (s.after clock (s.change (callOf operation))).content key =
      ((write? key operation).elim id put) (s.content key) := by
  cases operation with
  | set k value =>
      show ((s.after clock (s.change (.set k value))).data.lookup key).map _ = _
      rw [data_after_set, Table.lookup_insert]
      by_cases same : key = k
      · subst same
        cases found : s.data.lookup key <;>
          simp [write?, put, content, found, entrySet, ValueEntry.update, ValueEntry.new, u64Size]
      · simp [same, Ne.symm same, write?, content]
  | delete k =>
      show ((s.after clock (s.change (.delete k))).data.lookup key).map _ = _
      rw [data_after_delete, Table.lookup_erase]
      by_cases same : key = k
      · simp [same, write?, put]
      · simp [same, Ne.symm same, write?, content]
  | get k | «exists» k => rfl

/-! ## What they publish -/

/-- The operation changes nothing in a store that holds these keys. -/
def Idle (keys : Finset String) : KVOperation → Prop
  | .set _ _ => False
  | .delete key => key ∉ keys
  | .get _ | .exists _ => True

theorem nothingToTell_iff {s : KVStore} {operation : KVOperation} :
    s.NothingToTell (callOf operation) ↔ Idle s.data.keys operation := by
  cases operation with
  | delete key => exact (not_congr Finmap.mem_keys).symm
  | set key value | get key | «exists» key => exact Iff.rfl

theorem keysAfter_of_idle {keys : Finset String} {operation : KVOperation}
    (idle : Idle keys operation) : keysAfter keys operation = keys := by
  cases operation with
  | set key value => exact idle.elim
  | delete key => exact Finset.erase_eq_of_notMem idle
  | get key | «exists» key => rfl

theorem news_eq_nil_iff {clock : Clock} {s : KVStore} {operation : KVOperation} :
    s.news clock (s.change (callOf operation)) = [] ↔
      (s.config.enableNotifications → Idle s.data.keys operation) := by
  rw [← nothingToTell_iff, ← change_eq_none_iff]
  unfold news
  cases s.config.enableNotifications <;> simp

/-! ## A whole batch -/

/-- What a batch does, told by the operations before the first that is refused. -/
structure Ran (s : KVStore) (operations : List KVOperation)
    (o : Outcome StoreError KVStore ChangeNotification (List KVResult)) : Prop where
  failed : (∃ err, o.result = .error err) ↔
    accepted s.config s.data.keys operations ≠ operations
  contents : ∀ key, o.state.content key =
    (writes key (accepted s.config s.data.keys operations)).foldr put (s.content key)
  published : o.effects = [] ↔
    (s.config.enableNotifications →
      ∀ operation ∈ accepted s.config s.data.keys operations, Idle s.data.keys operation)

/-- A refused operation ends a batch. -/
theorem ran_refused {s : KVStore} {operation : KVOperation}
    (refused : Refuses s.config s.data.keys operation) (operations : List KVOperation)
    (err : StoreError) : Ran s (operation :: operations) ⟨.error err, s, []⟩ := by
  have stopped : accepted s.config s.data.keys (operation :: operations) = [] := if_pos refused
  refine ⟨?_, fun key => ?_, ?_⟩
  · simp [stopped]
  · rw [stopped]
    rfl
  · simp [stopped]

/-- An operation that is not refused hands its store on to the rest of the batch. -/
theorem ran_accepted {s : KVStore} {operation : KVOperation}
    (admitted : ¬ Refuses s.config s.data.keys operation) (clock : Clock) (result : KVResult)
    {operations : List KVOperation}
    {o : Outcome StoreError KVStore ChangeNotification (List KVResult)}
    (rest : Ran (s.after clock (s.change (callOf operation))) operations o) :
    Ran s (operation :: operations)
      ⟨o.result.map fun results => result :: results, o.state,
        s.news clock (s.change (callOf operation)) ++ o.effects⟩ := by
  have goes_on : accepted s.config s.data.keys (operation :: operations) =
      operation :: accepted s.config (keysAfter s.data.keys operation) operations :=
    if_neg admitted
  obtain ⟨failed, contents, published⟩ := rest
  rw [after_config, keys_after] at failed published
  refine ⟨?_, fun key => ?_, ?_⟩
  · rw [goes_on, Ne, List.cons.injEq, and_iff_right rfl, ← Ne, ← failed]
    cases o.result <;> simp [Except.map]
  · have later := contents key
    rw [after_config, keys_after, content_after] at later
    rw [goes_on, later]
    cases written : write? key operation <;> simp [writes, written]
  · rw [goes_on, List.append_eq_nil_iff, news_eq_nil_iff, published]
    constructor
    · rintro ⟨first, later⟩ on operation' member
      rcases List.mem_cons.mp member with rfl | member
      · exact first on
      · -- an idle operation leaves the keys, so the rest is idle before it too
        have idle := later on operation' member
        rwa [keysAfter_of_idle (first on)] at idle
    · intro idle
      refine ⟨fun on => idle on operation List.mem_cons_self, ?_⟩
      intro on operation' member
      rw [keysAfter_of_idle (idle on operation List.mem_cons_self)]
      exact idle on operation' (List.mem_cons_of_mem _ member)

theorem applyBatch_ran (operations : List (Clock × KVOperation)) (s : KVStore) :
    Ran s (operations.map Prod.snd) (applyBatch operations s) := by
  induction operations generalizing s with
  | nil => exact ⟨by simp [applyBatch, accepted], fun key => rfl, by simp [applyBatch, accepted]⟩
  | cons first operations ih =>
      obtain ⟨clock, operation⟩ := first
      have round := applyOperation_makes clock operation
      show Ran s (operation :: operations.map Prod.snd)
        ((applyOperation clock operation >>= _ : Method _) s)
      cases verdict : s.admits (callOf operation) with
      | error err =>
          have refused : Refuses s.config s.data.keys operation := by
            by_contra admitted
            rw [admits_ok_iff.mpr admitted] at verdict
            cases verdict
          rw [Proc.bind_error (round.error verdict)]
          exact ran_refused refused _ err
      | ok _ =>
          rw [Proc.bind_ok (round.ok verdict), Proc.bind_pure_apply]
          exact ran_accepted (admits_ok_iff.mp verdict) clock _ (ih _)

/-! ## Atomicity -/

/-- A batch that fails leaves keys, values and versions as they were, and nothing was
published. -/
def Atomic (s : KVStore) (operations : List (Clock × KVOperation)) : Prop :=
  ∀ err, (applyBatch operations s).result = .error err →
    (∀ key, (applyBatch operations s).state.content key = s.content key) ∧
      (applyBatch operations s).effects = []

/-- No operation is refused; or those before the first refused one change nothing, or,
without notifications, cancel each other at every key. -/
def Traceless (s : KVStore) (operations : List KVOperation) : Prop :=
  let before := accepted s.config s.data.keys operations
  before = operations ∨
    if s.config.enableNotifications then ∀ operation ∈ before, Idle s.data.keys operation
    else ∀ key, Cancels (s.content key) (writes key before)

/-- Operations that change nothing leave every key as it was. -/
theorem foldr_writes_of_idle {s : KVStore} {operations : List KVOperation}
    (idle : ∀ operation ∈ operations, Idle s.data.keys operation) (key : String) :
    (writes key operations).foldr put (s.content key) = s.content key := by
  have fixed : ∀ write ∈ writes key operations, put write (s.content key) = s.content key := by
    intro write member
    obtain ⟨operation, made, written⟩ := List.mem_filterMap.mp (List.mem_reverse.mp member)
    have quiet := idle operation made
    cases operation with
    | set k value => exact quiet.elim
    | delete k =>
        -- what a delete of an absent key writes is there already
        simp only [write?] at written
        split at written
        · rename_i same
          subst same
          cases written
          have absent : s.data.lookup k = none :=
            Finmap.lookup_eq_none.mpr fun present => quiet (Finmap.mem_keys.mpr present)
          simp [put, content, absent]
        · cases written
    | get k | «exists» k => cases written
  generalize writes key operations = ws at fixed ⊢
  induction ws with
  | nil => rfl
  | cons write earlier ih =>
      rw [List.foldr_cons, ih fun w member => fixed w (List.mem_cons_of_mem write member)]
      exact fixed write List.mem_cons_self

/-- `apply_batch` is atomic on exactly the batches that it makes to the end or whose
operations before the first refused one leave no trace. -/
theorem applyBatch_atomic_iff (s : KVStore) (operations : List (Clock × KVOperation)) :
    Atomic s operations ↔ Traceless s (operations.map Prod.snd) := by
  obtain ⟨failed, contents, published⟩ := applyBatch_ran operations s
  have told : Atomic s operations ↔
      ((∃ err, (applyBatch operations s).result = .error err) →
        (∀ key, (applyBatch operations s).state.content key = s.content key) ∧
          (applyBatch operations s).effects = []) :=
    ⟨fun atomic ⟨err, fails⟩ => atomic err fails, fun atomic err fails => atomic ⟨err, fails⟩⟩
  rw [told, failed, published]
  simp only [contents]
  unfold Traceless
  by_cases complete : accepted s.config s.data.keys (operations.map Prod.snd) =
      operations.map Prod.snd
  · simp [complete]
  · simp only [complete, ne_eq, not_false_eq_true, true_implies, false_or]
    by_cases on : s.config.enableNotifications
    · -- what was published tells of every change
      rw [if_pos on]
      constructor
      · rintro ⟨-, idle⟩
        exact idle on
      · intro idle
        exact ⟨foldr_writes_of_idle idle, fun _ => idle⟩
    · rw [if_neg on]
      constructor
      · rintro ⟨kept, -⟩ key
        exact foldr_put_eq_iff.mp (kept key)
      · intro cancels
        exact ⟨fun key => foldr_put_eq_iff.mpr (cancels key), fun on' => absurd on' on⟩

/-- The first operation stays, and was announced, though the batch fails. -/
theorem failed_batch_leaves_key :
    ¬ Atomic (new .default) [(⟨0, 0⟩, .set "a" "1"), (⟨0, 0⟩, .set "" "2")] := by
  intro atomic
  have kept := (atomic (.invalidKey "Key cannot be empty") rfl).2
  cases kept

end KVStore

end Rabia
