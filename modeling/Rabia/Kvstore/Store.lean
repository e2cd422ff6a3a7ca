import Rabia.Core.Types
import Rabia.Kvstore.Notifications
import Rabia.Kvstore.Operations
import Rabia.Lib.Proc
import Rabia.Lib.Table
import Mathlib.Data.String.Basic

/-!
# The key-value store

`rabia-kvstore/src/store.rs`. A method is a `Proc` on the store whose effects are
the notifications that it publishes. What the environment decides is a parameter:
the readings of the system clock, the order in which a hash map is walked, and
the hasher. The length of a Rust string is its length in bytes.
-/

namespace Rabia

open Rabia.Lib

/-- The fields of `KVStoreConfig` that the store reads. -/
structure KVStoreConfig where
  maxKeys : Nat
  enableNotifications : Bool
  maxValueSize : Nat
deriving DecidableEq, Repr

/-- `KVStoreConfig::default`. -/
def KVStoreConfig.default : KVStoreConfig where
  maxKeys := 1000000
  enableNotifications := true
  maxValueSize := 1024 * 1024

/-- Value entry in the store with metadata. -/
structure ValueEntry where
  value : String
  version : Nat
  createdAt : Nat
  updatedAt : Nat
  size : Nat
deriving DecidableEq, Repr

namespace ValueEntry

/-- `ValueEntry::new`, when the clock reads `now`. -/
def new (now : Nat) (value : String) : ValueEntry where
  value := value
  version := 1
  createdAt := now
  updatedAt := now
  size := value.utf8ByteSize

/-- `ValueEntry::update`. -/
def update (now : Nat) (newValue : String) (entry : ValueEntry) : ValueEntry where
  value := newValue
  version := (entry.version + 1) % u64Size
  createdAt := entry.createdAt
  updatedAt := now
  size := newValue.utf8ByteSize

end ValueEntry

/-- Store statistics. -/
structure StoreStats where
  totalOperations : Nat := 0
  lastSnapshotAt : Nat := 0
  operationsSinceSnapshot : Nat := 0
deriving DecidableEq, Repr

/-- Snapshot of the store state. -/
structure StoreSnapshot where
  data : Table String ValueEntry
  version : Nat
  createdAt : Nat
  checksum : Nat
deriving DecidableEq

/-- The store. -/
@[ext] structure KVStore where
  config : KVStoreConfig
  data : Table String ValueEntry
  stats : StoreStats
  /-- The global version counter, an `AtomicU64`. -/
  version : Nat
deriving DecidableEq

/-- The readings of the system clock in one call. -/
structure Clock where
  /-- In `ValueEntry::new` and `ValueEntry::update`. -/
  entry : Nat
  /-- For the timestamp of the notification or of the snapshot. -/
  notice : Nat

/-- `std::hash::Hasher`, as far as the checksum uses it: what is written is folded
into a state, from which `finish` takes the result. -/
structure Hasher (η : Type) where
  new : η
  writeStr : String → η → η
  writeU64 : Nat → η → η
  finish : η → Nat

namespace KVStore

/-- A method of the store. -/
abbrev Method := Proc StoreError KVStore ChangeNotification

/-- `KVStore::new`. -/
def new (config : KVStoreConfig) : KVStore := ⟨config, ∅, {}, 0⟩

/-! ## Helpers -/

/-- `validate_key`. -/
def validateKey (key : String) : Except StoreError Unit :=
  if key.isEmpty then
    .error (.invalidKey "Key cannot be empty")
  else if key.utf8ByteSize > 256 then
    .error (.invalidKey "Key too long")
  else
    .ok ()

/-- `validate_value`. -/
def validateValue (config : KVStoreConfig) (value : String) : Except StoreError Unit :=
  if value.utf8ByteSize > config.maxValueSize then .error .valueTooLarge else .ok ()

/-- `increment_operation_count`. -/
def incrementOperationCount (s : KVStore) : KVStore :=
  { s with stats := { s.stats with
      totalOperations := (s.stats.totalOperations + 1) % u64Size
      operationsSinceSnapshot := (s.stats.operationsSinceSnapshot + 1) % u64Size } }

/-- `get_version`: take a version; `fetch_add` wraps. -/
def getVersion : Method Nat := do
  let version ← Proc.read KVStore.version
  Proc.modify fun s => { s with version := (s.version + 1) % u64Size }
  return version

/-- `size`. -/
def size (s : KVStore) : Nat := s.data.size

/-- Build a notification and publish it. -/
def publish (clock : Clock) (key : String) (changeType : ChangeType)
    (oldValue newValue : Option String) : Method Unit := do
  let version ← getVersion
  Proc.emit { key, changeType, oldValue, newValue, version, timestamp := clock.notice }

/-! ## Single operations -/

/-- The block of `set` that writes the entry and returns the old value. -/
def write (clock : Clock) (key value : String) : Method (Option String) := do
  match ← Proc.read fun s => s.data.lookup key with
  | some entry =>
    Proc.modify fun s => { s with data := s.data.insert key (entry.update clock.entry value) }
    return some entry.value
  | none =>
    if ← Proc.read fun s => decide (s.size ≥ s.config.maxKeys) then
      Proc.throw .storeFull
    else
      Proc.modify fun s => { s with data := s.data.insert key (.new clock.entry value) }
      return none

/-- `set`. -/
def set (clock : Clock) (key value : String) : Method KVResult := do
  Proc.ofExcept (validateKey key)
  let config ← Proc.read KVStore.config
  Proc.ofExcept (validateValue config value)
  let oldValue ← write clock key value
  Proc.modify incrementOperationCount
  if config.enableNotifications then
    let changeType := if oldValue.isSome then .updated else .created
    publish clock key changeType oldValue (some value)
  return .success

/-- `get`. -/
def get (key : String) : Method (Option String) := do
  Proc.ofExcept (validateKey key)
  let result ← Proc.read fun s => (s.data.lookup key).map ValueEntry.value
  Proc.modify incrementOperationCount
  return result

/-- `get_with_metadata`. -/
def getWithMetadata (key : String) : Method (Option ValueEntry) := do
  Proc.ofExcept (validateKey key)
  let result ← Proc.read fun s => s.data.lookup key
  Proc.modify incrementOperationCount
  return result

/-- `delete`. -/
def delete (clock : Clock) (key : String) : Method KVResult := do
  Proc.ofExcept (validateKey key)
  let oldValue ← Proc.read fun s => (s.data.lookup key).map ValueEntry.value
  Proc.modify fun s => { s with data := s.data.erase key }
  Proc.modify incrementOperationCount
  let config ← Proc.read KVStore.config
  if config.enableNotifications && oldValue.isSome then
    publish clock key .deleted oldValue none
  return if oldValue.isSome then .success else .notFound

/-- `exists`. -/
def keyExists (key : String) : Method Bool := do
  Proc.ofExcept (validateKey key)
  let found ← Proc.read fun s => decide (key ∈ s.data)
  Proc.modify incrementOperationCount
  return found

/-- `key.starts_with(prefix)`, for an optional prefix. -/
def StartsWith (keyPrefix : Option String) (key : String) : Prop :=
  ∀ p ∈ keyPrefix, p.toList <+: key.toList

instance (keyPrefix : Option String) (key : String) : Decidable (StartsWith keyPrefix key) :=
  inferInstanceAs (Decidable (∀ p ∈ keyPrefix, p.toList <+: key.toList))

/-- `keys`, when the map is walked in the order of `order`. -/
def keys (order : List String) (keyPrefix : Option String) : Method (List String) := do
  let keys ← Proc.read fun s =>
    (iterate order s.data.keys).filter fun key => StartsWith keyPrefix key
  Proc.modify incrementOperationCount
  return keys

/-- `clear`. -/
def clear (clock : Clock) : Method KVResult := do
  let oldSize ← Proc.read KVStore.size
  Proc.modify fun s => { s with data := ∅ }
  Proc.modify incrementOperationCount
  let config ← Proc.read KVStore.config
  if config.enableNotifications && decide (oldSize > 0) then
    publish clock "*" .cleared (some s!"{oldSize} keys") none
  return .success

/-! ## Batches -/

/-- One round of the loop of `apply_batch`. -/
def applyOperation (clock : Clock) : KVOperation → Method KVResult
  | .set key value => set clock key value
  | .get key => do
    let value ← get key
    return if value.isSome then .success else .notFound
  | .delete key => delete clock key
  | .exists key => do
    let found ← keyExists key
    return if found then .success else .notFound

/-- `apply_batch`, with the clock readings of each operation. -/
def applyBatch : List (Clock × KVOperation) → Method (List KVResult)
  | [] => pure []
  | (clock, operation) :: operations => do
    let result ← applyOperation clock operation
    let results ← applyBatch operations
    return result :: results

/-! ## Snapshots -/

section Snapshots

variable {η : Type} (hasher : Hasher η) (order : List String)

/-- What one round of the loop of `calculate_checksum` writes. -/
def hashEntry (state : η) (item : String × ValueEntry) : η :=
  hasher.writeU64 item.2.version (hasher.writeStr item.2.value (hasher.writeStr item.1 state))

/-- `calculate_checksum` of a map that is walked in the order of `order`. -/
def calculateChecksum (data : Table String ValueEntry) : Nat :=
  hasher.finish ((Table.walk order data).foldl (hashEntry hasher) hasher.new)

/-- `create_snapshot`. -/
def createSnapshot (clock : Clock) : Method StoreSnapshot := do
  let data ← Proc.read KVStore.data
  let version ← getVersion
  let checksum := calculateChecksum hasher order data
  Proc.modify fun s => { s with stats := { s.stats with
    lastSnapshotAt := clock.notice, operationsSinceSnapshot := 0 } }
  return { data, version, createdAt := clock.notice, checksum }

/-- `restore_snapshot`. -/
def restoreSnapshot (snapshot : StoreSnapshot) : Method Unit := do
  if calculateChecksum hasher order snapshot.data ≠ snapshot.checksum then
    Proc.throw .invalidSnapshot
  else
    Proc.modify fun s => { s with data := ∅ }
    (Table.walk order snapshot.data).forM fun item =>
      Proc.modify fun s => { s with data := s.data.insert item.1 item.2 }
    Proc.modify fun s => { s with version := snapshot.version }

end Snapshots

end KVStore

end Rabia
