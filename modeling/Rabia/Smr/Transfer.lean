import Rabia.Lib.Codec
import Rabia.Smr.Counter
import Rabia.Smr.Replicas

/-!
# State transfer

The `StateMachine` trait of `rabia-core/src/smr.rs` and its implementations in
`examples/counter_smr`, `examples/kvstore_smr` and `examples/banking_smr`: a replica that
takes over the serialized state of another cannot be told from it afterwards, by what it
answers or by its state, whatever it held before.
-/

namespace Rabia

open Rabia.Lib

/-- The `StateMachine` trait. A command comes with what the environment supplies to it;
`apply_commands` applies one after another in all implementations. -/
structure SmrStateMachine (σ κ ρ S : Type) where
  applyCommand : κ → σ → ρ × σ
  getState : σ → S
  setState : S → σ → σ

/-- `bincode` on the states of a machine, whose maps are walked in the order of a list. -/
structure StateFormat (S : Type) where
  serialize : List String → S → Option Bytes
  deserialize : Bytes → Except String S

/-- What was serialized is deserialized, and no state is written in no bytes. -/
structure StateFormat.Lawful {S : Type} (format : StateFormat S) : Prop where
  roundTrip : ∀ {order state bytes}, format.serialize order state = some bytes →
    format.deserialize bytes = .ok state
  nonempty : ∃ err, format.deserialize [] = .error err

namespace SmrStateMachine

variable {σ κ ρ S : Type} (m : SmrStateMachine σ κ ρ S) (format : StateFormat S)

/-- `serialize_state`, which hides a failure. -/
def serializeState (order : List String) (s : σ) : Bytes :=
  (format.serialize order (m.getState s)).getD []

/-- `deserialize_state`. -/
def deserializeState (data : Bytes) (s : σ) : Except String Unit × σ :=
  match format.deserialize data with
  | .ok state => (.ok (), m.setState state s)
  | .error err => (.error err, s)

/-- Whatever commands follow, both answer alike and have the same state. -/
def Indistinguishable (s t : σ) : Prop :=
  ∀ is, answers m.applyCommand s is = answers m.applyCommand t is ∧
    m.getState (leave m.applyCommand s is) = m.getState (leave m.applyCommand t is)

/-- The target takes over the state of the source, or it is told that it does not, and stays as
it is: then the source could not serialize its state. -/
def Transfers (order : List String) (source target : σ) : Prop :=
  match m.deserializeState format (m.serializeState format order source) target with
  | (.ok (), t) => m.Indistinguishable source t
  | (.error _, t) => t = target ∧ format.serialize order (m.getState source) = none

variable {m format}

/-- A transfer is sound when it leaves states that a bisimulation relates. -/
theorem transfers_of_bisimulation (lawful : format.Lawful) {R : σ → σ → Prop}
    (steps : ∀ i s t, R s t →
      (m.applyCommand i s).1 = (m.applyCommand i t).1 ∧
        R (m.applyCommand i s).2 (m.applyCommand i t).2)
    (shows : ∀ s t, R s t → m.getState s = m.getState t) {source target : σ}
    (takes : R source (m.setState (m.getState source) target)) (order : List String) :
    m.Transfers format order source target := by
  unfold Transfers deserializeState serializeState
  cases written : format.serialize order (m.getState source) with
  | none =>
      obtain ⟨err, failed⟩ := lawful.nonempty
      rw [Option.getD_none, failed]
      exact ⟨rfl, rfl⟩
  | some bytes =>
      rw [Option.getD_some, lawful.roundTrip written]
      intro is
      obtain ⟨alike, related⟩ := answers_eq_of_simulation steps takes is
      exact ⟨alike, shows _ _ related⟩

/-- A machine that is all state. -/
theorem transfers_of_eq (lawful : format.Lawful) {source target : σ}
    (takes : m.setState (m.getState source) target = source) (order : List String) :
    m.Transfers format order source target :=
  transfers_of_bisimulation lawful (R := Eq) (fun i s t same => by rw [same]; exact ⟨rfl, rfl⟩)
    (fun s t same => by rw [same]) takes.symm order

end SmrStateMachine

/-! ## The machines -/

/-- `CounterSMR`. -/
def CounterSMR.smr : SmrStateMachine CounterState CounterCommand CounterResponse CounterState where
  applyCommand := applyCommand
  getState s := s
  setState state _ := state

/-- `BankingSMR`. -/
def BankingSMR.smr (overflowChecks : Bool) :
    SmrStateMachine BankingState (BankingCommand × BankingEnv) (Option BankingResponse)
      BankingState where
  applyCommand := machine overflowChecks
  getState := getState
  setState state _ := state

namespace KVStoreSMR

open KVStore

/-- `set_all_data`, when the map is walked in the order of `order`. -/
def setAllData (order : List String) (data : Table String ValueEntry) (s : KVStore) : KVStore :=
  { s with data := Table.writeAll (Table.walk order data) ∅ }

/-- `set_version`. -/
def setVersion (version : Nat) (s : KVStore) : KVStore := { s with version := version }

/-- `set_state`. -/
def setState (order : List String) (state : KVStoreState) (s : KVStore) : KVStore :=
  setVersion state.version (setAllData order state.data s)

/-- `KVStoreSMR`, whose `set_state` walks a map in the order of `order`. -/
def smr (order : List String) :
    SmrStateMachine KVStore (KVOperation × Clock) KVResult KVStoreState where
  applyCommand := machine
  getState := getState
  setState := setState order

/-- The stores differ in their statistics only, which are not transferred. -/
structure SameContents (s t : KVStore) : Prop where
  config : s.config = t.config
  data : s.data = t.data
  version : s.version = t.version

theorem SameContents.apply {s t : KVStore} (same : SameContents s t) (i : KVOperation × Clock) :
    (machine i s).1 = (machine i t).1 ∧ SameContents (machine i s).2 (machine i t).2 := by
  obtain ⟨command, clock⟩ := i
  obtain ⟨config, data, stats, version⟩ := s
  obtain ⟨config', data', stats', version'⟩ := t
  obtain ⟨rfl, rfl, rfl⟩ := same
  show (applyCommand clock command _).1 = (applyCommand clock command _).1 ∧
    SameContents (applyCommand clock command _).2 (applyCommand clock command _).2
  rw [applyCommand_eq, applyCommand_eq]
  have admitted : admits ⟨config, data, stats, version⟩ (callOf command) =
      admits ⟨config, data, stats', version⟩ (callOf command) := by
    cases command <;> rfl
  have changed : change ⟨config, data, stats, version⟩ (callOf command) =
      change ⟨config, data, stats', version⟩ (callOf command) := by
    cases command <;> rfl
  have replied : reply ⟨config, data, stats, version⟩ (callOf command) =
      reply ⟨config, data, stats', version⟩ (callOf command) := by
    cases command <;> rfl
  rw [admitted, changed, replied]
  cases admits ⟨config, data, stats', version⟩ (callOf command) with
  | error e => exact ⟨rfl, rfl, rfl, rfl⟩
  | ok _ => exact ⟨rfl, rfl, rfl, rfl⟩

theorem sameContents_setState (order : List String) {source target : KVStore}
    (config : target.config = source.config) :
    SameContents source (setState order (getState source) target) :=
  ⟨config.symm, (Table.writeAll_walk order source.data).symm, rfl⟩

end KVStoreSMR

/-- State transfer is complete. For every implementation, whatever the source has done so far and
whatever the target held, `deserialize_state` of what `serialize_state` gave leaves a target
that nobody can tell from the source, by its answers to whatever commands follow or by its
state; or it fails and leaves the target alone, because the source could not serialize its
state. A store takes over everything but its configuration, which has to be the same. -/
theorem state_transfer_complete {stores : StateFormat KVStoreState}
    {banks : StateFormat BankingState} {counters : StateFormat CounterState}
    (lawfulStores : stores.Lawful) (lawfulBanks : banks.Lawful)
    (lawfulCounters : counters.Lawful) (order walked : List String) :
    (∀ source target : KVStore, target.config = source.config →
      (KVStoreSMR.smr walked).Transfers stores order source target) ∧
    (∀ (overflowChecks : Bool) (source target : BankingState),
      (BankingSMR.smr overflowChecks).Transfers banks order source target) ∧
    ∀ source target : CounterState, CounterSMR.smr.Transfers counters order source target := by
  refine ⟨fun source target config => ?_, fun overflowChecks source target => ?_,
    fun source target => ?_⟩
  · refine SmrStateMachine.transfers_of_bisimulation lawfulStores (R := KVStoreSMR.SameContents)
      (fun i s t same => same.apply i) ?_
      (KVStoreSMR.sameContents_setState walked config) order
    intro s t same
    show KVStoreSMR.getState s = KVStoreSMR.getState t
    rw [KVStoreSMR.getState, same.data, same.version]
    rfl
  · exact SmrStateMachine.transfers_of_eq lawfulBanks rfl order
  · exact SmrStateMachine.transfers_of_eq lawfulCounters rfl order

/-- `bincode` on one state: any other is refused. -/
def StateFormat.only {S : Type} [DecidableEq S] (state : S) (bytes : Bytes) : StateFormat S where
  serialize _ other := if other = state then some bytes else none
  deserialize data := if data = bytes then .ok state else .error "io error"

theorem StateFormat.only_lawful {S : Type} [DecidableEq S] (state : S) (bytes : Bytes)
    (written : bytes ≠ []) : (only state bytes).Lawful where
  roundTrip {order other data} h := by
    unfold only at h ⊢
    dsimp only at h ⊢
    split at h
    · rename_i same
      cases h
      rw [if_pos rfl, same]
    · cases h
  nonempty := ⟨_, if_neg written.symm⟩

/-- A store with one entry, a bank and a counter are taken over. -/
theorem state_transfer_complete_entry :
    let state : KVStoreState := ⟨Finmap.singleton "k" ⟨"v", 1, 7, 7, 1⟩, 1⟩
    let stores := StateFormat.only state
      (toLE 8 1 ++ toLE 8 1 ++ [107] ++ toLE 8 1 ++ [118] ++ toLE 8 1 ++ toLE 8 7 ++ toLE 8 7 ++
        toLE 8 1 ++ toLE 8 1)
    let source := ((KVStoreSMR.smr []).applyCommand (.set "k" "v", ⟨7, 7⟩) (.new .default)).2
    let target := ((KVStoreSMR.smr []).applyCommand (.set "w" "u", ⟨9, 9⟩) (.new .default)).2
    KVStoreSMR.getState source = state ∧
      (KVStoreSMR.smr []).Transfers stores [] source target ∧
      (BankingSMR.smr true).Transfers (.only {} (toLE 8 0 ++ toLE 8 0 ++ toLE 8 0)) [] {} {} ∧
      CounterSMR.smr.Transfers (.only ⟨5, 1⟩ (toLE 8 5 ++ toLE 8 1)) [] ⟨5, 1⟩ {} := by
  intro state stores source target
  have written : stores.Lawful := StateFormat.only_lawful state _ (by decide)
  obtain ⟨store, bank, counter⟩ := state_transfer_complete written
    (StateFormat.only_lawful {} (toLE 8 0 ++ toLE 8 0 ++ toLE 8 0) (by decide))
    (StateFormat.only_lawful ⟨5, 1⟩ (toLE 8 5 ++ toLE 8 1) (by decide)) [] []
  exact ⟨by decide, store source target rfl, bank true {} {}, counter ⟨5, 1⟩ {}⟩

end Rabia
