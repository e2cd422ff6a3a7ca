import Rabia.Lib.Replicas
import Rabia.Smr.KVStoreSMR
import Rabia.Smr.Payments

/-!
# Replicas of the state machines

Both state machines say of themselves that they are deterministic, and both put readings of
the local clock into the state that is replicated; the bank also draws its transaction ids.
Two replicas that apply the same commands stay identical exactly as long as what they
record of their environments happens to be the same.
-/

namespace Rabia

open Rabia.Lib

/-! ## The key-value store -/

namespace KVStoreSMR

open KVStore

def machine (i : KVOperation × Clock) (s : KVStore) : KVResult × KVStore :=
  applyCommand i.2 i.1 s

/-- The clocks read the same when an entry is written. -/
def Agrees (s : KVStore) (i : Shared KVOperation Clock) : Prop :=
  match i.command with
  | .set key value => s.admits (.set key value) = .ok () → i.left.entry = i.right.entry
  | _ => True

theorem entrySet_inj {now now' : Nat} {value : String} {old : Option ValueEntry} :
    entrySet now value old = entrySet now' value old ↔ now = now' := by
  constructor
  · intro same
    cases old with
    | none => exact congrArg ValueEntry.updatedAt same
    | some entry => exact congrArg ValueEntry.updatedAt same
  · rintro rfl
    rfl

/-- What a command leaves differs in the contents only. -/
theorem after_congr {clock clock' : Clock} {change : Option Change} {s : KVStore} :
    s.after clock change = s.after clock' change ↔
      (s.after clock change).data = (s.after clock' change).data :=
  ⟨fun same => congrArg KVStore.data same, fun same => KVStore.ext rfl same rfl rfl⟩

theorem getState_after_congr {clock clock' : Clock} {change : Option Change} {s : KVStore} :
    getState (s.after clock change) = getState (s.after clock' change) ↔
      s.after clock change = s.after clock' change := by
  rw [after_congr]
  constructor
  · intro same
    exact congrArg KVStoreState.data same
  · intro same
    unfold getState
    rw [same]
    rfl

theorem after_agrees_iff {clock clock' : Clock} {s : KVStore} (command : KVOperation) :
    s.after clock (s.change (callOf command)) = s.after clock' (s.change (callOf command)) ↔
      match command with
      | .set _ _ => clock.entry = clock'.entry
      | _ => True := by
  rw [after_congr]
  cases command with
  | set key value =>
      show (s.after clock (s.change (.set key value))).data =
        (s.after clock' (s.change (.set key value))).data ↔ _
      rw [data_after_set, data_after_set, Table.insert_inj, entrySet_inj]
  | delete key =>
      refine iff_of_true ?_ trivial
      show (s.after clock (s.change (.delete key))).data =
        (s.after clock' (s.change (.delete key))).data
      rw [data_after_delete, data_after_delete]
  | get key => exact iff_of_true rfl trivial
  | «exists» key => exact iff_of_true rfl trivial

theorem agrees_iff (s : KVStore) (i : Shared KVOperation Clock) :
    Agrees s i ↔ (machine i.onLeft s).1 = (machine i.onRight s).1 ∧
      (machine i.onLeft s).2 = (machine i.onRight s).2 := by
  obtain ⟨command, left, right⟩ := i
  show _ ↔ (applyCommand left command s).1 = (applyCommand right command s).1 ∧
    (applyCommand left command s).2 = (applyCommand right command s).2
  rw [applyCommand_eq, applyCommand_eq]
  cases admitted : s.admits (callOf command) with
  | error e =>
      refine iff_of_true ?_ ⟨rfl, rfl⟩
      cases command with
      | set key value =>
          intro accepted
          rw [show s.admits (.set key value) = .error e from admitted] at accepted
          cases accepted
      | _ => trivial
  | ok _ =>
      refine Iff.trans ?_ (and_iff_right rfl).symm
      rw [after_agrees_iff]
      cases command with
      | set key value => exact ⟨fun agrees => agrees admitted, fun same _ => same⟩
      | _ => exact Iff.rfl

/-- What a command does to the store shows in its state. -/
theorem getState_congr (s : KVStore) (i : Shared KVOperation Clock) :
    getState (machine i.onLeft s).2 = getState (machine i.onRight s).2 ↔
      (machine i.onLeft s).2 = (machine i.onRight s).2 := by
  obtain ⟨command, left, right⟩ := i
  show getState (applyCommand left command s).2 = getState (applyCommand right command s).2 ↔
    (applyCommand left command s).2 = (applyCommand right command s).2
  rw [applyCommand_eq, applyCommand_eq]
  cases s.admits (callOf command) with
  | error e => exact iff_of_true rfl rfl
  | ok _ => exact getState_after_congr

theorem replicated_iff (config : KVStoreConfig) (is : List (Shared KVOperation Clock)) :
    (∀ served, served <+: is → Replicated machine getState Eq (KVStore.new config) served) ↔
      Along (fun s i => (machine i.onLeft s).2) Agrees (KVStore.new config) is := by
  apply Lib.replicated_iff
  · intro s i
    rw [getState_congr]
    exact agrees_iff s i
  · intro s i agrees
    exact ((agrees_iff s i).mp agrees).2

end KVStoreSMR

/-! ## The bank -/

namespace BankingSMR

variable (overflowChecks : Bool)

def machine (i : BankingCommand × BankingEnv) (s : BankingState) :
    Option BankingResponse × BankingState := applyCommand overflowChecks i.2 i.1 s

/-- The data of two responses are the same, up to the order of a list of accounts. -/
def SameData : Option BankingData → Option BankingData → Prop
  | some (.accounts left), some (.accounts right) => left.Perm right
  | left, right => left = right

/-- Two responses, up to the order of a list of accounts. -/
def Alike : Option BankingResponse → Option BankingResponse → Prop
  | some left, some right =>
    left.success = right.success ∧ SameData left.data right.data ∧ left.error = right.error ∧
      left.transactionId = right.transactionId
  | left, right => left = right

/-- What a deed takes from the environment is the same in both. -/
def Deed.Agrees (left right : BankingEnv) : Deed → Prop
  | .opened _ _ => left.opened = right.opened
  | .paid payment =>
    (payment.source.isSome → left.debited = right.debited) ∧
      (payment.target.isSome → left.credited = right.credited) ∧
      left.recorded = right.recorded ∧ left.transactionId = right.transactionId
  | .stranded _ => left.debited = right.debited
  | .refused _ | .answered _ | .listed => True

def Agrees (s : BankingState) (i : Shared BankingCommand BankingEnv) : Prop :=
  (deed overflowChecks s i.command).Agrees i.left i.right

theorem sameData_refl (data : Option BankingData) : SameData data data := by
  cases data with
  | none => rfl
  | some data =>
      cases data with
      | accounts accounts => exact List.Perm.refl accounts
      | _ => rfl

theorem alike_refl (response : Option BankingResponse) : Alike response response := by
  cases response with
  | none => rfl
  | some response => exact ⟨rfl, sameData_refl response.data, rfl, rfl⟩

variable {overflowChecks} {s : BankingState}

theorem lookup_settle_source {payment : Payment} {leg : Leg} (source : leg ∈ payment.source)
    (apart : ∀ b ∈ payment.target, leg.accountId ≠ b.accountId) (env : BankingEnv)
    (s : BankingState) :
    (payment.settle env s).accounts.lookup leg.accountId =
      some (leg.account.updateBalance env.debited leg.newBalance) :=
  (lookup_settleSide env.credited _ fun b target => (apart b target).symm).trans
    (lookup_settleSide_self env.debited source s)

/-- The readings that a payment puts into the accounts can be read off them. -/
theorem settle_readings {payment : Payment}
    (apart : ∀ a ∈ payment.source, ∀ b ∈ payment.target, a.accountId ≠ b.accountId)
    {left right : BankingEnv} {s : BankingState}
    (same : (payment.settle left s).accounts = (payment.settle right s).accounts) :
    (payment.source.isSome → left.debited = right.debited) ∧
      (payment.target.isSome → left.credited = right.credited) := by
  constructor
  · intro pays
    obtain ⟨leg, source⟩ := Option.isSome_iff_exists.mp pays
    have written := lookup_settle_source source (apart leg source) left s
    rw [same, lookup_settle_source source (apart leg source) right s] at written
    exact (congrArg Account.lastTransactionAt (Option.some_inj.mp written)).symm
  · intro paid
    obtain ⟨leg, target⟩ := Option.isSome_iff_exists.mp paid
    have written := lookup_settleSide_self left.credited target
      (settleSide left.debited payment.source s)
    change (payment.settle left s).accounts.lookup _ = _ at written
    rw [same, Payment.settle, lookup_settleSide_self right.credited target] at written
    exact (congrArg Account.lastTransactionAt (Option.some_inj.mp written)).symm

theorem settleSide_congr {now now' : Nat} {side : Option Leg}
    (same : side.isSome → now = now') (s : BankingState) :
    settleSide now side s = settleSide now' side s := by
  cases side with
  | none => rfl
  | some leg => rw [same rfl]

section Agreement

variable (left right : BankingEnv)

/-- The two replicas cannot be told apart by how they carry the deed out. -/
def SameOutcome (done : Deed) (s : BankingState) : Prop :=
  Alike (done.carryOut left s).1 (done.carryOut right s).1 ∧
    (done.carryOut left s).2 = (done.carryOut right s).2

theorem opened_agrees_iff (accountId : String) (initialBalance : Int64) (s : BankingState) :
    (Deed.opened accountId initialBalance).Agrees left right ↔
      SameOutcome left right (.opened accountId initialBalance) s := by
  constructor
  · intro agrees
    unfold SameOutcome Deed.carryOut
    rw [show left.opened = right.opened from agrees]
    exact ⟨alike_refl _, rfl⟩
  · rintro ⟨⟨-, data, -, -⟩, -⟩
    have same : some (BankingData.account (.new left.opened accountId initialBalance)) =
        some (.account (.new right.opened accountId initialBalance)) := data
    injection same with same
    injection same with same
    exact congrArg Account.createdAt same

theorem paid_agrees_iff {payment : Payment}
    (apart : ∀ a ∈ payment.source, ∀ b ∈ payment.target, a.accountId ≠ b.accountId)
    (s : BankingState) :
    (Deed.paid payment).Agrees left right ↔ SameOutcome left right (.paid payment) s := by
  constructor
  · rintro ⟨debited, credited, recorded, transactionId⟩
    have same : payment.transaction left = payment.transaction right := by
      unfold Payment.transaction
      rw [recorded, transactionId]
    refine ⟨⟨rfl, sameData_refl payment.data, rfl, congrArg some transactionId⟩, ?_⟩
    show record _ _ = record _ _
    rw [Payment.settle, settleSide_congr debited, settleSide_congr credited, same]
    rfl
  · rintro ⟨-, same⟩
    have accounts := congrArg BankingState.accounts same
    change (payment.settle left s).accounts = (payment.settle right s).accounts at accounts
    have records := congrArg BankingState.transactions same
    change (payment.settle left s).transactions ++ [payment.transaction left] =
      (payment.settle right s).transactions ++ [payment.transaction right] at records
    simp only [Payment.settle, settleSide_transactions] at records
    have transaction := List.singleton_inj.mp (List.append_cancel_left records)
    obtain ⟨debited, credited⟩ := settle_readings apart accounts
    exact ⟨debited, credited, congrArg Transaction.timestamp transaction,
      congrArg Transaction.transactionId transaction⟩

theorem stranded_agrees_iff (leg : Leg) (s : BankingState) :
    (Deed.stranded leg).Agrees left right ↔ SameOutcome left right (.stranded leg) s := by
  constructor
  · intro agrees
    unfold SameOutcome Deed.carryOut
    rw [show left.debited = right.debited from agrees]
    exact ⟨rfl, rfl⟩
  · rintro ⟨-, same⟩
    have accounts := congrArg BankingState.accounts same
    have written := Table.insert_inj.mp accounts
    exact congrArg Account.lastTransactionAt written

theorem deed_agrees_iff {command : BankingCommand} {done : Deed}
    (makes : Makes overflowChecks s command done) :
    done.Agrees left right ↔ SameOutcome left right done (count s) := by
  cases done with
  | refused message => exact iff_of_true trivial ⟨alike_refl _, rfl⟩
  | answered data => exact iff_of_true trivial ⟨alike_refl _, rfl⟩
  | listed => exact iff_of_true trivial ⟨⟨rfl, (Table.walk_perm _ _ _).map _, rfl, rfl⟩, rfl⟩
  | opened accountId initialBalance =>
      exact opened_agrees_iff left right accountId initialBalance (count s)
  | paid payment => exact paid_agrees_iff left right makes.apart (count s)
  | stranded leg => exact stranded_agrees_iff left right leg (count s)

end Agreement

theorem agrees_iff (overflowChecks : Bool) (s : BankingState)
    (i : Shared BankingCommand BankingEnv) :
    Agrees overflowChecks s i ↔
      Alike (machine overflowChecks i.onLeft s).1 (machine overflowChecks i.onRight s).1 ∧
        (machine overflowChecks i.onLeft s).2 = (machine overflowChecks i.onRight s).2 := by
  obtain ⟨command, left, right⟩ := i
  show _ ↔ Alike (applyCommand overflowChecks left command s).1
      (applyCommand overflowChecks right command s).1 ∧
    (applyCommand overflowChecks left command s).2 = (applyCommand overflowChecks right command s).2
  rw [applyCommand_eq, applyCommand_eq]
  exact deed_agrees_iff left right (makes_deed overflowChecks s command)

theorem replicated_iff (overflowChecks : Bool) (is : List (Shared BankingCommand BankingEnv)) :
    (∀ served, served <+: is →
        Replicated (machine overflowChecks) getState Alike new served) ↔
      Along (fun s i => (machine overflowChecks i.onLeft s).2) (Agrees overflowChecks) new is :=
  Lib.replicated_iff (agrees_iff overflowChecks)
    (fun s i agrees => ((agrees_iff overflowChecks s i).mp agrees).2) new is

end BankingSMR

/-! ## Both -/

/-- For either state machine, whatever commands two replicas of it apply and in whatever
environments, they stay identical exactly as long as the environments agree on what the
commands record of them: for the store the reading of the clock when an entry is written,
for the bank the readings that go into accounts and transactions and the transaction ids. -/
theorem replicas_identical_iff (config : KVStoreConfig)
    (operations : List (Shared KVOperation Clock)) (overflowChecks : Bool)
    (commands : List (Shared BankingCommand BankingEnv)) :
    ((∀ served, served <+: operations →
          Replicated KVStoreSMR.machine KVStoreSMR.getState Eq (KVStore.new config) served) ↔
        Along (fun s i => (KVStoreSMR.machine i.onLeft s).2) KVStoreSMR.Agrees
          (KVStore.new config) operations) ∧
      ((∀ served, served <+: commands →
          Replicated (BankingSMR.machine overflowChecks) BankingSMR.getState BankingSMR.Alike
            BankingSMR.new served) ↔
        Along (fun s i => (BankingSMR.machine overflowChecks i.onLeft s).2)
          (BankingSMR.Agrees overflowChecks) BankingSMR.new commands) :=
  ⟨KVStoreSMR.replicated_iff config operations, BankingSMR.replicated_iff overflowChecks commands⟩

/-- One command under clocks that differ is enough: the entry, and the account, that it
creates have the time in them. -/
theorem replicas_diverge :
    (¬ ∀ (config : KVStoreConfig) (is : List (Shared KVOperation Clock)),
      Replicated KVStoreSMR.machine KVStoreSMR.getState Eq (KVStore.new config) is) ∧
    ¬ ∀ (overflowChecks : Bool) (is : List (Shared BankingCommand BankingEnv)),
      Replicated (BankingSMR.machine overflowChecks) BankingSMR.getState BankingSMR.Alike
        BankingSMR.new is := by
  constructor
  · intro identical
    have state := (identical .default [⟨.set "k" "v", ⟨0, 0⟩, ⟨1, 1⟩⟩]).state
    exact absurd state (by decide)
  · intro identical
    have state := (identical false
      [⟨.createAccount "a" 1, ⟨0, 0, 0, 0, "", []⟩, ⟨1, 1, 1, 1, "", []⟩⟩]).state
    exact absurd state (by decide)

end Rabia
