import Rabia.Lib.DoubleEntry
import Rabia.Lib.Runs
import Rabia.Smr.Payments

/-!
# The money of the bank

The transactions that a bank records are postings of double-entry books, of which
deposits come from outside and withdrawals go there. `Sound` is the invariant: every
balance is what the account was opened with and what the postings have moved since. The
total follows from it by the law of the books.
-/

namespace Rabia

open Rabia.Lib

/-- A bank, with the initial balances of its accounts. -/
structure Books where
  bank : BankingState
  initial : Table String Int64

def Transaction.posting (transaction : Transaction) : Posting String :=
  ⟨transaction.fromAccount, transaction.toAccount, transaction.amount.toInt⟩

/-- The record names a source account unless it is one of a deposit, and a destination
unless it is one of a withdrawal. -/
def Transaction.Shaped (transaction : Transaction) : Prop :=
  (transaction.fromAccount.isNone ↔ transaction.transactionType = .deposit) ∧
    (transaction.toAccount.isNone ↔ transaction.transactionType = .withdrawal)

namespace BankingState

/-- The balance of an account, if there is one. -/
def balanceOf (s : BankingState) (accountId : String) : Int :=
  ((s.accounts.lookup accountId).map fun account => account.balance.toInt).getD 0

def postings (s : BankingState) : List (Posting String) := s.transactions.map Transaction.posting

/-- The amounts of the recorded transactions of a type. -/
def amountsOf (transactionType : TransactionType) (s : BankingState) : Int :=
  ((s.transactions.filter fun tx => tx.transactionType = transactionType).map
    fun tx => tx.amount.toInt).sum

theorem balanceOf_insert (s : BankingState) (accountId other : String) (account : Account) :
    { s with accounts := s.accounts.insert accountId account }.balanceOf other =
      if other = accountId then account.balance.toInt else s.balanceOf other := by
  unfold balanceOf
  rw [Table.lookup_insert]
  split <;> rfl

theorem balanceOf_eq {s : BankingState} {accountId : String} {account : Account}
    (found : s.accounts.lookup accountId = some account) :
    s.balanceOf accountId = account.balance.toInt := by
  rw [balanceOf, found]
  rfl

end BankingState

namespace Books

open BankingSMR

def start : Books := ⟨new, ∅⟩

def initialOf (b : Books) (accountId : String) : Int :=
  ((b.initial.lookup accountId).map Int64.toInt).getD 0

/-- The initial balance is noted of an account that is created. -/
def step (overflowChecks : Bool) (b : Books) (next : BankingEnv × BankingCommand) : Books :=
  let (response, bank) := applyCommand overflowChecks next.1 next.2 b.bank
  { bank
    initial :=
      match next.2, response with
      | .createAccount accountId initialBalance, some response =>
        if response.success then b.initial.insert accountId initialBalance else b.initial
      | _, _ => b.initial }

/-- No balance is negative; each is the initial balance with the amounts of the recorded
transactions to the account, less those from it; and the total is that of the initial
balances with the deposits, less the withdrawals. -/
structure Conserves (b : Books) : Prop where
  opened : b.initial.keys = b.bank.accounts.keys
  nonneg : ∀ accountId ∈ b.bank.accounts.keys, 0 ≤ b.bank.balanceOf accountId
  balance : ∀ accountId ∈ b.bank.accounts.keys,
    b.bank.balanceOf accountId = b.initialOf accountId +
      (paidTo b.bank.postings accountId - paidFrom b.bank.postings accountId)
  total : ∑ accountId ∈ b.bank.accounts.keys, b.bank.balanceOf accountId =
    ∑ accountId ∈ b.bank.accounts.keys, b.initialOf accountId +
      (b.bank.amountsOf .deposit - b.bank.amountsOf .withdrawal)

/-- What `Conserves` says of the accounts, and that the records fit them. -/
structure Sound (b : Books) : Prop where
  opened : b.initial.keys = b.bank.accounts.keys
  nonneg : ∀ accountId ∈ b.bank.accounts.keys, 0 ≤ b.bank.balanceOf accountId
  balance : ∀ accountId ∈ b.bank.accounts.keys,
    b.bank.balanceOf accountId = b.initialOf accountId +
      (paidTo b.bank.postings accountId - paidFrom b.bank.postings accountId)
  named : ∀ tx ∈ b.bank.transactions, tx.posting.Within b.bank.accounts.keys
  shaped : ∀ tx ∈ b.bank.transactions, tx.Shaped

theorem sound_start : start.Sound where
  opened := rfl
  nonneg := by simp [start, new]
  balance := by simp [start, new]
  named := by simp [start, new]
  shaped := by simp [start, new]

/-- Selecting postings is selecting records. -/
theorem amounts_postings {selects : Posting String → Bool} {transactionType : TransactionType}
    {s : BankingState}
    (same : ∀ tx ∈ s.transactions, (selects tx.posting ↔ tx.transactionType = transactionType)) :
    amounts selects s.postings = s.amountsOf transactionType := by
  have selected : s.transactions.filter (selects ∘ Transaction.posting) =
      s.transactions.filter fun tx => tx.transactionType = transactionType := by
    refine List.filter_congr fun tx member => ?_
    rw [Bool.eq_iff_iff, decide_eq_true_eq]
    exact same tx member
  unfold amounts BankingState.amountsOf BankingState.postings
  rw [List.filter_map, selected, List.map_map]
  rfl

theorem Sound.conserves {b : Books} (sound : b.Sound) : b.Conserves where
  opened := sound.opened
  nonneg := sound.nonneg
  balance := sound.balance
  total := by
    have within : ∀ posting ∈ b.bank.postings, posting.Within b.bank.accounts.keys := by
      intro posting member
      obtain ⟨tx, recorded, rfl⟩ := List.mem_map.mp member
      exact sound.named tx recorded
    have deposits : cameIn b.bank.postings = b.bank.amountsOf .deposit :=
      amounts_postings fun tx member => (sound.shaped tx member).1
    have withdrawals : wentOut b.bank.postings = b.bank.amountsOf .withdrawal :=
      amounts_postings fun tx member => (sound.shaped tx member).2
    rw [Finset.sum_congr rfl sound.balance, Finset.sum_add_distrib, sum_paid within, deposits,
      withdrawals]

end Books

/-! ## Payments that balance -/

namespace BankingSMR

/-- The legs of the payment are accounts of the bank, and no more is put into the one than
is taken from the other. -/
structure Payment.Balanced (s : BankingState) (payment : Payment) : Prop where
  positive : 0 ≤ payment.amount.toInt
  source : ∀ leg ∈ payment.source, s.accounts.lookup leg.accountId = some leg.account
  target : ∀ leg ∈ payment.target, s.accounts.lookup leg.accountId = some leg.account
  debited : ∀ leg ∈ payment.source,
    leg.newBalance.toInt = leg.account.balance.toInt - payment.amount.toInt
  credited : ∀ leg ∈ payment.target,
    leg.newBalance.toInt = leg.account.balance.toInt + payment.amount.toInt
  funded : ∀ leg ∈ payment.source, 0 ≤ leg.newBalance.toInt
  apart : ∀ a ∈ payment.source, ∀ b ∈ payment.target, a.accountId ≠ b.accountId
  shaped : ∀ env, (payment.transaction env).Shaped

/-- A transfer that passes the checks leaves the destination with a balance that fits. -/
def Roomy (s : BankingState) : BankingCommand → Prop
  | .transfer fromAccount toAccount amount =>
    ∀ source target, Transferable s fromAccount toAccount amount source target →
      target.balance.toInt + amount.toInt ≤ Int64.maxValue.toInt
  | _ => True

/-- The additions and subtractions that the command performs unchecked have results that
fit. The addition of a deposit is checked. -/
def Exact (s : BankingState) : BankingCommand → Prop
  | .withdraw accountId amount =>
    ∀ account, validateAmount amount = .ok () → s.accounts.lookup accountId = some account →
      ¬ account.balance < amount → FitsI64 (account.balance.toInt - amount.toInt)
  | .transfer fromAccount toAccount amount =>
    ∀ source target, Transferable s fromAccount toAccount amount source target →
      FitsI64 (source.balance.toInt - amount.toInt) ∧ FitsI64 (target.balance.toInt + amount.toInt)
  | _ => True

/-- A transfer debits the one account and credits the other, or does neither. -/
def BothSides (before after : BankingState) : BankingCommand → Prop
  | .transfer fromAccount toAccount amount =>
    after.accounts = before.accounts ∨
      (after.balanceOf fromAccount = before.balanceOf fromAccount - amount.toInt ∧
        after.balanceOf toAccount = before.balanceOf toAccount + amount.toInt)
  | _ => True

theorem fits_debit {balance amount : Int64} (valid : validateAmount amount = .ok ())
    (funded : ¬ balance < amount) : FitsI64 (balance.toInt - amount.toInt) := by
  rw [← (minus_of_funded true (validateAmount_ok valid) funded).2]
  exact fitsI64_toInt _

theorem debit_nonneg {balance amount : Int64} (valid : validateAmount amount = .ok ())
    (funded : ¬ balance < amount) : 0 ≤ (balance - amount).toInt := by
  rw [(minus_of_funded true (validateAmount_ok valid) funded).2]
  rw [Int64.lt_iff_toInt_lt] at funded
  omega

section Steps

variable {overflowChecks : Bool} {s : BankingState}

theorem roomy_fits {fromAccount toAccount : String} {amount : Int64} {source target : Account}
    (roomy : Roomy s (.transfer fromAccount toAccount amount)) (nonneg : 0 ≤ target.balance.toInt)
    (transferable : Transferable s fromAccount toAccount amount source target) :
    FitsI64 (target.balance.toInt + amount.toInt) := by
  have positive := validateAmount_ok transferable.valid
  exact (fitsI64_of_nonneg (by omega)).mpr (roomy source target transferable)

/-- A payment that is made balances, unless a transfer overflows. -/
theorem Makes.balanced {command : BankingCommand} {payment : Payment}
    (makes : Makes overflowChecks s command (.paid payment)) (roomy : Roomy s command)
    (nonneg : ∀ accountId account, s.accounts.lookup accountId = some account →
      0 ≤ account.balance.toInt) : payment.Balanced s := by
  have apart := makes.apart
  cases makes with
  | deposited valid found added =>
      exact
        { positive := (validateAmount_ok valid).le
          source := by simp
          target := by rintro leg ⟨⟩; exact found
          debited := by simp
          credited := by rintro leg ⟨⟩; exact toInt_of_checkedAdd added
          funded := by simp
          apart := apart
          shaped := fun env => by simp [Transaction.Shaped, Payment.transaction] }
  | withdrawn valid found funded =>
      exact
        { positive := (validateAmount_ok valid).le
          source := by rintro leg ⟨⟩; exact found
          target := by simp
          debited := by
            rintro leg ⟨⟩
            exact (minus_of_funded true (validateAmount_ok valid) funded).2
          credited := by simp
          funded := by rintro leg ⟨⟩; exact debit_nonneg valid funded
          apart := apart
          shaped := fun env => by simp [Transaction.Shaped, Payment.transaction] }
  | transferred transferable added =>
      have fits := roomy_fits roomy (nonneg _ _ transferable.foundTarget) transferable
      exact
        { positive := (validateAmount_ok transferable.valid).le
          source := by rintro leg ⟨⟩; exact transferable.foundSource
          target := by rintro leg ⟨⟩; exact transferable.foundTarget
          debited := by
            rintro leg ⟨⟩
            exact (minus_of_funded true (validateAmount_ok transferable.valid)
              transferable.funded).2
          credited := by rintro leg ⟨⟩; exact toInt_of_resultI64 fits added
          funded := by rintro leg ⟨⟩; exact debit_nonneg transferable.valid transferable.funded
          apart := apart
          shaped := fun env => by simp [Transaction.Shaped, Payment.transaction] }

theorem keys_settleSide (now : Nat) {side : Option Leg} {s : BankingState}
    (found : ∀ leg ∈ side, s.accounts.lookup leg.accountId = some leg.account) :
    (settleSide now side s).accounts.keys = s.accounts.keys := by
  cases side with
  | none => rfl
  | some leg =>
      show (s.accounts.insert _ _).keys = _
      rw [Table.keys_insert]
      apply Finset.insert_eq_self.mpr
      exact Finmap.mem_keys.mpr (Finmap.mem_of_lookup_eq_some (found leg rfl))

theorem balanceOf_settleSide (now : Nat) {side : Option Leg} {s : BankingState} {moved : Int}
    (found : ∀ leg ∈ side, s.accounts.lookup leg.accountId = some leg.account)
    (moves : ∀ leg ∈ side, leg.newBalance.toInt = leg.account.balance.toInt + moved)
    (accountId : String) :
    (settleSide now side s).balanceOf accountId =
      s.balanceOf accountId + if side.map Leg.accountId = some accountId then moved else 0 := by
  cases side with
  | none => exact (Int.add_zero _).symm
  | some leg =>
      have before := BankingState.balanceOf_eq (found leg rfl)
      show (setBalance _ _ _ _ s).balanceOf accountId = _
      rw [setBalance, BankingState.balanceOf_insert]
      by_cases same : accountId = leg.accountId
      · subst same
        have named : (some leg).map Leg.accountId = some leg.accountId := rfl
        rw [if_pos rfl, if_pos named, before]
        exact moves leg rfl
      · have notNamed : ¬ (some leg).map Leg.accountId = some accountId :=
          fun named => same (Option.some_inj.mp named).symm
        rw [if_neg same, if_neg notNamed, Int.add_zero]

namespace Payment.Balanced

variable {payment : Payment}

theorem target_after (balanced : payment.Balanced s) (now : Nat) :
    ∀ leg ∈ payment.target,
      (settleSide now payment.source s).accounts.lookup leg.accountId = some leg.account := by
  intro leg member
  rw [lookup_settleSide now s fun source within => balanced.apart source within leg member]
  exact balanced.target leg member

theorem keys_settle (balanced : payment.Balanced s) (env : BankingEnv) :
    (payment.settle env s).accounts.keys = s.accounts.keys :=
  (keys_settleSide env.credited (balanced.target_after env.debited)).trans
    (keys_settleSide env.debited balanced.source)

/-- A payment that balances moves its amount. -/
theorem balanceOf_settle (balanced : payment.Balanced s) (env : BankingEnv) (accountId : String) :
    (payment.settle env s).balanceOf accountId = s.balanceOf accountId +
      ((if payment.target.map Leg.accountId = some accountId then payment.amount.toInt else 0) -
        if payment.source.map Leg.accountId = some accountId then payment.amount.toInt
        else 0) := by
  have paid := balanceOf_settleSide env.debited balanced.source
    (fun leg member => (balanced.debited leg member).trans (Int.sub_eq_add_neg ..)) accountId
  have received := balanceOf_settleSide env.credited (balanced.target_after env.debited)
    balanced.credited accountId
  show (settleSide _ _ (settleSide _ _ s)).balanceOf accountId = _
  rw [received, paid]
  split <;> split <;> omega

theorem nonneg_settle (balanced : payment.Balanced s) (env : BankingEnv) {accountId : String}
    (nonneg : 0 ≤ s.balanceOf accountId) : 0 ≤ (payment.settle env s).balanceOf accountId := by
  have positive := balanced.positive
  rw [balanced.balanceOf_settle env accountId]
  by_cases pays : payment.source.map Leg.accountId = some accountId
  · obtain ⟨leg, member, rfl⟩ := Option.map_eq_some_iff.mp pays
    have before := BankingState.balanceOf_eq (balanced.source leg member)
    have debited := balanced.debited leg member
    have funded := balanced.funded leg member
    rw [if_pos pays]
    split <;> omega
  · rw [if_neg pays]
    split <;> omega

end Payment.Balanced

end Steps

end BankingSMR

namespace Books

open BankingSMR

variable {overflowChecks : Bool} {b : Books}

theorem Sound.account_nonneg (sound : b.Sound) {accountId : String} {account : Account}
    (found : b.bank.accounts.lookup accountId = some account) : 0 ≤ account.balance.toInt := by
  rw [← BankingState.balanceOf_eq found]
  exact sound.nonneg accountId (Finmap.mem_keys.mpr (Finmap.mem_of_lookup_eq_some found))

/-- The operation counter does not matter. -/
theorem Sound.count (sound : b.Sound) : Sound ⟨count b.bank, b.initial⟩ :=
  ⟨sound.opened, sound.nonneg, sound.balance, sound.named, sound.shaped⟩

/-- Nothing was paid to or from an account that does not exist. -/
theorem Sound.unpaid (sound : b.Sound) {accountId : String} (fresh : accountId ∉ b.bank.accounts) :
    paidTo b.bank.postings accountId = 0 ∧ paidFrom b.bank.postings accountId = 0 := by
  have unnamed : ∀ posting ∈ b.bank.postings,
      ¬ (posting.source = some accountId ∨ posting.target = some accountId) := by
    intro posting member named
    obtain ⟨tx, recorded, rfl⟩ := List.mem_map.mp member
    exact fresh (Finmap.mem_keys.mp (sound.named tx recorded accountId named))
  constructor
  · refine amounts_eq_zero fun posting member => decide_eq_false fun named => ?_
    exact unnamed posting member (Or.inr named)
  · refine amounts_eq_zero fun posting member => decide_eq_false fun named => ?_
    exact unnamed posting member (Or.inl named)

theorem initialOf_insert (b : Books) (accountId other : String) (initialBalance : Int64)
    (bank : BankingState) :
    (Books.mk bank (b.initial.insert accountId initialBalance)).initialOf other =
      if other = accountId then initialBalance.toInt else b.initialOf other := by
  unfold initialOf
  rw [Table.lookup_insert]
  split <;> rfl

theorem Sound.opening (sound : b.Sound) (now : Nat) {accountId : String} {initialBalance : Int64}
    (notNegative : 0 ≤ initialBalance.toInt) (fresh : accountId ∉ b.bank.accounts) :
    Sound ⟨{ b.bank with
        accounts := b.bank.accounts.insert accountId (.new now accountId initialBalance) },
      b.initial.insert accountId initialBalance⟩ := by
  have older : ∀ other ∈ insert accountId b.bank.accounts.keys, other ≠ accountId →
      other ∈ b.bank.accounts.keys :=
    fun other member different => (Finset.mem_insert.mp member).resolve_left different
  constructor
  · show (b.initial.insert _ _).keys = (b.bank.accounts.insert _ _).keys
    rw [Table.keys_insert, Table.keys_insert, sound.opened]
  · intro other member
    rw [Table.keys_insert] at member
    rw [BankingState.balanceOf_insert]
    by_cases same : other = accountId
    · rw [if_pos same]
      exact notNegative
    · rw [if_neg same]
      exact sound.nonneg other (older other member same)
  · intro other member
    rw [Table.keys_insert] at member
    rw [BankingState.balanceOf_insert, initialOf_insert]
    by_cases same : other = accountId
    · obtain ⟨received, paid⟩ := sound.unpaid fresh
      rw [if_pos same, if_pos same, same]
      show initialBalance.toInt = initialBalance.toInt + (paidTo b.bank.postings accountId -
        paidFrom b.bank.postings accountId)
      omega
    · rw [if_neg same, if_neg same]
      exact sound.balance other (older other member same)
  · intro tx recorded other named
    rw [Table.keys_insert]
    exact Finset.mem_insert_of_mem (sound.named tx recorded other named)
  · exact sound.shaped

theorem Sound.pay (sound : b.Sound) (env : BankingEnv) {payment : Payment}
    (balanced : payment.Balanced b.bank) :
    Sound ⟨record (payment.transaction env) (payment.settle env b.bank), b.initial⟩ := by
  have keys := balanced.keys_settle env
  have records : (record (payment.transaction env) (payment.settle env b.bank)).transactions =
      b.bank.transactions ++ [payment.transaction env] := by
    rw [record, Payment.settle, settleSide_transactions, settleSide_transactions]
  have mem_keys : ∀ leg : Leg, b.bank.accounts.lookup leg.accountId = some leg.account →
      leg.accountId ∈ b.bank.accounts.keys :=
    fun leg found => Finmap.mem_keys.mpr (Finmap.mem_of_lookup_eq_some found)
  constructor
  · exact sound.opened.trans keys.symm
  · intro accountId member
    exact balanced.nonneg_settle env (sound.nonneg accountId (keys ▸ member))
  · intro accountId member
    have postings : (record (payment.transaction env) (payment.settle env b.bank)).postings =
        b.bank.postings ++ [(payment.transaction env).posting] := by
      rw [BankingState.postings, records, List.map_append]
      rfl
    show (payment.settle env b.bank).balanceOf accountId = b.initialOf accountId + (_ - _)
    rw [balanced.balanceOf_settle env, sound.balance accountId (keys ▸ member), postings,
      paidTo_concat, paidFrom_concat]
    have moved : ∀ initial received paid more less : Int,
        initial + (received - paid) + (more - less) =
          initial + (received + more - (paid + less)) := by
      intro initial received paid more less
      omega
    exact moved _ _ _ _ _
  · intro tx recorded accountId named
    show accountId ∈ (payment.settle env b.bank).accounts.keys
    rw [keys]
    rcases List.mem_append.mp (records ▸ recorded) with earlier | new
    · exact sound.named tx earlier accountId named
    · rw [List.mem_singleton.mp new] at named
      rcases named with pays | paid
      · obtain ⟨leg, member, same⟩ := Option.map_eq_some_iff.mp pays
        rw [← same]
        exact mem_keys leg (balanced.source leg member)
      · obtain ⟨leg, member, same⟩ := Option.map_eq_some_iff.mp paid
        rw [← same]
        exact mem_keys leg (balanced.target leg member)
  · intro tx recorded
    rcases List.mem_append.mp (records ▸ recorded) with earlier | new
    · exact sound.shaped tx earlier
    · rw [List.mem_singleton.mp new]
      exact balanced.shaped env

/-! ## Runs of the bank -/

/-- What is noted when a deed is carried out. -/
def note (deed : Deed) (initial : Table String Int64) : Table String Int64 :=
  match deed with
  | .opened accountId initialBalance => initial.insert accountId initialBalance
  | _ => initial

theorem step_eq (overflowChecks : Bool) (b : Books) (env : BankingEnv) (command : BankingCommand) :
    b.step overflowChecks (env, command) =
      ⟨((deed overflowChecks b.bank command).carryOut env (BankingSMR.count b.bank)).2,
        note (deed overflowChecks b.bank command) b.initial⟩ := by
  have makes := makes_deed overflowChecks b.bank command
  unfold step
  dsimp only
  rw [applyCommand_eq]
  generalize deed overflowChecks b.bank command = done at makes
  cases makes with
  | refused message => cases command <;> rfl
  | answered data query =>
      cases command with
      | createAccount accountId initialBalance => exact absurd rfl (query accountId initialBalance)
      | _ => rfl
  | _ => rfl

/-- No addition or subtraction of a command overflows, no transfer is one-sided, and money
is conserved. -/
structure Sure (overflowChecks : Bool) (b : Books) (next : BankingEnv × BankingCommand) : Prop where
  exact : Exact b.bank next.2
  bothSides : BothSides b.bank (b.step overflowChecks next).bank next.2
  conserves : (b.step overflowChecks next).Conserves

theorem Sound.not_stranded (sound : b.Sound) {command : BankingCommand} {leg : Leg}
    (roomy : Roomy b.bank command) :
    ¬ Makes overflowChecks b.bank command (.stranded leg) := by
  intro makes
  cases makes with
  | stranded transferable overflows =>
      have fits := roomy_fits roomy (sound.account_nonneg transferable.foundTarget) transferable
      rw [plus, resultI64_of_fits overflowChecks fits] at overflows
      cases overflows

theorem Sound.balanced (sound : b.Sound) {command : BankingCommand} {payment : Payment}
    (roomy : Roomy b.bank command)
    (makes : Makes overflowChecks b.bank command (.paid payment)) :
    payment.Balanced (BankingSMR.count b.bank) :=
  have balanced := makes.balanced roomy fun _ _ found => sound.account_nonneg found
  ⟨balanced.positive, balanced.source, balanced.target, balanced.debited, balanced.credited,
    balanced.funded, balanced.apart, balanced.shaped⟩

theorem Sound.step (sound : b.Sound) (next : BankingEnv × BankingCommand)
    (roomy : Roomy b.bank next.2) : (b.step overflowChecks next).Sound := by
  obtain ⟨env, command⟩ := next
  have makes := makes_deed overflowChecks b.bank command
  rw [step_eq]
  generalize deed overflowChecks b.bank command = done at makes
  cases done with
  | refused message => exact sound.count
  | answered data => exact sound.count
  | listed => exact sound.count
  | opened accountId initialBalance =>
      cases makes with
      | opened notNegative fresh => exact sound.count.opening env.opened notNegative fresh
  | paid payment => exact sound.count.pay env (sound.balanced roomy makes)
  | stranded leg => exact absurd makes (sound.not_stranded roomy)

theorem Sound.exact (sound : b.Sound) {command : BankingCommand} (roomy : Roomy b.bank command) :
    Exact b.bank command := by
  cases command with
  | withdraw accountId amount => exact fun account valid _ funded => fits_debit valid funded
  | transfer fromAccount toAccount amount =>
      intro source target transferable
      refine ⟨fits_debit transferable.valid transferable.funded, ?_⟩
      exact roomy_fits roomy (sound.account_nonneg transferable.foundTarget) transferable
  | _ => trivial

theorem Sound.bothSides (sound : b.Sound) (next : BankingEnv × BankingCommand)
    (roomy : Roomy b.bank next.2) :
    BothSides b.bank (b.step overflowChecks next).bank next.2 := by
  obtain ⟨env, command⟩ := next
  cases command with
  | transfer fromAccount toAccount amount =>
      have makes := makes_deed overflowChecks b.bank (.transfer fromAccount toAccount amount)
      rw [step_eq]
      generalize deed overflowChecks b.bank _ = done at makes
      cases makes with
      | refused message => exact Or.inl rfl
      | answered data query => exact Or.inl rfl
      | transferred transferable added =>
          have balanced := sound.balanced roomy (.transferred transferable added)
          have moved := balanced.balanceOf_settle env
          refine Or.inr ⟨(moved fromAccount).trans ?_, (moved toAccount).trans ?_⟩
          · simp [transferable.apart.symm, Int.sub_eq_add_neg]
            rfl
          · simp [transferable.apart]
            rfl
      | stranded transferable overflows =>
          exact absurd (.stranded transferable overflows) (sound.not_stranded roomy)
  | _ => trivial

theorem sure_iff (sound : b.Sound) (next : BankingEnv × BankingCommand) :
    Sure overflowChecks b next ↔ Roomy b.bank next.2 := by
  constructor
  · intro sure
    obtain ⟨env, command⟩ := next
    cases command with
    | transfer fromAccount toAccount amount =>
        exact fun source target transferable => (sure.exact source target transferable).2.2
    | _ => trivial
  · intro roomy
    exact ⟨sound.exact roomy, sound.bothSides next roomy, (sound.step next roomy).conserves⟩

/-- The balances in the order of a walk, and their sum. -/
theorem sum_walk (order : List String) (s : BankingState) :
    (((Table.walk order s.accounts).map fun walked => walked.2.balance).map Int64.toInt).sum =
      ∑ accountId ∈ s.accounts.keys, s.balanceOf accountId := by
  have balances : (Table.walk order s.accounts).map (fun walked => walked.2.balance.toInt) =
      (Table.walk order s.accounts).map (s.balanceOf ∘ Prod.fst) := by
    refine List.map_congr_left fun walked member => ?_
    exact (BankingState.balanceOf_eq (Table.mem_walk.mp member)).symm
  rw [List.map_map]
  show ((Table.walk order s.accounts).map fun walked => walked.2.balance.toInt).sum = _
  rw [balances, ← List.map_map, Table.map_fst_walk,
    ← List.sum_toFinset _ (nodup_iterate order s.accounts.keys), toFinset_iterate]

/-- `total_value` is the total as soon as that fits. -/
theorem totalValue_iff (sound : b.Sound) (overflowChecks : Bool) (order : List String) :
    (∃ total, totalValue overflowChecks order b.bank = some total ∧
        total.toInt = ∑ accountId ∈ b.bank.accounts.keys, b.bank.balanceOf accountId) ↔
      ∑ accountId ∈ b.bank.accounts.keys, b.bank.balanceOf accountId ≤ Int64.maxValue.toInt := by
  rw [← sum_walk order]
  refine sumI64_exact_iff overflowChecks fun balance member => ?_
  obtain ⟨item, walked, rfl⟩ := List.mem_map.mp member
  exact sound.account_nonneg (Table.mem_walk.mp walked)

/-- Whatever commands a new bank applies, in either build, no command's arithmetic
overflows, no transfer is one-sided and money is conserved exactly when every transfer that
passes its checks finds room for the amount in the destination. `total_value` then gives
the total exactly when it fits as well. -/
theorem bank_conserves_iff (overflowChecks : Bool)
    (commands : List (BankingEnv × BankingCommand)) :
    (Along (step overflowChecks) (Sure overflowChecks) start commands ↔
        Along (step overflowChecks) (fun b next => Roomy b.bank next.2) start commands) ∧
      (Along (step overflowChecks) (fun b next => Roomy b.bank next.2) start commands →
        ∀ order,
          let bank := (run (step overflowChecks) start commands).bank
          (∃ total, totalValue overflowChecks order bank = some total ∧
              total.toInt = ∑ accountId ∈ bank.accounts.keys, bank.balanceOf accountId) ↔
            ∑ accountId ∈ bank.accounts.keys, bank.balanceOf accountId ≤
              Int64.maxValue.toInt) := by
  constructor
  · apply along_congr_of_kept (I := Sound) _ _ sound_start commands
    · intro b next sound
      exact sure_iff sound next
    · intro b next sound sure
      exact sound.step next ((sure_iff sound next).mp sure)
  · intro roomy order
    have sound := run_invariant (I := Sound) (fun _ next sound => sound.step next) sound_start roomy
    exact totalValue_iff sound overflowChecks order

/-- A new account may hold the largest `i64`: a transfer to it overflows. -/
theorem transfer_overflows :
    ¬ ∀ (overflowChecks : Bool) (commands : List (BankingEnv × BankingCommand)),
      Along (step overflowChecks) (Sure overflowChecks) start commands := by
  intro sure
  let env : BankingEnv := ⟨0, 0, 0, 0, "", []⟩
  have third := (sure false [(env, .createAccount "a" Int64.maxValue),
    (env, .createAccount "b" 100), (env, .transfer "b" "a" 50)]).2.2.1
  have fits := third.exact (.new 0 "b" 100) (.new 0 "a" Int64.maxValue)
    ⟨by decide, by decide, by decide, by decide, by decide⟩
  exact absurd fits.2 (by decide)

end Books

end Rabia
