import Rabia.Smr.Banking

/-!
# What a banking command does

What a command does is decided by the state alone (`deed`), and carried out with what the
environment supplies (`Deed.carryOut`). `applyCommand_eq` says that this is what
`apply_command` computes, and `makes_deed` what is known of a payment that is made: what is
proved of runs of the bank rests on these two.
-/

namespace Rabia

open Rabia.Lib

namespace BankingSMR

/-- One side of a payment: the account as it was before, and its new balance. -/
structure Leg where
  accountId : String
  account : Account
  newBalance : Int64
deriving DecidableEq

/-- A deposit, a withdrawal or a transfer that goes through. -/
structure Payment where
  source : Option Leg
  target : Option Leg
  amount : Int64
  transactionType : TransactionType
  data : Option BankingData
deriving DecidableEq

inductive Deed where
  | refused (message : String)
  | answered (data : BankingData)
  | listed
  | opened (accountId : String) (initialBalance : Int64)
  | paid (payment : Payment)
  /-- The command panics when it has debited the source and computes the other balance. -/
  | stranded (source : Leg)
deriving DecidableEq

section Deeds

variable (overflowChecks : Bool) (s : BankingState)

def openDeed (accountId : String) (initialBalance : Int64) : Deed :=
  match validateAccountId accountId with
  | .error e => .refused e
  | .ok () =>
    if initialBalance < 0 then .refused "Initial balance cannot be negative"
    else if accountId ∈ s.accounts then .refused "Account already exists"
    else .opened accountId initialBalance

def depositDeed (accountId : String) (amount : Int64) : Deed :=
  match validateAmount amount with
  | .error e => .refused e
  | .ok () =>
    match s.accounts.lookup accountId with
    | none => .refused "Account not found"
    | some account =>
      match checkedAdd account.balance amount with
      | none => .refused "Deposit would cause overflow"
      | some newBalance =>
        .paid
          { source := none
            target := some ⟨accountId, account, newBalance⟩
            amount
            transactionType := .deposit
            data := some (.balance newBalance) }

def withdrawDeed (accountId : String) (amount : Int64) : Deed :=
  match validateAmount amount with
  | .error e => .refused e
  | .ok () =>
    match s.accounts.lookup accountId with
    | none => .refused "Account not found"
    | some account =>
      if account.balance < amount then .refused "Insufficient funds"
      else
        .paid
          { source := some ⟨accountId, account, account.balance - amount⟩
            target := none
            amount
            transactionType := .withdrawal
            data := some (.balance (account.balance - amount)) }

def transferDeed (fromAccount toAccount : String) (amount : Int64) : Deed :=
  match validateAmount amount with
  | .error e => .refused e
  | .ok () =>
    if fromAccount = toAccount then .refused "Cannot transfer to same account"
    else
      match s.accounts.lookup fromAccount, s.accounts.lookup toAccount with
      | none, _ => .refused "Source account not found"
      | some _, none => .refused "Destination account not found"
      | some source, some target =>
        if source.balance < amount then .refused "Insufficient funds"
        else
          let debit : Leg := ⟨fromAccount, source, source.balance - amount⟩
          match plus overflowChecks target.balance amount with
          | none => .stranded debit
          | some newBalance =>
            .paid
              { source := some debit
                target := some ⟨toAccount, target, newBalance⟩
                amount
                transactionType := .transfer
                data := none }

def deed : BankingCommand → Deed
  | .createAccount accountId initialBalance => openDeed s accountId initialBalance
  | .deposit accountId amount => depositDeed s accountId amount
  | .withdraw accountId amount => withdrawDeed s accountId amount
  | .transfer fromAccount toAccount amount =>
    transferDeed overflowChecks s fromAccount toAccount amount
  | .getBalance accountId =>
    match s.accounts.lookup accountId with
    | some account => .answered (.balance account.balance)
    | none => .refused "Account not found"
  | .getAccount accountId =>
    match s.accounts.lookup accountId with
    | some account => .answered (.account account)
    | none => .refused "Account not found"
  | .listAccounts => .listed
  | .getTransactionHistory accountId limit =>
    .answered (.transactions (transactionHistory accountId limit s))

end Deeds

/-! ## Carrying a deed out -/

/-- The account of the leg is given its new balance. -/
def Leg.settle (now : Nat) (leg : Leg) (s : BankingState) : BankingState :=
  setBalance now leg.account leg.accountId leg.newBalance s

/-- One side of a payment is settled, if there is one. -/
def settleSide (now : Nat) (side : Option Leg) (s : BankingState) : BankingState :=
  side.elim s fun leg => leg.settle now s

/-- The source is debited first. -/
def Payment.settle (env : BankingEnv) (payment : Payment) (s : BankingState) : BankingState :=
  settleSide env.credited payment.target (settleSide env.debited payment.source s)

@[simp] theorem settleSide_transactions (now : Nat) (side : Option Leg) (s : BankingState) :
    (settleSide now side s).transactions = s.transactions := by
  cases side <;> rfl

theorem lookup_settleSide_self (now : Nat) {side : Option Leg} {leg : Leg} (member : leg ∈ side)
    (s : BankingState) :
    (settleSide now side s).accounts.lookup leg.accountId =
      some (leg.account.updateBalance now leg.newBalance) := by
  cases member
  exact Finmap.lookup_insert s.accounts

theorem lookup_settleSide (now : Nat) {side : Option Leg} (s : BankingState) {accountId : String}
    (other : ∀ leg ∈ side, leg.accountId ≠ accountId) :
    (settleSide now side s).accounts.lookup accountId = s.accounts.lookup accountId := by
  cases side with
  | none => rfl
  | some leg =>
      show Finmap.lookup accountId (s.accounts.insert _ _) = _
      rw [Table.lookup_insert, if_neg (other leg rfl).symm]

/-- The record of a payment. -/
def Payment.transaction (env : BankingEnv) (payment : Payment) : Transaction where
  transactionId := env.transactionId
  fromAccount := payment.source.map Leg.accountId
  toAccount := payment.target.map Leg.accountId
  amount := payment.amount
  timestamp := env.recorded
  transactionType := payment.transactionType

def Deed.carryOut (env : BankingEnv) (deed : Deed) (s : BankingState) :
    Option BankingResponse × BankingState :=
  match deed with
  | .refused message => refuse message s
  | .answered data => (some (.succeed (some data)), s)
  | .listed =>
    (some (.succeed (some (.accounts ((Table.walk env.order s.accounts).map Prod.snd)))), s)
  | .opened accountId initialBalance =>
    let account := Account.new env.opened accountId initialBalance
    (some (.succeed (some (.account account))),
      { s with accounts := s.accounts.insert accountId account })
  | .paid payment =>
    (some (.successWithTransaction payment.data env.transactionId),
      record (payment.transaction env) (payment.settle env s))
  | .stranded source => (none, source.settle env.debited s)

/-- The operation is counted, whatever comes of it. -/
def count (s : BankingState) : BankingState :=
  { s with operationCount := (s.operationCount + 1) % u64Size }

@[simp] theorem count_transactions (s : BankingState) :
    (count s).transactions = s.transactions := rfl

theorem validateAmount_ok {amount : Int64} (valid : validateAmount amount = .ok ()) :
    0 < amount.toInt := by
  unfold validateAmount at valid
  split at valid
  · cases valid
  · rename_i positive
    rw [Int64.le_iff_toInt_le] at positive
    exact Int.not_le.mp positive

/-- A balance that is no smaller than the amount can be debited in either build. -/
theorem minus_of_funded (overflowChecks : Bool) {balance amount : Int64}
    (positive : 0 < amount.toInt) (funded : ¬ balance < amount) :
    minus overflowChecks balance amount = some (balance - amount) ∧
      (balance - amount).toInt = balance.toInt - amount.toInt := by
  rw [Int64.lt_iff_toInt_lt] at funded
  have upper := balance.toInt_le
  have fits : FitsI64 (balance.toInt - amount.toInt) :=
    (fitsI64_of_nonneg (by omega)).mpr (by omega)
  have same : balance - amount = .ofInt (balance.toInt - amount.toInt) := by
    rw [Int64.ofInt_sub, Int64.ofInt_toInt, Int64.ofInt_toInt]
  rw [same]
  exact ⟨resultI64_of_fits overflowChecks fits, toInt_ofInt_of_fits fits⟩

theorem createAccount_eq (env : BankingEnv) (accountId : String) (initialBalance : Int64)
    (s : BankingState) :
    createAccount env accountId initialBalance s =
      (openDeed s accountId initialBalance).carryOut env s := by
  unfold createAccount openDeed
  cases validateAccountId accountId with
  | error e => rfl
  | ok _ =>
      dsimp only
      by_cases negative : initialBalance < 0
      · rw [if_pos negative, if_pos negative]
        rfl
      · rw [if_neg negative, if_neg negative]
        split <;> rfl

theorem deposit_eq (env : BankingEnv) (accountId : String) (amount : Int64) (s : BankingState) :
    deposit env accountId amount s = (depositDeed s accountId amount).carryOut env s := by
  unfold deposit depositDeed
  cases validateAmount amount with
  | error e => rfl
  | ok _ =>
      cases s.accounts.lookup accountId with
      | none => rfl
      | some account =>
          dsimp only
          cases checkedAdd account.balance amount <;> rfl

theorem withdraw_eq (overflowChecks : Bool) (env : BankingEnv) (accountId : String)
    (amount : Int64) (s : BankingState) :
    withdraw overflowChecks env accountId amount s =
      (withdrawDeed s accountId amount).carryOut env s := by
  unfold withdraw withdrawDeed
  cases valid : validateAmount amount with
  | error e => rfl
  | ok _ =>
      cases s.accounts.lookup accountId with
      | none => rfl
      | some account =>
          dsimp only
          by_cases funded : account.balance < amount
          · rw [if_pos funded, if_pos funded]
            rfl
          · rw [if_neg funded, if_neg funded,
              (minus_of_funded overflowChecks (validateAmount_ok valid) funded).1]
            rfl

theorem transfer_eq (overflowChecks : Bool) (env : BankingEnv) (fromAccount toAccount : String)
    (amount : Int64) (s : BankingState) :
    transfer overflowChecks env fromAccount toAccount amount s =
      (transferDeed overflowChecks s fromAccount toAccount amount).carryOut env s := by
  unfold transfer transferDeed
  cases valid : validateAmount amount with
  | error e => rfl
  | ok _ =>
      dsimp only
      by_cases same : fromAccount = toAccount
      · rw [if_pos same, if_pos same]
        rfl
      · rw [if_neg same, if_neg same]
        cases s.accounts.lookup fromAccount with
        | none => rfl
        | some source =>
            cases found : s.accounts.lookup toAccount with
            | none =>
                have missing : toAccount ∉ s.accounts := Finmap.lookup_eq_none.mp found
                dsimp only
                rw [if_pos missing]
                rfl
            | some target =>
                have present : toAccount ∈ s.accounts := Finmap.mem_of_lookup_eq_some found
                dsimp only
                rw [if_neg (not_not.mpr present)]
                by_cases funded : source.balance < amount
                · rw [if_pos funded, if_pos funded]
                  rfl
                · -- debiting the source leaves the destination as it was found
                  have untouched : (setBalance env.debited source fromAccount
                      (source.balance - amount) s).accounts.lookup toAccount = some target := by
                    show Finmap.lookup _ (s.accounts.insert _ _) = _
                    rw [Table.lookup_insert, if_neg (Ne.symm same), found]
                  rw [if_neg funded, if_neg funded, performTransfer,
                    (minus_of_funded overflowChecks (validateAmount_ok valid) funded).1]
                  dsimp only
                  rw [untouched]
                  dsimp only
                  cases plus overflowChecks target.balance amount <;> rfl

/-- What `apply_command` computes. -/
theorem applyCommand_eq (overflowChecks : Bool) (env : BankingEnv) (command : BankingCommand)
    (s : BankingState) :
    applyCommand overflowChecks env command s =
      (deed overflowChecks s command).carryOut env (count s) := by
  cases command with
  | createAccount accountId initialBalance =>
      exact createAccount_eq env accountId initialBalance (count s)
  | deposit accountId amount => exact deposit_eq env accountId amount (count s)
  | withdraw accountId amount => exact withdraw_eq overflowChecks env accountId amount (count s)
  | transfer fromAccount toAccount amount =>
      exact transfer_eq overflowChecks env fromAccount toAccount amount (count s)
  | getBalance accountId =>
      unfold applyCommand deed
      dsimp only
      cases s.accounts.lookup accountId <;> rfl
  | getAccount accountId =>
      unfold applyCommand deed
      dsimp only
      cases s.accounts.lookup accountId <;> rfl
  | listAccounts => rfl
  | getTransactionHistory accountId limit => rfl

/-! ## Payments -/

/-- A transfer passes every check that is made of it. -/
structure Transferable (s : BankingState) (fromAccount toAccount : String) (amount : Int64)
    (source target : Account) : Prop where
  valid : validateAmount amount = .ok ()
  apart : fromAccount ≠ toAccount
  foundSource : s.accounts.lookup fromAccount = some source
  foundTarget : s.accounts.lookup toAccount = some target
  funded : ¬ source.balance < amount

section Makes

variable (overflowChecks : Bool) (s : BankingState)

/-- What a command can come to, and when. -/
inductive Makes : BankingCommand → Deed → Prop where
  | refused (command : BankingCommand) (message : String) : Makes command (.refused message)
  | answered {command : BankingCommand} (data : BankingData)
      (query : ∀ accountId balance, command ≠ .createAccount accountId balance) :
      Makes command (.answered data)
  | listed : Makes .listAccounts .listed
  | opened {accountId : String} {initialBalance : Int64}
      (notNegative : 0 ≤ initialBalance.toInt) (fresh : accountId ∉ s.accounts) :
      Makes (.createAccount accountId initialBalance) (.opened accountId initialBalance)
  | deposited {accountId : String} {amount newBalance : Int64} {account : Account}
      (valid : validateAmount amount = .ok ())
      (found : s.accounts.lookup accountId = some account)
      (added : checkedAdd account.balance amount = some newBalance) :
      Makes (.deposit accountId amount)
        (.paid ⟨none, some ⟨accountId, account, newBalance⟩, amount, .deposit,
          some (.balance newBalance)⟩)
  | withdrawn {accountId : String} {amount : Int64} {account : Account}
      (valid : validateAmount amount = .ok ())
      (found : s.accounts.lookup accountId = some account)
      (funded : ¬ account.balance < amount) :
      Makes (.withdraw accountId amount)
        (.paid ⟨some ⟨accountId, account, account.balance - amount⟩, none, amount, .withdrawal,
          some (.balance (account.balance - amount))⟩)
  | transferred {fromAccount toAccount : String} {amount newBalance : Int64}
      {source target : Account}
      (transferable : Transferable s fromAccount toAccount amount source target)
      (added : plus overflowChecks target.balance amount = some newBalance) :
      Makes (.transfer fromAccount toAccount amount)
        (.paid ⟨some ⟨fromAccount, source, source.balance - amount⟩,
          some ⟨toAccount, target, newBalance⟩, amount, .transfer, none⟩)
  | stranded {fromAccount toAccount : String} {amount : Int64} {source target : Account}
      (transferable : Transferable s fromAccount toAccount amount source target)
      (overflows : plus overflowChecks target.balance amount = none) :
      Makes (.transfer fromAccount toAccount amount)
        (.stranded ⟨fromAccount, source, source.balance - amount⟩)

theorem makes_openDeed (accountId : String) (initialBalance : Int64) :
    Makes overflowChecks s (.createAccount accountId initialBalance)
      (openDeed s accountId initialBalance) := by
  unfold openDeed
  cases validateAccountId accountId with
  | error e => exact .refused _ e
  | ok _ =>
      dsimp only
      by_cases negative : initialBalance < 0
      · rw [if_pos negative]
        exact .refused _ _
      · rw [if_neg negative]
        by_cases present : accountId ∈ s.accounts
        · rw [if_pos present]
          exact .refused _ _
        · rw [if_neg present]
          rw [Int64.lt_iff_toInt_lt] at negative
          exact .opened (Int.not_lt.mp negative) present

theorem makes_depositDeed (accountId : String) (amount : Int64) :
    Makes overflowChecks s (.deposit accountId amount) (depositDeed s accountId amount) := by
  unfold depositDeed
  cases valid : validateAmount amount with
  | error e => exact .refused _ e
  | ok _ =>
      cases found : s.accounts.lookup accountId with
      | none => exact .refused _ _
      | some account =>
          dsimp only
          cases added : checkedAdd account.balance amount with
          | none => exact .refused _ _
          | some newBalance => exact .deposited valid found added

theorem makes_withdrawDeed (accountId : String) (amount : Int64) :
    Makes overflowChecks s (.withdraw accountId amount) (withdrawDeed s accountId amount) := by
  unfold withdrawDeed
  cases valid : validateAmount amount with
  | error e => exact .refused _ e
  | ok _ =>
      cases found : s.accounts.lookup accountId with
      | none => exact .refused _ _
      | some account =>
          dsimp only
          by_cases funded : account.balance < amount
          · rw [if_pos funded]
            exact .refused _ _
          · rw [if_neg funded]
            exact .withdrawn valid found funded

theorem makes_transferDeed (fromAccount toAccount : String) (amount : Int64) :
    Makes overflowChecks s (.transfer fromAccount toAccount amount)
      (transferDeed overflowChecks s fromAccount toAccount amount) := by
  unfold transferDeed
  cases valid : validateAmount amount with
  | error e => exact .refused _ e
  | ok _ =>
      dsimp only
      by_cases same : fromAccount = toAccount
      · rw [if_pos same]
        exact .refused _ _
      · rw [if_neg same]
        cases foundSource : s.accounts.lookup fromAccount with
        | none => exact .refused _ _
        | some source =>
            cases foundTarget : s.accounts.lookup toAccount with
            | none => exact .refused _ _
            | some target =>
                dsimp only
                by_cases funded : source.balance < amount
                · rw [if_pos funded]
                  exact .refused _ _
                · rw [if_neg funded]
                  have transferable : Transferable s fromAccount toAccount amount source target :=
                    ⟨valid, same, foundSource, foundTarget, funded⟩
                  cases added : plus overflowChecks target.balance amount with
                  | none => exact .stranded transferable added
                  | some newBalance => exact .transferred transferable added

theorem makes_deed (command : BankingCommand) :
    Makes overflowChecks s command (deed overflowChecks s command) := by
  cases command with
  | createAccount accountId initialBalance =>
      exact makes_openDeed overflowChecks s accountId initialBalance
  | deposit accountId amount => exact makes_depositDeed overflowChecks s accountId amount
  | withdraw accountId amount => exact makes_withdrawDeed overflowChecks s accountId amount
  | transfer fromAccount toAccount amount =>
      exact makes_transferDeed overflowChecks s fromAccount toAccount amount
  | getBalance accountId =>
      unfold deed
      dsimp only
      cases s.accounts.lookup accountId with
      | none => exact .refused _ _
      | some account => exact .answered _ (by simp)
  | getAccount accountId =>
      unfold deed
      dsimp only
      cases s.accounts.lookup accountId with
      | none => exact .refused _ _
      | some account => exact .answered _ (by simp)
  | listAccounts => exact .listed
  | getTransactionHistory accountId limit => exact .answered _ (by simp)

variable {overflowChecks s}

/-- The two sides of a payment are different accounts. -/
theorem Makes.apart {command : BankingCommand} {payment : Payment}
    (makes : Makes overflowChecks s command (.paid payment)) :
    ∀ a ∈ payment.source, ∀ b ∈ payment.target, a.accountId ≠ b.accountId := by
  cases makes with
  | deposited valid found added => simp
  | withdrawn valid found funded => simp
  | transferred transferable added => simpa using transferable.apart

end Makes

end BankingSMR

end Rabia
