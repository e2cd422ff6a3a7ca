import Rabia.Core.Types
import Rabia.Lib.MachineInt
import Rabia.Lib.Table
import Mathlib.Data.String.Basic

/-!
# The banking state machine

`examples/banking_smr/src/lib.rs`. What the environment decides while a command is applied
is a parameter: the readings of the system clock, the transaction id that is generated and
the order in which the hash map of the accounts is walked. So is whether the program was
compiled with overflow checks. A command that panics gives no response.
-/

namespace Rabia

open Rabia.Lib

/-- Account information. The balance is in cents. -/
structure Account where
  accountId : String
  balance : Int64
  createdAt : Nat
  lastTransactionAt : Nat
  transactionCount : Nat
deriving DecidableEq

namespace Account

/-- `Account::new`, when the clock reads `now`. -/
def new (now : Nat) (accountId : String) (initialBalance : Int64) : Account where
  accountId := accountId
  balance := initialBalance
  createdAt := now
  lastTransactionAt := now
  transactionCount := 0

/-- `update_balance`. -/
def updateBalance (now : Nat) (newBalance : Int64) (account : Account) : Account :=
  { account with
    balance := newBalance
    lastTransactionAt := now
    transactionCount := (account.transactionCount + 1) % u64Size }

end Account

inductive TransactionType where
  | deposit
  | withdrawal
  | transfer
deriving DecidableEq, Repr

/-- Transaction record. A deposit has no source account, a withdrawal no destination. -/
structure Transaction where
  transactionId : String
  fromAccount : Option String
  toAccount : Option String
  amount : Int64
  timestamp : Nat
  transactionType : TransactionType
deriving DecidableEq

/-- Commands that can be applied to the banking system. -/
inductive BankingCommand where
  | createAccount (accountId : String) (initialBalance : Int64)
  | deposit (accountId : String) (amount : Int64)
  | withdraw (accountId : String) (amount : Int64)
  | transfer (fromAccount toAccount : String) (amount : Int64)
  | getBalance (accountId : String)
  | getAccount (accountId : String)
  | listAccounts
  | getTransactionHistory (accountId : Option String) (limit : Option Nat)
deriving DecidableEq

inductive BankingData where
  | account (account : Account)
  | balance (balance : Int64)
  | accounts (accounts : List Account)
  | transactions (transactions : List Transaction)
deriving DecidableEq

/-- Response from banking operations. -/
structure BankingResponse where
  success : Bool
  data : Option BankingData
  error : Option String
  transactionId : Option String
deriving DecidableEq

namespace BankingResponse

/-- `BankingResponse::success`. -/
def succeed (data : Option BankingData) : BankingResponse := ⟨true, data, none, none⟩

/-- `success_with_transaction`. -/
def successWithTransaction (data : Option BankingData) (transactionId : String) :
    BankingResponse := ⟨true, data, none, some transactionId⟩

/-- `BankingResponse::error`. -/
def fail (message : String) : BankingResponse := ⟨false, none, some message, none⟩

end BankingResponse

/-- State of the banking state machine. -/
structure BankingState where
  accounts : Table String Account := ∅
  transactions : List Transaction := []
  operationCount : Nat := 0
deriving DecidableEq

/-- What the environment decides while one command is applied. -/
structure BankingEnv where
  /-- The reading of the clock in `Account::new`. -/
  opened : Nat
  /-- The readings in `update_balance` of the account that pays, and of the one that is paid. -/
  debited : Nat
  credited : Nat
  /-- The reading for the transaction record. -/
  recorded : Nat
  transactionId : String
  /-- The order in which the accounts are walked. -/
  order : List String

namespace BankingSMR

/-- `BankingSMR::new`. -/
def new : BankingState := {}

/-- `get_state`. -/
def getState (s : BankingState) : BankingState := s

/-- `validate_amount`. -/
def validateAmount (amount : Int64) : Except String Unit :=
  if amount ≤ 0 then .error "Amount must be positive"
  else if amount > 1000000000 then .error "Amount exceeds maximum limit"
  else .ok ()

/-- `validate_account_id`. -/
def validateAccountId (accountId : String) : Except String Unit :=
  if accountId.isEmpty then .error "Account ID cannot be empty"
  else if accountId.utf8ByteSize > 50 then .error "Account ID too long"
  else .ok ()

/-- `total_value`, when the accounts are walked in the order of `order`. -/
def totalValue (overflowChecks : Bool) (order : List String) (s : BankingState) : Option Int64 :=
  sumI64 overflowChecks ((Table.walk order s.accounts).map fun entry => entry.2.balance)

/-- An early return of `BankingResponse::error`. -/
def refuse (message : String) (s : BankingState) : Option BankingResponse × BankingState :=
  (some (.fail message), s)

/-- The account is given a new balance. -/
def setBalance (now : Nat) (account : Account) (accountId : String) (newBalance : Int64)
    (s : BankingState) : BankingState :=
  { s with accounts := s.accounts.insert accountId (account.updateBalance now newBalance) }

/-- `transactions.push`. -/
def record (transaction : Transaction) (s : BankingState) : BankingState :=
  { s with transactions := s.transactions ++ [transaction] }

def createAccount (env : BankingEnv) (accountId : String) (initialBalance : Int64)
    (s : BankingState) : Option BankingResponse × BankingState :=
  match validateAccountId accountId with
  | .error e => refuse e s
  | .ok () =>
    if initialBalance < 0 then refuse "Initial balance cannot be negative" s
    else if accountId ∈ s.accounts then refuse "Account already exists" s
    else
      let account := Account.new env.opened accountId initialBalance
      (some (.succeed (some (.account account))),
        { s with accounts := s.accounts.insert accountId account })

def deposit (env : BankingEnv) (accountId : String) (amount : Int64) (s : BankingState) :
    Option BankingResponse × BankingState :=
  match validateAmount amount with
  | .error e => refuse e s
  | .ok () =>
    match s.accounts.lookup accountId with
    | none => refuse "Account not found" s
    | some account =>
      match checkedAdd account.balance amount with
      | none => refuse "Deposit would cause overflow" s
      | some newBalance =>
        let s := setBalance env.credited account accountId newBalance s
        let transaction : Transaction :=
          { transactionId := env.transactionId
            fromAccount := none
            toAccount := some accountId
            amount
            timestamp := env.recorded
            transactionType := .deposit }
        (some (.successWithTransaction (some (.balance newBalance)) env.transactionId),
          record transaction s)

section Unchecked

variable (overflowChecks : Bool)

def withdraw (env : BankingEnv) (accountId : String) (amount : Int64) (s : BankingState) :
    Option BankingResponse × BankingState :=
  match validateAmount amount with
  | .error e => refuse e s
  | .ok () =>
    match s.accounts.lookup accountId with
    | none => refuse "Account not found" s
    | some account =>
      if account.balance < amount then refuse "Insufficient funds" s
      else
        match minus overflowChecks account.balance amount with
        | none => (none, s)
        | some newBalance =>
          let s := setBalance env.debited account accountId newBalance s
          let transaction : Transaction :=
            { transactionId := env.transactionId
              fromAccount := some accountId
              toAccount := none
              amount
              timestamp := env.recorded
              transactionType := .withdrawal }
          (some (.successWithTransaction (some (.balance newBalance)) env.transactionId),
            record transaction s)

/-- The block of `Transfer` that performs it. The source account has been debited when the
new balance of the destination is computed. -/
def performTransfer (env : BankingEnv) (fromAccount toAccount : String) (amount : Int64)
    (source : Account) (s : BankingState) : Option BankingResponse × BankingState :=
  match minus overflowChecks source.balance amount with
  | none => (none, s)
  | some newBalance =>
    let s := setBalance env.debited source fromAccount newBalance s
    match s.accounts.lookup toAccount with
    | none => (none, s)
    | some target =>
      match plus overflowChecks target.balance amount with
      | none => (none, s)
      | some toNewBalance =>
        let s := setBalance env.credited target toAccount toNewBalance s
        let transaction : Transaction :=
          { transactionId := env.transactionId
            fromAccount := some fromAccount
            toAccount := some toAccount
            amount
            timestamp := env.recorded
            transactionType := .transfer }
        (some (.successWithTransaction none env.transactionId), record transaction s)

def transfer (env : BankingEnv) (fromAccount toAccount : String) (amount : Int64)
    (s : BankingState) : Option BankingResponse × BankingState :=
  match validateAmount amount with
  | .error e => refuse e s
  | .ok () =>
    if fromAccount = toAccount then refuse "Cannot transfer to same account" s
    else
      match s.accounts.lookup fromAccount with
      | none => refuse "Source account not found" s
      | some source =>
        if toAccount ∉ s.accounts then refuse "Destination account not found" s
        else if source.balance < amount then refuse "Insufficient funds" s
        else performTransfer overflowChecks env fromAccount toAccount amount source s

/-- The transactions to or from the account, or all of them. -/
def matching (accountId : Option String) (s : BankingState) : List Transaction :=
  match accountId with
  | some accountId =>
    s.transactions.filter fun tx => tx.fromAccount = some accountId ∨ tx.toAccount = some accountId
  | none => s.transactions

/-- `GetTransactionHistory`. -/
def transactionHistory (accountId : Option String) (limit : Option Nat) (s : BankingState) :
    List Transaction :=
  -- `sort_by` is stable, and compares the timestamps the other way round.
  let transactions := (matching accountId s).insertionSort fun a b => b.timestamp ≤ a.timestamp
  match limit with
  | some limit => transactions.take limit
  | none => transactions

def applyCommand (env : BankingEnv) (command : BankingCommand) (s : BankingState) :
    Option BankingResponse × BankingState :=
  let s := { s with operationCount := (s.operationCount + 1) % u64Size }
  match command with
  | .createAccount accountId initialBalance => createAccount env accountId initialBalance s
  | .deposit accountId amount => deposit env accountId amount s
  | .withdraw accountId amount => withdraw overflowChecks env accountId amount s
  | .transfer fromAccount toAccount amount =>
    transfer overflowChecks env fromAccount toAccount amount s
  | .getBalance accountId =>
    match s.accounts.lookup accountId with
    | some account => (some (.succeed (some (.balance account.balance))), s)
    | none => refuse "Account not found" s
  | .getAccount accountId =>
    match s.accounts.lookup accountId with
    | some account => (some (.succeed (some (.account account))), s)
    | none => refuse "Account not found" s
  | .listAccounts =>
    let accounts := (Table.walk env.order s.accounts).map Prod.snd
    (some (.succeed (some (.accounts accounts))), s)
  | .getTransactionHistory accountId limit =>
    (some (.succeed (some (.transactions (transactionHistory accountId limit s)))), s)

end Unchecked

end BankingSMR

end Rabia
