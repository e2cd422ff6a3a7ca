import Rabia.Lib.Conservation
import Rabia.Lib.StableSort
import Rabia.Smr.Payments

/-!
# The transaction history of the bank

The bank keeps its transactions in the order in which they were executed. A request for the
history sorts those that match by their timestamps, newest first, and the sort is stable:
of transactions that were executed in the same millisecond the oldest comes first.
-/

namespace Rabia

open Rabia.Lib

namespace BankingSMR

variable (overflowChecks : Bool)

/-- The bank after a command. -/
def serve (s : BankingState) (next : BankingEnv × BankingCommand) : BankingState :=
  (applyCommand overflowChecks next.1 next.2 s).2

/-- The transaction that a command executes, if it does. -/
def executed (s : BankingState) (next : BankingEnv × BankingCommand) : List Transaction :=
  match deed overflowChecks s next.2 with
  | .paid payment => [payment.transaction next.1]
  | _ => []

theorem serve_transactions (s : BankingState) (next : BankingEnv × BankingCommand) :
    (serve overflowChecks s next).transactions =
      s.transactions ++ executed overflowChecks s next := by
  unfold serve executed
  rw [applyCommand_eq]
  cases deed overflowChecks s next.2 with
  | paid payment =>
      show (payment.settle next.1 (count s)).transactions ++ _ = _
      rw [Payment.settle, settleSide_transactions, settleSide_transactions, count_transactions]
  | _ => exact (List.append_nil _).symm

/-- All transactions of a run, in the order of execution. -/
def allExecuted (commands : List (BankingEnv × BankingCommand)) : List Transaction :=
  collect (serve overflowChecks) (executed overflowChecks) new commands

theorem transactions_run (commands : List (BankingEnv × BankingCommand)) :
    (run (serve overflowChecks) new commands).transactions =
      allExecuted overflowChecks commands := by
  have every : Along (serve overflowChecks) (fun _ _ => True) new commands :=
    along_of_forall (fun _ _ => trivial) _ _
  exact collect_grown BankingState.transactions
    (fun s next _ => serve_transactions overflowChecks s next) every

/-- The timestamps are among the readings of the clock, in order. -/
theorem timestamps_sublist (s : BankingState) (commands : List (BankingEnv × BankingCommand)) :
    ((collect (serve overflowChecks) (executed overflowChecks) s commands).map
      Transaction.timestamp).Sublist (commands.map fun next => next.1.recorded) := by
  induction commands generalizing s with
  | nil => exact List.Sublist.slnil
  | cons next commands ih =>
      rw [collect_cons, List.map_append, List.map_cons]
      have rest := ih (serve overflowChecks s next)
      unfold executed at rest ⊢
      cases deed overflowChecks s next.2 with
      | paid payment => exact rest.cons_cons _
      | _ => exact rest.cons _

/-- The transaction is one to or from the account, if one is asked for. -/
def Concerns (accountId : Option String) (transaction : Transaction) : Prop :=
  ∀ id ∈ accountId, transaction.fromAccount = some id ∨ transaction.toAccount = some id

instance (accountId : Option String) (transaction : Transaction) :
    Decidable (Concerns accountId transaction) := inferInstanceAs (Decidable (∀ id ∈ accountId, _))

theorem matching_eq (accountId : Option String) (s : BankingState) :
    matching accountId s = s.transactions.filter fun tx => Concerns accountId tx := by
  cases accountId with
  | none => simp [matching, Concerns]
  | some id => simp [matching, Concerns]

/-- The transactions of a run that match, the most recently executed first. -/
def newestMatching (commands : List (BankingEnv × BankingCommand)) (accountId : Option String) :
    List Transaction :=
  ((allExecuted overflowChecks commands).filter fun tx => Concerns accountId tx).reverse

/-- The first of a list, as many as the limit allows. -/
def upTo (limit : Option Nat) (transactions : List Transaction) : List Transaction :=
  transactions.take (limit.getD transactions.length)

theorem transactionHistory_run (commands : List (BankingEnv × BankingCommand))
    (accountId : Option String) (limit : Option Nat) :
    transactionHistory accountId limit (run (serve overflowChecks) new commands) =
      (newestFirst Transaction.timestamp
        (newestMatching overflowChecks commands accountId).reverse).take
          (limit.getD (newestMatching overflowChecks commands accountId).length) := by
  have matched : matching accountId (run (serve overflowChecks) new commands) =
      (newestMatching overflowChecks commands accountId).reverse := by
    rw [matching_eq, transactions_run, newestMatching, List.reverse_reverse]
  have length : (newestFirst Transaction.timestamp
      (newestMatching overflowChecks commands accountId).reverse).length =
        (newestMatching overflowChecks commands accountId).length := by
    rw [(perm_newestFirst _).length_eq, List.length_reverse]
  unfold transactionHistory
  rw [matched]
  cases limit with
  | some limit => rfl
  | none => exact (List.take_of_length_le length.le).symm

/-- The response to a request for the history is the matching transactions that were
executed last, as many as the limit allows, the most recent first. -/
def AnswersNewestFirst (commands : List (BankingEnv × BankingCommand))
    (accountId : Option String) (limit : Option Nat) : Prop :=
  ∀ env, (applyCommand overflowChecks env (.getTransactionHistory accountId limit)
      (run (serve overflowChecks) new commands)).1 =
    some (.succeed (some (.transactions
      (upTo limit (newestMatching overflowChecks commands accountId)))))

/-- None of those has the timestamp of the matching transaction that was executed before
it. -/
def Untied (commands : List (BankingEnv × BankingCommand)) (accountId : Option String)
    (limit : Option Nat) : Prop :=
  Descends Transaction.timestamp
    (limit.getD (newestMatching overflowChecks commands accountId).length)
    (newestMatching overflowChecks commands accountId)

instance (commands : List (BankingEnv × BankingCommand)) (accountId : Option String)
    (limit : Option Nat) : Decidable (Untied overflowChecks commands accountId limit) :=
  inferInstanceAs (Decidable (Descends _ _ _))

theorem answersNewestFirst_iff (commands : List (BankingEnv × BankingCommand))
    (accountId : Option String) (limit : Option Nat) :
    AnswersNewestFirst overflowChecks commands accountId limit ↔
      transactionHistory accountId limit (run (serve overflowChecks) new commands) =
        upTo limit (newestMatching overflowChecks commands accountId) := by
  constructor
  · intro answers
    have answer := answers ⟨0, 0, 0, 0, "", []⟩
    rw [applyCommand_eq] at answer
    injection answer with response
    injection response with _ data
    injection data with data
    injection data
  · intro same env
    rw [applyCommand_eq, ← same]
    rfl

/-- Under a clock that never goes backwards, the history is newest first if no two matching
transactions that are next to each other have the same timestamp, the earlier of them
counted when the limit leaves it out; and, transaction ids being unique, only then. -/
theorem history_newest_first_iff (commands : List (BankingEnv × BankingCommand))
    (forward : (commands.map fun next => next.1.recorded).Pairwise (· ≤ ·))
    (accountId : Option String) (limit : Option Nat) :
    (Untied overflowChecks commands accountId limit →
        AnswersNewestFirst overflowChecks commands accountId limit) ∧
      (((allExecuted overflowChecks commands).map Transaction.transactionId).Nodup →
        AnswersNewestFirst overflowChecks commands accountId limit →
          Untied overflowChecks commands accountId limit) := by
  have times : (allExecuted overflowChecks commands).Pairwise fun older newer =>
      older.timestamp ≤ newer.timestamp :=
    List.pairwise_map.mp (forward.sublist (timestamps_sublist overflowChecks new commands))
  have sorted : (newestMatching overflowChecks commands accountId).Pairwise fun newer older =>
      older.timestamp ≤ newer.timestamp :=
    List.pairwise_reverse.mpr (times.filter _)
  rw [answersNewestFirst_iff, transactionHistory_run]
  constructor
  · intro untied
    exact take_newestFirst_of_descends sorted untied
  · intro unique same
    have distinct : (newestMatching overflowChecks commands accountId).Nodup :=
      List.nodup_reverse.mpr ((List.Nodup.of_map _ unique).filter _)
    exact descends_of_take_newestFirst sorted distinct same

/-- Two deposits, a millisecond apart. -/
theorem history_newest_first_apart :
    AnswersNewestFirst false
      [(⟨0, 0, 0, 5, "x", []⟩, .createAccount "a" 0), (⟨0, 0, 0, 5, "x", []⟩, .deposit "a" 1),
        (⟨0, 0, 0, 6, "y", []⟩, .deposit "a" 2)] (some "a") none :=
  (history_newest_first_iff false _ (by decide) (some "a") none).1 (by decide)

/-- Of two deposits in the same millisecond the history has the older one first. -/
theorem history_oldest_first :
    ¬ ∀ (overflowChecks : Bool) (commands : List (BankingEnv × BankingCommand)),
      (commands.map fun next => next.1.recorded).Pairwise (· ≤ ·) →
        ∀ accountId limit, AnswersNewestFirst overflowChecks commands accountId limit := by
  intro newest
  let commands : List (BankingEnv × BankingCommand) :=
    [(⟨0, 0, 0, 5, "x", []⟩, .createAccount "a" 0), (⟨0, 0, 0, 5, "x", []⟩, .deposit "a" 1),
      (⟨0, 0, 0, 5, "y", []⟩, .deposit "a" 2)]
  have answer := newest false commands (by decide) none (some 1)
  rw [answersNewestFirst_iff] at answer
  exact absurd answer (by decide)

end BankingSMR

end Rabia
