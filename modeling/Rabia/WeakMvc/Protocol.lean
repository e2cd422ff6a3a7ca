import Rabia.Core.Types
import Mathlib.Logic.Relation

/-!
# Weak MVC

`docs/weak_mvc.ivy`, the protocol that the engine is named after. Nodes that propose
values agree on whether to accept the value of this instance: in each phase every node
votes twice, and goes on to the next phase with a value from the second round or from
the common coin.

`Theory` holds the types of the file with their axioms, `State` its relations and `Step`
its six actions. A variable that an action leaves free in an `assume` is quantified over
all its values, as it is there.
-/

namespace Rabia.WeakMvc

/-- The quorums and the order of the phases, under the axioms of the file. -/
structure Theory (Node SetMajority SetFPlus1 Phase : Type*) where
  memberMaj : Node → SetMajority → Prop
  memberFp1 : Node → SetFPlus1 → Prop
  majority_meets_majority : ∀ q q', ∃ n, memberMaj n q ∧ memberMaj n q'
  majority_meets_fp1 : ∀ q r, ∃ n, memberMaj n q ∧ memberFp1 n r
  le : Phase → Phase → Prop
  succ : Phase → Phase → Prop
  zero : Phase
  le_refl : ∀ p, le p p
  le_trans : ∀ p q r, le p q → le q r → le p r
  le_antisymm : ∀ p q, le p q → le q p → p = q
  le_total : ∀ p q, le p q ∨ le q p
  succ_le : ∀ p q, succ p q → le p q
  succ_unique : ∀ p q q', succ p q → succ p q' → q = q'
  succ_ne : ∀ p q, succ p q → p ≠ q
  succ_injective : ∀ p p' q, succ p q → succ p' q → p = p'
  not_succ_zero : ∀ p, ¬ succ p zero
  le_zero : ∀ p, le p zero → p = zero
  le_pred : ∀ p q pred, le p q → p ≠ q → succ pred q → le p pred

structure State (Node Phase Value : Type*) where
  inPhase : Node → Phase → Prop
  propose : Node → Value → Prop
  voteRnd1 : Node → Phase → StateValue → Prop
  voteRnd2 : Node → Phase → StateValue → Prop
  decisionBc : Node → Phase → StateValue → Prop
  decisionFullVal : Node → Phase → Value → Prop
  decisionFullNoval : Node → Phase → Prop
  coin : Phase → StateValue → Prop

variable {Node SetMajority SetFPlus1 Phase Value : Type*}

/-- `after init`: nothing happened yet. -/
@[simp] def State.init : State Node Phase Value where
  inPhase _ _ := False
  propose _ _ := False
  voteRnd1 _ _ _ := False
  voteRnd2 _ _ _ := False
  decisionBc _ _ _ := False
  decisionFullVal _ _ _ := False
  decisionFullNoval _ _ := False
  coin _ _ := False

/-! ## Assignments -/

namespace State

variable (s : State Node Phase Value)

@[simp] def setPropose (n : Node) (v : Value) : State Node Phase Value :=
  { s with propose := fun n' v' => s.propose n' v' ∨ n' = n ∧ v' = v }

@[simp] def setVoteRnd1 (n : Node) (p : Phase) (v : StateValue) : State Node Phase Value :=
  { s with voteRnd1 := fun n' p' v' => s.voteRnd1 n' p' v' ∨ n' = n ∧ p' = p ∧ v' = v }

@[simp] def setVoteRnd2 (n : Node) (p : Phase) (v : StateValue) : State Node Phase Value :=
  { s with voteRnd2 := fun n' p' v' => s.voteRnd2 n' p' v' ∨ n' = n ∧ p' = p ∧ v' = v }

@[simp] def setDecisionBc (n : Node) (p : Phase) (v : StateValue) : State Node Phase Value :=
  { s with decisionBc := fun n' p' v' => s.decisionBc n' p' v' ∨ n' = n ∧ p' = p ∧ v' = v }

@[simp] def setDecisionFullVal (n : Node) (p : Phase) (v : Value) : State Node Phase Value :=
  { s with decisionFullVal := fun n' p' v' =>
      s.decisionFullVal n' p' v' ∨ n' = n ∧ p' = p ∧ v' = v }

@[simp] def setDecisionFullNoval (n : Node) (p : Phase) : State Node Phase Value :=
  { s with decisionFullNoval := fun n' p' => s.decisionFullNoval n' p' ∨ n' = n ∧ p' = p }

@[simp] def setCoin (p : Phase) (v : StateValue) : State Node Phase Value :=
  { s with coin := fun p' v' => s.coin p' v' ∨ p' = p ∧ v' = v }

@[simp] def enter (n : Node) (p : Phase) : State Node Phase Value :=
  { s with inPhase := fun n' p' => s.inPhase n' p' ∨ n' = n ∧ p' = p }

@[simp] def leave (n : Node) (p : Phase) : State Node Phase Value :=
  { s with inPhase := fun n' p' => s.inPhase n' p' ∧ ¬ (n' = n ∧ p' = p) }

/-- The node has not voted, decided or entered a phase. -/
structure Idle (n : Node) : Prop where
  voteRnd1 : ∀ p, ¬ ∃ v, s.voteRnd1 n p v
  voteRnd2 : ∀ p, ¬ ∃ v, s.voteRnd2 n p v
  decisionBc : ∀ p, ¬ ∃ v, s.decisionBc n p v
  inPhase : ∀ p, ¬ s.inPhase n p

end State

/-! ## Actions -/

variable (T : Theory Node SetMajority SetFPlus1 Phase) (s : State Node Phase Value)

/-- The value that `initial_vote1` votes for with the quorum `q`. -/
inductive InitialValue (q : SetMajority) : StateValue → Prop where
  | agreed {v} (all : ∀ n, T.memberMaj n q → s.propose n v) : InitialValue q .v1
  | split (none : ¬ ∃ v, ∀ n, T.memberMaj n q → s.propose n v) : InitialValue q .v0

/-- The value that `phase_rnd1` votes for. -/
inductive Rnd2Value (p : Phase) (q : SetMajority) : StateValue → Prop where
  | agreed {v} (all : ∀ n, T.memberMaj n q → s.voteRnd1 n p v) : Rnd2Value p q v
  | split (none : ¬ ∃ v, ∀ n, T.memberMaj n q → s.voteRnd1 n p v) : Rnd2Value p q .vQuestion

/-- Enough nodes of the quorum voted for the value in round 2 to decide it. -/
def Decides (p : Phase) (q : SetMajority) (v : StateValue) : Prop :=
  v ≠ .vQuestion ∧ ∃ n r, T.memberFp1 n r ∧
    ∀ n, T.memberFp1 n r → T.memberMaj n q ∧ s.voteRnd2 n p v

/-- Some node of the quorum voted for the value in round 2. -/
def Hints (p : Phase) (q : SetMajority) (v : StateValue) : Prop :=
  v ≠ .vQuestion ∧ ∃ n, T.memberMaj n q ∧ s.voteRnd2 n p v

/-- The branches of `phase_rnd2`: the value that the node goes on with, and what the
branch assigns before that. -/
inductive Rnd2Outcome (n : Node) (p : Phase) (q : SetMajority) :
    StateValue → State Node Phase Value → Prop where
  | decide {v} (enough : Decides T s p q v) : Rnd2Outcome n p q v (s.setDecisionBc n p v)
  | hinted {v} (noDecision : ¬ ∃ v, Decides T s p q v) (hint : Hints T s p q v) :
      Rnd2Outcome n p q v s
  | tossed {v} (noDecision : ¬ ∃ v, Decides T s p q v) (noHint : ¬ ∃ v, Hints T s p q v)
      (clear : v ≠ .vQuestion) (coin : s.coin p v) : Rnd2Outcome n p q v s
  | toss {v} (noDecision : ¬ ∃ v, Decides T s p q v) (noHint : ¬ ∃ v, Hints T s p q v)
      (noCoin : ¬ ∃ v, v ≠ .vQuestion ∧ s.coin p v) (clear : v ≠ .vQuestion) :
      Rnd2Outcome n p q v (s.setCoin p v)

/-- The actions. `decide_bc_decide_full_val` without a value that its quorum proposed
assigns nothing. -/
inductive Step : State Node Phase Value → State Node Phase Value → Prop where
  | initialProposal {s n v} (first : ¬ ∃ v, s.propose n v) (idle : s.Idle n) :
      Step s (s.setPropose n v)
  | decideBcDecideFullVal {s n p q v} (decided : s.decisionBc n p .v1)
      (all : ∀ n, T.memberMaj n q → s.propose n v) : Step s (s.setDecisionFullVal n p v)
  | decideBcDecideFullNoval {s n p} (decided : s.decisionBc n p .v0) :
      Step s (s.setDecisionFullNoval n p)
  | initialVote1 {s n q v} (proposed : ∃ v, s.propose n v) (idle : s.Idle n)
      (value : InitialValue T s q v) :
      Step s ((s.setVoteRnd1 n T.zero v).enter n T.zero)
  | phaseRnd1 {s n p q v} (here : s.inPhase n p) (first : ¬ ∃ v, s.voteRnd2 n p v)
      (heard : ∀ n, T.memberMaj n q → ∃ v, s.voteRnd1 n p v) (value : Rnd2Value T s p q v) :
      Step s (s.setVoteRnd2 n p v)
  | phaseRnd2 {s s' n p next q v} (here : s.inPhase n p) (voted : ∃ v, s.voteRnd2 n p v)
      (heard : ∀ n, T.memberMaj n q → ∃ v, s.voteRnd2 n p v) (succ : T.succ p next)
      (outcome : Rnd2Outcome T s n p q v s') :
      Step s (((s'.setVoteRnd1 n next v).enter n next).leave n p)

/-- The states that the actions lead to. -/
def Reachable (s : State Node Phase Value) : Prop :=
  Relation.ReflTransGen (Step T) State.init s

end Rabia.WeakMvc
