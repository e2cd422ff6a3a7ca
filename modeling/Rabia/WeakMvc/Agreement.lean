import Rabia.Lib.Quorum
import Rabia.WeakMvc.Invariant

/-!
# Weak MVC decides one value

A phase is `Locked` once every vote of its first round is for one value. A decision locks
the next phase, a locked phase locks the next one, and in a locked phase only its value can
be voted for or decided: so all decisions of all phases agree (`one_value_decided`), and the
full decisions with them.

`Cluster.theory` is the theory of the majorities of a cluster, with the phase numbers of
the engine.
-/

namespace Rabia.WeakMvc

open Rabia.Lib

variable {Node SetMajority SetFPlus1 Phase Value : Type*}
  {T : Theory Node SetMajority SetFPlus1 Phase} {s : State Node Phase Value}

/-! ## Votes of round 2 -/

/-- Two votes of round 2 for V0 or V1 in a phase are for the same value. -/
theorem Sound.voteRnd2_agree (sound : Sound T s) {n n' : Node} {p : Phase} {v v' : StateValue}
    (voted : s.voteRnd2 n p v) (voted' : s.voteRnd2 n' p v') (clear : v ≠ .vQuestion)
    (clear' : v' ≠ .vQuestion) : v = v' := by
  obtain ⟨q, all⟩ := sound.sourced.backed n p v voted clear
  obtain ⟨q', all'⟩ := sound.sourced.backed n' p v' voted' clear'
  obtain ⟨m, member, member'⟩ := T.majority_meets_majority q q'
  exact sound.ordered.single m p v v' (all m member) (all' m member')

/-- Every majority that voted holds one of the nodes that a decision rests on. -/
theorem Sound.decided_in (sound : Sound T s) {n : Node} {p : Phase} {v : StateValue}
    (decided : s.decisionBc n p v) (q : SetMajority) :
    ∃ m, T.memberMaj m q ∧ s.voteRnd2 m p v := by
  obtain ⟨-, r, -, all⟩ := sound.sourced.decided n p v decided
  obtain ⟨m, member, member'⟩ := T.majority_meets_fp1 q r
  exact ⟨m, member, all m member'⟩

/-- No coin is tossed in a phase with a decision. -/
theorem Sound.no_coin_of_decided (sound : Sound T s) {n : Node} {p : Phase} {v w : StateValue}
    (decided : s.decisionBc n p v) : ¬ s.coin p w := by
  intro tossed
  obtain ⟨-, q, all⟩ := sound.sourced.coin p w tossed
  obtain ⟨m, member, voted⟩ := sound.decided_in decided q
  exact (sound.sourced.decided n p v decided).1
    (sound.sourced.single m p _ _ voted (all m member))

/-! ## Locked phases -/

/-- `state_value_locked`. -/
def Locked (s : State Node Phase Value) (p : Phase) (v : StateValue) : Prop :=
  ∀ n w, s.voteRnd1 n p w → w = v

theorem Locked.voteRnd2 {p : Phase} {v w : StateValue} (locked : Locked s p v)
    (sound : Sound T s) {n : Node} (voted : s.voteRnd2 n p w) : w = v := by
  by_cases clear : w = .vQuestion
  · -- a vote for `?` needs votes for both values in round 1
    subst clear
    obtain ⟨⟨m, zero⟩, m', one⟩ := sound.sourced.torn n p voted
    have both := (locked m _ zero).trans (locked m' _ one).symm
    cases both
  · obtain ⟨q, all⟩ := sound.sourced.backed n p w voted clear
    obtain ⟨m, member⟩ := T.exists_member q
    exact locked m w (all m member)

theorem Locked.no_undecided {p : Phase} {v : StateValue} (locked : Locked s p v)
    (sound : Sound T s) {n : Node} : ¬ s.voteRnd2 n p .vQuestion := by
  intro voted
  obtain ⟨w, before⟩ := sound.sourced.after n p _ voted
  have value := (locked n w before).trans (locked.voteRnd2 sound voted).symm
  exact sound.sourced.clear n p w before value

theorem Locked.no_coin {p : Phase} {v w : StateValue} (locked : Locked s p v)
    (sound : Sound T s) : ¬ s.coin p w := by
  intro tossed
  obtain ⟨-, q, all⟩ := sound.sourced.coin p w tossed
  obtain ⟨m, member⟩ := T.exists_member q
  exact locked.no_undecided sound (all m member)

/-- A majority that voted in round 2 of a locked phase voted for its value. -/
theorem Locked.heard {p : Phase} {v : StateValue} (locked : Locked s p v) (sound : Sound T s)
    {q : SetMajority} (heard : ∀ m, T.memberMaj m q → ∃ w, s.voteRnd2 m p w) :
    ∃ m, T.memberMaj m q ∧ s.voteRnd2 m p v := by
  obtain ⟨m, member⟩ := T.exists_member q
  obtain ⟨w, voted⟩ := heard m member
  exact ⟨m, member, locked.voteRnd2 sound voted ▸ voted⟩

theorem Locked.next {p next : Phase} {v : StateValue} (locked : Locked s p v)
    (sound : Sound T s) (succ : T.succ p next) : Locked s next v := by
  intro n w voted
  obtain ⟨q, -, ⟨m, -, before⟩ | ⟨tossed, -⟩⟩ := sound.sourced.carried n p next w succ voted
  · exact locked.voteRnd2 sound before
  · exact absurd tossed (locked.no_coin sound)

/-- A decision locks the next phase. -/
theorem Sound.locked_of_decided (sound : Sound T s) {n : Node} {p next : Phase} {v : StateValue}
    (decided : s.decisionBc n p v) (succ : T.succ p next) : Locked s next v := by
  intro m w voted
  have clear := (sound.sourced.decided n p v decided).1
  have clear' := sound.sourced.clear m next w voted
  obtain ⟨q, -, ⟨k, -, before⟩ | ⟨tossed, -⟩⟩ := sound.sourced.carried m p next w succ voted
  · obtain ⟨k', -, before'⟩ := sound.decided_in decided q
    exact sound.voteRnd2_agree before before' clear' clear
  · exact absurd tossed (sound.no_coin_of_decided decided)

/-- What is decided was voted for in round 1. -/
theorem Sound.voted_of_decided (sound : Sound T s) {n : Node} {p : Phase} {v : StateValue}
    (decided : s.decisionBc n p v) : ∃ m, s.voteRnd1 m p v := by
  obtain ⟨clear, r, ⟨m, member⟩, all⟩ := sound.sourced.decided n p v decided
  obtain ⟨q, all'⟩ := sound.sourced.backed m p v (all m member) clear
  obtain ⟨k, member'⟩ := T.exists_member q
  exact ⟨k, all' k member'⟩

theorem Locked.decided {p : Phase} {v w : StateValue} (locked : Locked s p v)
    (sound : Sound T s) {n : Node} (decided : s.decisionBc n p w) : w = v := by
  obtain ⟨m, voted⟩ := sound.voted_of_decided decided
  exact locked m w voted

/-- A value that locks a phase locks all that it leads to. -/
theorem Locked.later {p p' : Phase} {v : StateValue} (locked : Locked s p v)
    (sound : Sound T s) (later : Relation.ReflTransGen T.succ p p') : Locked s p' v := by
  induction later with
  | refl => exact locked
  | tail _ succ ih => exact ih.next sound succ

/-! ## Agreement -/

/-- Of two phases with votes, one leads to the other. -/
theorem Sound.leads (sound : Sound T s) {n n' : Node} {p p' : Phase} {v v' : StateValue}
    (voted : s.voteRnd1 n p v) (voted' : s.voteRnd1 n' p' v') :
    Relation.ReflTransGen T.succ p p' ∨ Relation.ReflTransGen T.succ p' p :=
  Relation.ReflTransGen.total_of_right_unique (fun a b c => T.succ_unique a b c)
    (sound.sourced.counted n p v voted) (sound.sourced.counted n' p' v' voted')

theorem Sound.agree_of_leads (sound : Sound T s) {n n' : Node} {p p' : Phase}
    {v v' : StateValue} (decided : s.decisionBc n p v) (decided' : s.decisionBc n' p' v')
    (later : Relation.ReflTransGen T.succ p p') : v = v' := by
  rcases later.cases_head with rfl | ⟨next, succ, later⟩
  · obtain ⟨clear, r, ⟨m, member⟩, all⟩ := sound.sourced.decided n p v decided
    obtain ⟨clear', r', ⟨m', member'⟩, all'⟩ := sound.sourced.decided n' p v' decided'
    exact sound.voteRnd2_agree (all m member) (all' m' member') clear clear'
  · have locked := (sound.locked_of_decided decided succ).later sound later
    exact (locked.decided sound decided').symm

theorem Sound.decisionBc_agree (sound : Sound T s) {n n' : Node} {p p' : Phase}
    {v v' : StateValue} (decided : s.decisionBc n p v) (decided' : s.decisionBc n' p' v') :
    v = v' := by
  obtain ⟨m, voted⟩ := sound.voted_of_decided decided
  obtain ⟨m', voted'⟩ := sound.voted_of_decided decided'
  rcases sound.leads voted voted' with later | later
  · exact sound.agree_of_leads decided decided' later
  · exact (sound.agree_of_leads decided' decided later).symm

/-- What is said of the decisions, whoever makes them in whatever phases. -/
structure DecisionsAgree (T : Theory Node SetMajority SetFPlus1 Phase)
    (s : State Node Phase Value) : Prop where
  decisionBc : ∀ n p v n' p' v', s.decisionBc n p v → s.decisionBc n' p' v' → v = v'
  /-- One value is fully decided, and a majority proposed it. -/
  fullVal : ∀ n p v n' p' v', s.decisionFullVal n p v → s.decisionFullVal n' p' v' → v = v'
  proposed : ∀ n p v, s.decisionFullVal n p v → ∃ q, ∀ m, T.memberMaj m q → s.propose m v
  /-- Nobody decides on a value where another decides on none. -/
  fullNoval : ∀ n p v n' p', s.decisionFullVal n p v → ¬ s.decisionFullNoval n' p'

theorem Sound.decisionsAgree (sound : Sound T s) : DecisionsAgree T s := by
  refine ⟨fun _ _ _ _ _ _ => sound.decisionBc_agree, ?_, ?_, ?_⟩
  · intro n p v n' p' v' decided decided'
    obtain ⟨-, q, all⟩ := sound.final.fullVal n p v decided
    obtain ⟨-, q', all'⟩ := sound.final.fullVal n' p' v' decided'
    obtain ⟨m, member, member'⟩ := T.majority_meets_majority q q'
    exact sound.final.propose m v v' (all m member) (all' m member')
  · intro n p v decided
    exact (sound.final.fullVal n p v decided).2
  · intro n p v n' p' decided decided'
    have differ := sound.decisionBc_agree (sound.final.fullVal n p v decided).1
      (sound.final.fullNoval n' p' decided')
    cases differ

/-- In whatever order the nodes take their steps, with whatever quorums they hear and
however the coins fall, they decide one value. -/
theorem one_value_decided (reachable : Reachable T s) : DecisionsAgree T s :=
  (sound_of_reachable reachable).decisionsAgree

/-! ## The majorities of a cluster -/

section OfCluster

variable {κ : Type*} [DecidableEq κ] (members : Finset κ)

/-- The sets of members that are large enough. -/
def LargeSet (size : Nat) : Type _ := { q : Finset κ // q ⊆ members ∧ size ≤ q.card }

/-- The quorums of a cluster: majorities, and sets of which every majority meets one. -/
def Cluster.theory : Theory κ (LargeSet members (majority members))
    (LargeSet members (members.card + 1 - majority members)) PhaseId where
  memberMaj n q := n ∈ q.val
  memberFp1 n r := n ∈ r.val
  majority_meets_majority q q' :=
    majorities_meet q.property.1 q'.property.1 q.property.2 q'.property.2
  majority_meets_fp1 q r := by
    have overlap : members.card < q.val.card + r.val.card := by
      have large := q.property.2
      have rest := r.property.2
      omega
    obtain ⟨n, both⟩ :=
      Finset.inter_nonempty_of_card_lt_card_add_card q.property.1 r.property.1 overlap
    exact ⟨n, (Finset.mem_inter.mp both).1, (Finset.mem_inter.mp both).2⟩
  le p q := p ≤ q
  succ p q := q = p + 1
  zero := 0
  le_refl p := Nat.le_refl p
  le_trans _ _ _ := Nat.le_trans
  le_antisymm _ _ := Nat.le_antisymm
  le_total p q := Nat.le_total p q
  succ_le p q succ := succ ▸ Nat.le_succ p
  succ_unique _ _ _ succ succ' := succ.trans succ'.symm
  succ_ne p _ succ := succ ▸ (Nat.lt_succ_self p).ne
  succ_injective _ _ _ succ succ' := Nat.succ.inj (succ.symm.trans succ')
  not_succ_zero _ succ := nomatch succ
  le_zero _ below := Nat.le_zero.mp below
  le_pred p q pred below ne succ := by
    have less : p < q := Nat.lt_of_le_of_ne below ne
    rw [succ] at less
    exact Nat.le_of_lt_succ less

end OfCluster

/-! ## Two of three nodes accept a value -/

/-- The nodes 0 and 1 of three. -/
def firstTwo : LargeSet ({0, 1, 2} : Finset Nat) 2 := ⟨{0, 1}, by decide, by decide⟩

theorem forall_firstTwo {P : Nat → Prop} :
    (∀ n, (Cluster.theory ({0, 1, 2} : Finset Nat)).memberMaj n firstTwo → P n) ↔ P 0 ∧ P 1 := by
  simp [Cluster.theory, firstTwo]

/-- They propose the same value. -/
@[simp] def proposedByTwo : State Nat PhaseId Unit := (State.init.setPropose 0 ()).setPropose 1 ()

/-- They vote for it in round 1. -/
@[simp] def votedByTwo : State Nat PhaseId Unit :=
  (((proposedByTwo.setVoteRnd1 0 0 .v1).enter 0 0).setVoteRnd1 1 0 .v1).enter 1 0

/-- They hear each other and vote for it in round 2. -/
@[simp] def repeatedByTwo : State Nat PhaseId Unit :=
  (votedByTwo.setVoteRnd2 0 0 .v1).setVoteRnd2 1 0 .v1

/-- Node 0 decides and goes on. -/
@[simp] def decidedByFirst : State Nat PhaseId Unit :=
  (((repeatedByTwo.setDecisionBc 0 0 .v1).setVoteRnd1 0 1 .v1).enter 0 1).leave 0 0

theorem reachable_decidedByFirst :
    Reachable (Cluster.theory ({0, 1, 2} : Finset Nat))
      (decidedByFirst.setDecisionFullVal 0 0 ()) := by
  have proposed : Reachable (Cluster.theory ({0, 1, 2} : Finset Nat)) proposedByTwo := by
    have first : (State.init : State Nat PhaseId Unit).Idle 0 := by constructor <;> simp
    have second : ((State.init : State Nat PhaseId Unit).setPropose 0 ()).Idle 1 := by
      constructor <;> simp
    exact .tail (.single (.initialProposal (by simp) first)) (.initialProposal (by simp) second)
  have voted : Reachable (Cluster.theory ({0, 1, 2} : Finset Nat)) votedByTwo := by
    have first : proposedByTwo.Idle 0 := by constructor <;> simp
    have second : ((proposedByTwo.setVoteRnd1 0 0 .v1).enter 0 0).Idle 1 := by
      constructor <;> simp
    exact .tail (.tail proposed (.initialVote1 (q := firstTwo) (by simp) first
      (.agreed (v := ()) (by rw [forall_firstTwo]; simp)))) (.initialVote1 (q := firstTwo)
      (by simp) second (.agreed (v := ()) (by rw [forall_firstTwo]; simp)))
  have repeated : Reachable (Cluster.theory ({0, 1, 2} : Finset Nat)) repeatedByTwo :=
    .tail (.tail voted (.phaseRnd1 (q := firstTwo) (by simp) (by simp)
      (by rw [forall_firstTwo]; simp) (.agreed (by rw [forall_firstTwo]; simp))))
      (.phaseRnd1 (q := firstTwo) (by simp) (by simp) (by rw [forall_firstTwo]; simp)
        (.agreed (by rw [forall_firstTwo]; simp)))
  have enough : Decides (Cluster.theory ({0, 1, 2} : Finset Nat)) repeatedByTwo 0 firstTwo
      .v1 := by
    have votes : ∀ n, (Cluster.theory ({0, 1, 2} : Finset Nat)).memberMaj n firstTwo →
        repeatedByTwo.voteRnd2 n 0 .v1 := by
      rw [forall_firstTwo]
      simp
    exact ⟨by decide, 0, firstTwo, by simp [Cluster.theory, firstTwo],
      fun n member => ⟨member, votes n member⟩⟩
  exact .tail (.tail repeated (.phaseRnd2 (q := firstTwo) (by simp) (by simp)
    (by rw [forall_firstTwo]; simp) rfl (.decide enough)))
    (.decideBcDecideFullVal (q := firstTwo) (by simp) (by rw [forall_firstTwo]; simp))

theorem one_value_decided_first :
    (decidedByFirst.setDecisionFullVal 0 0 ()).decisionFullVal 0 0 () ∧
      DecisionsAgree (Cluster.theory ({0, 1, 2} : Finset Nat))
        (decidedByFirst.setDecisionFullVal 0 0 ()) :=
  ⟨Or.inr ⟨rfl, rfl, rfl⟩, one_value_decided reachable_decidedByFirst⟩

end Rabia.WeakMvc
