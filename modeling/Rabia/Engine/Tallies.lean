import Rabia.Engine.Handlers
import Rabia.Lib.Quorum

/-!
# Tallies and quorum intersection

`count_votes` against the quorum size of `ClusterConfig::new`. On votes of cluster members
it names a value exactly when more than half of the cluster voted it, so at most one, in
whichever order the values are tested (`countVotesIn_eq`); and two tallies that nowhere
contradict each other name the same value (`tallies_meet`).
-/

namespace Rabia

open Rabia.Lib

namespace PhaseData

/-- `count_votes`, with the values tested in some order. -/
def countVotesIn (order : List StateValue) (votes : Table NodeId StateValue) (quorumSize : Nat) :
    Option StateValue :=
  order.find? fun v => decide (quorumSize ≤ Table.count votes v)

theorem countVotes_eq_countVotesIn (votes : Table NodeId StateValue) (quorumSize : Nat) :
    countVotes votes quorumSize = countVotesIn [.v0, .v1, .vQuestion] votes quorumSize := by
  unfold countVotes countVotesIn
  by_cases v0 : quorumSize ≤ Table.count votes .v0
  · simp [v0]
  by_cases v1 : quorumSize ≤ Table.count votes .v1
  · simp [v0, v1]
  by_cases vQuestion : quorumSize ≤ Table.count votes .vQuestion
  · simp [v0, v1, vQuestion]
  · simp [v0, v1, vQuestion]

theorem quorum_of_countVotesIn {order : List StateValue} {votes : Table NodeId StateValue}
    {quorumSize : Nat} {v : StateValue} (named : countVotesIn order votes quorumSize = some v) :
    quorumSize ≤ Table.count votes v := by
  unfold countVotesIn at named
  simpa using List.find?_some named

end PhaseData

section Tallies

variable {nodes : Finset NodeId} {votes votes' : Table NodeId StateValue} {a b : StateValue}

theorem holders_subset (within : votes.keys ⊆ nodes) (v : StateValue) :
    Table.holders votes v ⊆ nodes := by
  intro node hnode
  have voted := Table.mem_holders.mp hnode
  exact within (Finmap.mem_keys.mpr (Finmap.mem_of_lookup_eq_some voted))

/-- A quorum of the votes is more than half of the nodes. -/
theorem quorum_le_count_iff (nodeId : NodeId) :
    (ClusterConfig.new nodeId nodes).quorumSize ≤ Table.count votes a ↔
      nodes.card < 2 * (Table.holders votes a).card := by
  rw [Table.count_eq_card_holders]
  show nodes.card / 2 + 1 ≤ _ ↔ _
  omega

/-- Two quorums share a node, and the votes of that node agree. -/
theorem quorums_agree (nodeId : NodeId) (within : votes.keys ⊆ nodes)
    (within' : votes'.keys ⊆ nodes)
    (agree : ∀ node v v', votes.lookup node = some v → votes'.lookup node = some v' → v = v')
    (quorum : (ClusterConfig.new nodeId nodes).quorumSize ≤ Table.count votes a)
    (quorum' : (ClusterConfig.new nodeId nodes).quorumSize ≤ Table.count votes' b) : a = b := by
  rw [Table.count_eq_card_holders] at quorum quorum'
  obtain ⟨node, left, right⟩ :=
    majorities_meet (holders_subset within a) (holders_subset within' b) quorum quorum'
  exact agree node a b (Table.mem_holders.mp left) (Table.mem_holders.mp right)

theorem lookup_agrees (node : NodeId) (v v' : StateValue) (found : votes.lookup node = some v)
    (found' : votes.lookup node = some v') : v = v' :=
  Option.some.inj (found.symm.trans found')

/-- A tally names the value that more than half of the nodes voted, whatever is tested
first. -/
theorem countVotesIn_eq_some_iff (nodeId : NodeId) (within : votes.keys ⊆ nodes)
    {order : List StateValue} (complete : ∀ v, v ∈ order) :
    PhaseData.countVotesIn order votes (ClusterConfig.new nodeId nodes).quorumSize = some a ↔
      nodes.card < 2 * (Table.holders votes a).card := by
  rw [← quorum_le_count_iff nodeId]
  constructor
  · intro named
    exact PhaseData.quorum_of_countVotesIn named
  · intro quorum
    cases named : PhaseData.countVotesIn order votes
        (ClusterConfig.new nodeId nodes).quorumSize with
    | none =>
        have fails := List.find?_eq_none.mp named a (complete a)
        exact absurd (decide_eq_true quorum) fails
    | some b =>
        have quorum' := PhaseData.quorum_of_countVotesIn named
        rw [quorums_agree nodeId within within lookup_agrees quorum quorum']

theorem mem_allValues (v : StateValue) :
    v ∈ [StateValue.v0, StateValue.v1, StateValue.vQuestion] := by
  cases v <;> simp

theorem countVotes_eq_some_iff (nodeId : NodeId) (within : votes.keys ⊆ nodes) :
    PhaseData.countVotes votes (ClusterConfig.new nodeId nodes).quorumSize = some a ↔
      nodes.card < 2 * (Table.holders votes a).card := by
  rw [PhaseData.countVotes_eq_countVotesIn]
  exact countVotesIn_eq_some_iff nodeId within mem_allValues

/-- The order in which `count_votes` tests the values never matters. -/
theorem countVotesIn_eq (nodeId : NodeId) (within : votes.keys ⊆ nodes)
    {order : List StateValue} (complete : ∀ v, v ∈ order) :
    PhaseData.countVotesIn order votes (ClusterConfig.new nodeId nodes).quorumSize =
      PhaseData.countVotes votes (ClusterConfig.new nodeId nodes).quorumSize := by
  apply Option.ext
  intro v
  rw [countVotesIn_eq_some_iff nodeId within complete, countVotes_eq_some_iff nodeId within]

/-- Votes of the nodes in two tables that agree wherever both have one. -/
structure Compatible (nodes : Finset NodeId) (votes votes' : Table NodeId StateValue) : Prop where
  within : votes.keys ⊆ nodes
  within' : votes'.keys ⊆ nodes
  agree : ∀ node v v', votes.lookup node = some v → votes'.lookup node = some v' → v = v'

theorem Compatible.countVotes_agree (nodeId : NodeId) (h : Compatible nodes votes votes')
    (named : PhaseData.countVotes votes (ClusterConfig.new nodeId nodes).quorumSize = some a)
    (named' : PhaseData.countVotes votes' (ClusterConfig.new nodeId nodes).quorumSize = some b) :
    a = b := by
  rw [countVotes_eq_some_iff nodeId h.within, ← quorum_le_count_iff nodeId] at named
  rw [countVotes_eq_some_iff nodeId h.within', ← quorum_le_count_iff nodeId] at named'
  exact quorums_agree nodeId h.within h.within' h.agree named named'

end Tallies

/-- Quorum intersection: compatible tallies of a round name the same value, each tally
names exactly what more than half of the nodes voted, and no order of testing matters. -/
theorem tallies_meet (nodeId : NodeId) (nodes : Finset NodeId) :
    let quorumSize := (ClusterConfig.new nodeId nodes).quorumSize
    (∀ phase phase' : PhaseData, Compatible nodes phase.round1Votes phase'.round1Votes →
        ∀ a b, phase.hasRound1Majority quorumSize = some a →
          phase'.hasRound1Majority quorumSize = some b → a = b) ∧
      (∀ phase phase' : PhaseData, Compatible nodes phase.round2Votes phase'.round2Votes →
        ∀ a b, phase.hasRound2Majority quorumSize = some a →
          phase'.hasRound2Majority quorumSize = some b → a = b) ∧
      (∀ phase : PhaseData, phase.round1Votes.keys ⊆ nodes → ∀ a,
        phase.hasRound1Majority quorumSize = some a ↔
          nodes.card < 2 * (Table.holders phase.round1Votes a).card) ∧
      (∀ phase : PhaseData, phase.round2Votes.keys ⊆ nodes → ∀ a,
        phase.hasRound2Majority quorumSize = some a ↔
          nodes.card < 2 * (Table.holders phase.round2Votes a).card) ∧
      ∀ votes : Table NodeId StateValue, votes.keys ⊆ nodes →
        ∀ order : List StateValue, (∀ v, v ∈ order) →
          PhaseData.countVotesIn order votes quorumSize =
            PhaseData.countVotes votes quorumSize := by
  intro quorumSize
  refine ⟨?_, ?_, ?_, ?_, ?_⟩
  · intro phase phase' compatible a b named named'
    exact compatible.countVotes_agree nodeId named named'
  · intro phase phase' compatible a b named named'
    exact compatible.countVotes_agree nodeId named named'
  · intro phase within a
    exact countVotes_eq_some_iff nodeId within
  · intro phase within a
    exact countVotes_eq_some_iff nodeId within
  · intro votes within order complete
    exact countVotesIn_eq nodeId within complete

/-- The votes of two nodes of three, as two of the nodes may know them. -/
def twoOfThree (voter : NodeId) : PhaseData :=
  ((PhaseData.new 1 0).addRound2Vote voter .v1).addRound2Vote ⟨1⟩ .v1

theorem twoOfThree_votes {voter node : NodeId} {v : StateValue}
    (voted : (twoOfThree voter).round2Votes.lookup node = some v) : v = .v1 := by
  unfold twoOfThree at voted
  rw [PhaseData.addRound2Vote_round2Votes, PhaseData.addRound2Vote_round2Votes,
    Table.lookup_insert, Table.lookup_insert] at voted
  split_ifs at voted
  · exact (Option.some.inj voted).symm
  · exact (Option.some.inj voted).symm
  · cases voted

theorem tallies_meet_twoOfThree :
    let quorumSize := (ClusterConfig.new ⟨0⟩ {⟨0⟩, ⟨1⟩, ⟨2⟩}).quorumSize
    quorumSize = 2 ∧ (twoOfThree ⟨0⟩).hasRound2Majority quorumSize = some .v1 ∧
      ∀ a, (twoOfThree ⟨2⟩).hasRound2Majority quorumSize = some a → a = .v1 := by
  intro quorumSize
  have named : (twoOfThree ⟨0⟩).hasRound2Majority quorumSize = some .v1 := by decide
  have compatible : Compatible {⟨0⟩, ⟨1⟩, ⟨2⟩} (twoOfThree ⟨2⟩).round2Votes
      (twoOfThree ⟨0⟩).round2Votes := by
    refine ⟨by decide, by decide, ?_⟩
    intro node v v' voted voted'
    rw [twoOfThree_votes voted, twoOfThree_votes voted']
  obtain ⟨-, meet, -⟩ := tallies_meet ⟨0⟩ {⟨0⟩, ⟨1⟩, ⟨2⟩}
  refine ⟨by decide, named, fun a named' => ?_⟩
  exact meet (twoOfThree ⟨2⟩) (twoOfThree ⟨0⟩) compatible a .v1 named' named

end Rabia
