import Rabia.Cluster.Agreement
import Rabia.Cluster.Domain

/-!
# Validity

Every proposal is for V1 and nobody votes V0 in round 1, but an engine that enters
round 2 without an outcome of round 1 may draw V0. A minority that does cannot
make the cluster decide V0 (`decisions_valid`); a majority can (`decision_invalid`).
-/

namespace Rabia

open Rabia.Lib Engine

variable {SM : Type}

/-! ## Draws against the proposal -/

/-- The phase in which an event makes its engine enter round 2 when the tally and the draw
give V0: on a majority for V0, or else on a draw that fails while V0 does not lead the
tally, or that succeeds while it does. -/
def rejectedPhase (env : Env) (e : RabiaEngine SM) (event : Event) : Option PhaseId :=
  (receivedVote env event).bind fun (_, m) =>
    (entryOf env e event).bind fun entry =>
      if Repeats env.draw entry.phase.round1Votes entry.result .v0 then some m.phaseId else none

/-- The members that voted V0 in round 2 of the phase. -/
def World.rejecting (members : List NodeId) (w : World SM) (p : PhaseId) : Finset NodeId :=
  members.toFinset.filter fun j => w.Said j (.round2 p .v0)

/-- With the one that the event leads to, the votes for V0 in round 2 of a phase are
those of a minority. -/
def MinorityRejects (members : List NodeId) (w : World SM) (node : NodeId) (env : Env)
    (event : Event) : Prop :=
  ∀ p ∈ rejectedPhase env (w.engines node) event,
    (insert node (w.rejecting members p)).card < majority members.toFinset

instance (members : List NodeId) (w : World SM) (node : NodeId) (env : Env) (event : Event) :
    Decidable (MinorityRejects members w node env event) :=
  inferInstanceAs (Decidable (∀ p ∈ rejectedPhase env (w.engines node) event, _))

theorem rejectedPhase_received {env : Env} {e : RabiaEngine SM} {sender : NodeId}
    {message : ProtocolMessage} {m : VoteRound1Message} {phase : PhaseData} {result : StateValue}
    (received : Received env sender message (.voteRound1 m))
    (present : e.getPhase m.phaseId = some phase)
    (reached : round1Result e.engineState.quorumSize (phase.addRound1Vote sender m.vote) =
      some result)
    (rejects : Repeats env.draw (phase.addRound1Vote sender m.vote).round1Votes result .v0) :
    rejectedPhase env e (.message sender message) = some m.phaseId := by
  unfold rejectedPhase
  rw [receivedVote_of_received received, entryOf_received received present reached]
  exact if_pos rejects

/-! ## Votes follow proposals, and V0 stays in the minority -/

/-- The phase was proposed in. -/
def World.Raised (w : World SM) (p : PhaseId) : Prop :=
  ∃ i v batch, w.Said i (.proposal p v batch)

/-- Nobody votes in a phase before somebody proposes in it. -/
structure Prompted (w : World SM) : Prop where
  round1 : ∀ i p v, w.Said i (.round1 p v) → w.Raised p
  round2 : ∀ i p v, w.Said i (.round2 p v) → w.Raised p

section Act

variable [StateMachine SM] {members : List NodeId} {w : World SM} {node : NodeId} {env : Env}
  {event : Event}

theorem World.Raised.act {p : PhaseId} (h : w.Raised p) (node : NodeId) (env : Env)
    (event : Event) : (w.act node env event).Raised p := by
  obtain ⟨i, v, batch, said⟩ := h
  exact ⟨i, v, batch, said.act node env event⟩

theorem prompted_act (genuine : w.Genuine members node event) (prompted : Prompted w) :
    Prompted (w.act node env event) := by
  constructor
  · intro i p v said
    rcases reason_of_said said with old | ⟨rfl, reason⟩
    · exact (prompted.round1 i p v old).act node env event
    · cases reason with
      | round1 received quorum =>
          have proposed := said_of_received genuine received rfl
          exact World.Raised.act ⟨_, _, _, proposed⟩ i env _
  · intro i p v said
    rcases reason_of_said said with old | ⟨rfl, reason⟩
    · exact (prompted.round2 i p v old).act node env event
    · cases reason with
      | round2 received present reached =>
          have voted := said_of_received genuine received rfl
          exact (prompted.round1 _ _ _ voted).act i env _

/-- No majority voted V0 in round 2 of any phase. -/
def World.NeverRejected (members : List NodeId) (w : World SM) : Prop :=
  ∀ p, ¬ Backed members.toFinset (fun j v => w.Said j (.round2 p v)) .v0

theorem neverRejected_act (never : w.NeverRejected members)
    (minority : MinorityRejects members w node env event) :
    (w.act node env event).NeverRejected members := by
  rintro p ⟨voters, subset, size, voted⟩
  by_cases old : ∀ j ∈ voters, w.Said j (.round2 p .v0)
  · exact never p ⟨voters, subset, size, old⟩
  · -- one of these votes is new, so it is the acting engine's and the condition counts it
    push Not at old
    obtain ⟨j, member, new⟩ := old
    have inside : voters ⊆ insert node (w.rejecting members p) := by
      intro k hk
      rcases reason_of_said (voted k hk) with before | ⟨rfl, -⟩
      · refine Finset.mem_insert_of_mem ?_
        exact Finset.mem_filter.mpr ⟨subset hk, before⟩
      · exact Finset.mem_insert_self _ _
    have rejected : rejectedPhase env (w.engines node) event = some p := by
      rcases reason_of_said (voted j member) with before | ⟨rfl, reason⟩
      · exact absurd before new
      generalize vote : Utterance.round2 p .v0 = u at reason
      cases reason with
      | round2 received present reached =>
          obtain ⟨rfl, rejects⟩ := Utterance.round2.inj vote
          exact rejectedPhase_received received present reached (repeats_iff.mpr rejects.symm)
      | _ => cases vote
    have few := minority p rejected
    have many := size.trans (Finset.card_le_card inside)
    omega

end Act

/-! ## The result -/

variable [StateMachine SM]

/-- Where all proposals of a phase carry one value, all decisions of it are that value. -/
def World.Valid (w : World SM) : Prop :=
  ∀ p v, (∀ i v' batch, w.Said i (.proposal p v' batch) → v' = v) →
    ∀ j d, w.Said j (.decided p d) → d = v

/-- Where only a minority draws V0 in round 2, decisions are what was proposed. -/
theorem decisions_valid (members : List NodeId) (config : NodeId → RabiaConfig)
    (stateMachine : NodeId → SM) (actions : List Action)
    (meets : Cluster.Meets members config stateMachine (MinorityRejects members) actions) :
    (Cluster.world members config stateMachine actions).Valid := by
  obtain ⟨traced, settled, prompted, never⟩ := traced_invariant
    (I := fun w => Settled w ∧ Prompted w ∧ w.NeverRejected members)
    (fun w node env event traced _ genuine holds minority =>
      ⟨settled_act traced genuine holds.1, prompted_act genuine holds.2.1,
        neverRejected_act holds.2.2 minority⟩)
    ⟨settled_start members config stateMachine,
      ⟨fun _ _ _ said => absurd said List.not_mem_nil,
        fun _ _ _ said => absurd said List.not_mem_nil⟩,
      fun _ backed => absurd backed.exists.choose_spec.2 List.not_mem_nil⟩ meets
  intro p v unanimous j d decided
  -- the decision was voted for, and so the phase was proposed in
  have backed := traced.decided j p d decided
  obtain ⟨k, -, voted⟩ := backed.exists
  obtain ⟨i, v', batch, proposed⟩ := prompted.round2 k p d voted
  have accept : v' = .v1 := traced.proposal i p v' batch proposed
  have clear := settled.decided j p d decided
  rw [← unanimous i v' batch proposed, accept]
  cases d with
  | v0 => exact absurd backed (never p)
  | v1 => rfl
  | vQuestion => exact absurd rfl clear

theorem decisions_valid_two_proposers :
    (worldOf 3 (twoProposers 65 65)).Said ⟨0⟩ (.decided 1 .v1) ∧
      (worldOf 3 (twoProposers 65 65)).Valid :=
  ⟨by decide +kernel,
    decisions_valid (nodesBelow 3) newConfig emptyLog (twoProposers 65 65) (by decide +kernel)⟩

/-- The nodes 0 and 1 propose in phase 1. Each hears `?` and V1 in round 1 and draws
V0, and the vote of node 0 arrives at node 1. -/
def drawnByTwo : List Action :=
  (List.range 3).map creating ++ [submitting 0 65, delivering 0 false, submitting 1 65] ++
    [(3, false), (0, true), (0, true), (0, true), (0, true), (0, false), (0, false),
      (0, true)].map fun (index, draw) => delivering index draw

/-- All proposals are for V1, and node 1 decides V0. -/
theorem decision_invalid :
    Cluster.Meets (nodesBelow 3) newConfig emptyLog PhaseRecordsPresent drawnByTwo ∧
      ¬ (worldOf 3 drawnByTwo).Valid := by
  refine ⟨by decide +kernel, fun valid => ?_⟩
  have accepted : ∀ i v' batch, (worldOf 3 drawnByTwo).Said i (.proposal 1 v' batch) →
      v' = .v1 :=
    fun i v' batch => (traced_run (nodesBelow 3) newConfig emptyLog drawnByTwo).proposal i 1 v'
      batch
  have differ := valid 1 .v1 accepted ⟨1⟩ .v0 (by decide +kernel)
  cases differ

end Rabia
