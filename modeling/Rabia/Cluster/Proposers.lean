import Rabia.Cluster.Agreement
import Rabia.Cluster.Domain
import Rabia.WeakMvc.Agreement

/-!
# Who decides a phase

A round-1 vote goes to the proposer that it answers and to nobody else, and no proposer
answers itself. So only a proposer enters round 2, once a majority of the members has
answered it, and a phase is decided when a majority of the members proposed in it
(`decided_by_proposers`).

The votes behind a decision meet the rule of the Ivy model, and so two decisions can differ
only where a member cast both values (`decisions_follow_rule`).
-/

namespace Rabia

open Rabia.Lib Engine

variable {SM : Type}

namespace World

/-- The node proposed in the phase. -/
def Proposes (w : World SM) (p : PhaseId) (node : NodeId) : Prop :=
  ∃ v batch, w.Said node (.proposal p v batch)

/-- The node `voter` answered `node` with a vote in round 1 of the phase. -/
def Answers (w : World SM) (p : PhaseId) (node voter : NodeId) : Prop :=
  ∃ message v, (voter, Effect.sendTo node message) ∈ w.history ∧
    message.messageType.utterance = some (.round1 p v)

/-- A majority of the members, without the node itself, answered it. -/
def HeardBack (members : List NodeId) (w : World SM) (p : PhaseId) (node : NodeId) : Prop :=
  ∃ voters ⊆ members.toFinset.erase node, majority members.toFinset ≤ voters.card ∧
    ∀ voter ∈ voters, w.Answers p node voter

theorem Answers.said {w : World SM} {p : PhaseId} {node voter : NodeId}
    (answers : w.Answers p node voter) : ∃ v, w.Said voter (.round1 p v) := by
  obtain ⟨message, v, sent, uttered⟩ := answers
  exact ⟨v, said_iff.mpr ⟨_, sent, uttered⟩⟩

variable [StateMachine SM]

theorem Proposes.act {w : World SM} {p : PhaseId} {node : NodeId} (proposes : w.Proposes p node)
    (actor : NodeId) (env : Env) (event : Event) : (w.act actor env event).Proposes p node := by
  obtain ⟨v, batch, said⟩ := proposes
  exact ⟨v, batch, said.act actor env event⟩

theorem Answers.act {w : World SM} {p : PhaseId} {node voter : NodeId}
    (answers : w.Answers p node voter) (actor : NodeId) (env : Env) (event : Event) :
    (w.act actor env event).Answers p node voter := by
  obtain ⟨message, v, sent, uttered⟩ := answers
  exact ⟨message, v, List.mem_append_left _ sent, uttered⟩

theorem HeardBack.act {members : List NodeId} {w : World SM} {p : PhaseId} {node : NodeId}
    (heard : w.HeardBack members p node) (actor : NodeId) (env : Env) (event : Event) :
    (w.act actor env event).HeardBack members p node := by
  obtain ⟨voters, subset, size, answered⟩ := heard
  exact ⟨voters, subset, size, fun voter member => (answered voter member).act actor env event⟩

end World

/-! ## Round-1 votes are answers -/

namespace Engine

variable [StateMachine SM] {env : Env} {e e' : RabiaEngine SM} {event : Event} {w : List Effect}

/-- A round-1 vote is the answer to a received proposal. -/
theorem answer_of_deed (deed : Deed env e event e' w) {x : Effect} (hx : x ∈ w) {p : PhaseId}
    {v : StateValue} (uttered : x.utterance = some (.round1 p v)) :
    ∃ sender message m, event = .message sender message ∧
      Received env sender message (.propose m) ∧ m.phaseId = p ∧ x = answer env e sender m := by
  cases deed with
  | aside _ aside => cases uttered.symm.trans (aside.effects x hx)
  | created _ _ _ _ | cleaned _ _ _ _ | counted _ _ _ _ | tallied _ _ _ _ | learned _ _ _ _ =>
      cases hx
  | proposed _ _ _ =>
      cases List.mem_singleton.mp hx
      cases uttered
  | answered received _ _ _ =>
      cases List.mem_singleton.mp hx
      cases uttered
      exact ⟨_, _, _, rfl, received, rfl, rfl⟩
  | cast _ _ _ _ _ _ =>
      cases List.mem_singleton.mp hx
      cases uttered
  | decided _ _ _ _ _ _ =>
      rcases List.mem_cons.mp hx with rfl | hx
      · cases uttered
      · cases List.mem_singleton.mp hx
        cases uttered
  | executed _ _ _ _ _ _ said =>
      rcases mem_executed said hx with rfl | rfl | rfl
      · cases uttered
      · cases uttered
      · cases uttered
  | adopted _ _ _ _ _ _ =>
      cases List.mem_singleton.mp hx
      cases uttered

/-- An event that runs a batch without having received its decision makes it. -/
theorem decided_of_applied (deed : Deed env e event e' w) {x : Effect} (hx : x ∈ w) {p : PhaseId}
    {batch : CommandBatch} (uttered : x.utterance = some (.applied p batch)) :
    .decide p .v1 ∈ w ∨ ∃ sender message m, event = .message sender message ∧
      Received env sender message (.decision m) ∧ m.phaseId = p ∧ m.decision = .v1 := by
  cases deed with
  | aside _ aside => cases uttered.symm.trans (aside.effects x hx)
  | created _ _ _ _ | cleaned _ _ _ _ | counted _ _ _ _ | tallied _ _ _ _ | learned _ _ _ _ =>
      cases hx
  | proposed _ _ _ | answered _ _ _ _ | cast _ _ _ _ _ _ =>
      cases List.mem_singleton.mp hx
      cases uttered
  | decided _ _ _ _ _ _ =>
      rcases List.mem_cons.mp hx with rfl | hx
      · cases uttered
      · cases List.mem_singleton.mp hx
        cases uttered
  | executed _ _ _ _ _ _ said =>
      rcases mem_executed said hx with rfl | rfl | rfl
      · cases uttered
      · cases uttered
        rcases said with rfl | rfl
        · exact Or.inl List.mem_cons_self
        · exact Or.inl List.mem_cons_self
      · cases uttered
  | adopted received accepted _ _ _ _ =>
      cases List.mem_singleton.mp hx
      cases uttered
      exact Or.inr ⟨_, _, _, rfl, received, rfl, accepted⟩

/-- A decision is broadcast in the event in which it is made. -/
theorem decided_of_deed (deed : Deed env e event e' w) {x : Effect} (hx : x ∈ w) {p : PhaseId}
    {d : StateValue} {batch : Option CommandBatch}
    (uttered : x.utterance = some (.decision p d batch)) : .decide p d ∈ w := by
  cases deed with
  | aside _ aside => cases uttered.symm.trans (aside.effects x hx)
  | created _ _ _ _ | cleaned _ _ _ _ | counted _ _ _ _ | tallied _ _ _ _ | learned _ _ _ _ =>
      cases hx
  | proposed _ _ _ | answered _ _ _ _ | cast _ _ _ _ _ _ | adopted _ _ _ _ _ _ =>
      cases List.mem_singleton.mp hx
      cases uttered
  | decided _ _ _ _ _ _ =>
      rcases List.mem_cons.mp hx with rfl | hx
      · cases uttered
      · cases List.mem_singleton.mp hx
        cases uttered
        exact List.mem_cons_self
  | executed _ _ _ _ _ _ said =>
      rcases mem_executed said hx with rfl | rfl | rfl
      · cases uttered
      · cases uttered
      · cases uttered
        rcases said with rfl | rfl
        · exact List.mem_cons_self
        · exact List.mem_cons_self

end Engine

/-! ## The votes of a phase have an addressee -/

structure Addressed (members : List NodeId) (w : World SM) : Prop where
  /-- A round-1 vote goes to another node, one that proposed in the phase. -/
  answered : ∀ voter node p, w.Answers p node voter → voter ≠ node ∧ w.Proposes p node
  /-- No round-1 vote is broadcast. -/
  direct : ∀ i message p v, (i, Effect.broadcast message) ∈ w.history →
    message.messageType.utterance ≠ some (.round1 p v)
  /-- A recorded round-1 vote was addressed to the engine. -/
  recorded : ∀ i p phase voter v, (w.engines i).getPhase p = some phase →
    phase.round1Votes.lookup voter = some v → w.Answers p i voter
  /-- Who votes in round 2 heard from a majority. -/
  cast : ∀ i p v, w.Said i (.round2 p v) → w.HeardBack members p i
  /-- Who announces a decision made it. -/
  announced : ∀ i p d batch, w.Said i (.decision p d batch) → w.Said i (.decided p d)
  /-- What is applied was decided somewhere. -/
  applied : ∀ i p batch, w.Said i (.applied p batch) → ∃ j, w.Said j (.decided p .v1)

theorem addressed_start (members : List NodeId) (config : NodeId → RabiaConfig)
    (stateMachine : NodeId → SM) :
    Addressed members (Cluster.start members config stateMachine).toWorld where
  answered _ _ _ answers := absurd answers.choose_spec.choose_spec.1 List.not_mem_nil
  direct _ _ _ _ sent := absurd sent List.not_mem_nil
  recorded _ _ _ _ _ present := nomatch present
  cast _ _ _ said := absurd said List.not_mem_nil
  announced _ _ _ _ said := absurd said List.not_mem_nil
  applied _ _ _ said := absurd said List.not_mem_nil

section Act

variable [StateMachine SM] {members : List NodeId} {w : World SM} {node : NodeId} {env : Env}
  {event : Event}

omit [StateMachine SM] in
/-- Who receives a proposal is not the proposer. -/
theorem Traced.other_proposes (traced : Traced members w) {sender : NodeId}
    {message : ProtocolMessage} {m : ProposeMessage}
    (genuine : w.Genuine members node (.message sender message))
    (received : Received env sender message (.propose m)) :
    node ≠ sender ∧ w.Proposes m.phaseId sender := by
  have said := said_of_received genuine received rfl
  refine ⟨?_, _, _, said⟩
  obtain ⟨x, member, among⟩ := genuine sender message rfl
  have uttered : message.messageType.utterance = some (.proposal m.phaseId m.value m.batch) := by
    rw [received.payload]
    rfl
  cases x with
  | sendTo target sent =>
      -- only round-1 votes go to a single node
      cases List.mem_singleton.mp among
      obtain ⟨p, v, round1⟩ := traced.direct sender node message _ member uttered
      cases round1
  | broadcast sent =>
      obtain ⟨other, inside, same⟩ := List.mem_map.mp among
      cases same
      exact of_decide_eq_true (List.mem_filter.mp inside).2
  | decide _ _ | applyBatch _ _ | respond _ _ | statistics _ _ => cases among

omit [StateMachine SM] in
/-- A received round-1 vote is addressed to its receiver. -/
theorem Addressed.of_received (addressed : Addressed members w) {sender : NodeId}
    {message : ProtocolMessage} {m : VoteRound1Message}
    (genuine : w.Genuine members node (.message sender message))
    (received : Received env sender message (.voteRound1 m)) :
    w.Answers m.phaseId node sender := by
  have uttered : message.messageType.utterance = some (.round1 m.phaseId m.vote) := by
    rw [received.payload]
    rfl
  obtain ⟨x, member, among⟩ := genuine sender message rfl
  cases x with
  | sendTo target sent =>
      cases List.mem_singleton.mp among
      exact ⟨message, m.vote, member, uttered⟩
  | broadcast sent =>
      obtain ⟨other, -, same⟩ := List.mem_map.mp among
      cases same
      exact absurd uttered (addressed.direct sender message _ _ member)
  | decide _ _ | applyBatch _ _ | respond _ _ | statistics _ _ => cases among

/-- An outcome of round 1 takes a quorum of votes. -/
theorem quorum_of_round1Result {quorumSize : Nat} {phase : PhaseData} {result : StateValue}
    (reached : round1Result quorumSize phase = some result) :
    quorumSize ≤ phase.round1Votes.keys.card := by
  by_cases conclusive : result = .vQuestion
  · subst conclusive
    unfold round1Result at reached
    cases tally : phase.hasRound1Majority quorumSize with
    | some named =>
        exact (PhaseData.countVotes_eq_some tally).trans
          (Finset.card_le_card (Finset.filter_subset _ _))
    | none =>
        rw [tally] at reached
        dsimp only at reached
        split at reached
        · next enough => exact enough
        · cases reached
  · exact (PhaseData.countVotes_eq_some (majority_of_round1Result reached conclusive)).trans
      (Finset.card_le_card (Finset.filter_subset _ _))

theorem addressed_act (traced : Traced members w) (genuine : w.Genuine members node event)
    (addressed : Addressed members w) : Addressed members (w.act node env event) := by
  have deed := deed_of_handle env event (w.engines node)
  -- a new round-1 vote goes to the sender of a proposal
  have answered : ∀ voter target p, (w.act node env event).Answers p target voter →
      w.Answers p target voter ∨ voter ≠ target ∧ w.Proposes p target := by
    rintro voter target p ⟨message, v, sent, uttered⟩
    rcases List.mem_append.mp sent with old | new
    · exact Or.inl ⟨message, v, old, uttered⟩
    · obtain ⟨x, member, same⟩ := List.mem_map.mp new
      cases same
      obtain ⟨sender, proposal, m, rfl, received, rfl, same⟩ := answer_of_deed deed member uttered
      cases same
      exact Or.inr (traced.other_proposes genuine received)
  refine ⟨?_, ?_, ?_, ?_, ?_, ?_⟩
  · intro voter target p answers
    rcases answered voter target p answers with old | ⟨other, proposes⟩
    · obtain ⟨other, proposes⟩ := addressed.answered voter target p old
      exact ⟨other, proposes.act node env event⟩
    · exact ⟨other, proposes.act node env event⟩
  · intro i message p v sent uttered
    rcases List.mem_append.mp sent with old | new
    · exact addressed.direct i message p v old uttered
    · obtain ⟨x, member, same⟩ := List.mem_map.mp new
      cases same
      obtain ⟨sender, proposal, m, rfl, received, rfl, same⟩ := answer_of_deed deed member uttered
      cases same
  · intro i p phase voter v present recorded
    rcases revision_of_act present with old | ⟨rfl, revision⟩
    · exact (addressed.recorded i p phase voter v old recorded).act node env event
    rcases revision.round1 recorded with
      ⟨before, present', recorded'⟩ | ⟨message, m, rfl, received, rfl, rfl⟩
    · exact (addressed.recorded i p before voter v present' recorded').act i env event
    · exact (addressed.of_received genuine received).act i env _
  · intro i p v said
    rcases reason_of_said said with old | ⟨rfl, reason⟩
    · exact (addressed.cast i p v old).act node env event
    · cases reason with
      | @round2 sender message m phase result received present reached =>
          have each : ∀ voter ∈ (phase.addRound1Vote sender m.vote).round1Votes.keys,
              w.Answers m.phaseId i voter := by
            intro voter member
            obtain ⟨v, counted⟩ := Finmap.mem_iff.mp (Finmap.mem_keys.mp member)
            rcases lookup_insert_cases counted with ⟨rfl, -⟩ | old
            · exact addressed.of_received genuine received
            · exact addressed.recorded i m.phaseId phase voter v present old
          refine World.HeardBack.act ⟨_, ?_, ?_, each⟩ i env _
          · intro voter member
            obtain ⟨v, said⟩ := (each voter member).said
            refine Finset.mem_erase.mpr ⟨(addressed.answered voter i _ (each voter member)).1, ?_⟩
            exact List.mem_toFinset.mpr (traced.member voter _ said)
          · rw [← traced.quorum i]
            exact quorum_of_round1Result reached
  · intro i p d batch said
    rcases World.said_act said with old | ⟨rfl, x, hx, uttered⟩
    · exact (addressed.announced i p d batch old).act node env event
    · exact World.said_of_effect (decided_of_deed deed hx uttered) rfl
  · intro i p batch said
    rcases World.said_act said with old | ⟨rfl, x, hx, uttered⟩
    · obtain ⟨j, decided⟩ := addressed.applied i p batch old
      exact ⟨j, decided.act node env event⟩
    · rcases decided_of_applied deed hx uttered with
        here | ⟨sender, message, m, rfl, received, rfl, accepted⟩
      · exact ⟨i, World.said_of_effect here rfl⟩
      · have announced := said_of_received genuine received rfl
        rw [accepted] at announced
        exact ⟨sender, (addressed.announced _ _ _ _ announced).act i env _⟩

end Act

/-! ## A decision takes a majority of proposers -/

variable [StateMachine SM]

/-- The node voted `v` in round 2 of the phase, having proposed in it and heard back. -/
structure World.Campaigned (members : List NodeId) (w : World SM) (p : PhaseId) (node : NodeId)
    (v : StateValue) : Prop where
  voted : w.Said node (.round2 p v)
  proposed : w.Proposes p node
  heard : w.HeardBack members p node

/-- A majority of proposers stands behind whatever is decided or applied, in a cluster of
at least three members. -/
structure World.DecidedByProposers (members : List NodeId) (w : World SM) : Prop where
  decided : ∀ i p d, w.Said i (.decided p d) → Backed members.toFinset (w.Campaigned members p) d
  applied : ∀ i p batch, w.Said i (.applied p batch) →
    Backed members.toFinset (w.Campaigned members p) .v1
  three : ∀ i p d, w.Said i (.decided p d) → 3 ≤ members.toFinset.card

section Result

variable {members : List NodeId} {w : World SM}

omit [StateMachine SM] in
/-- A node that hears back from a majority is one of at least three. -/
theorem World.HeardBack.three_le {p : PhaseId} {node : NodeId} (heard : w.HeardBack members p node)
    (member : node ∈ members) : 3 ≤ members.toFinset.card := by
  obtain ⟨voters, subset, size, -⟩ := heard
  have fewer := Finset.card_le_card subset
  rw [Finset.card_erase_of_mem (List.mem_toFinset.mpr member)] at fewer
  unfold majority at size
  omega

omit [StateMachine SM] in
theorem Addressed.campaigned (addressed : Addressed members w) {i : NodeId} {p : PhaseId}
    {v : StateValue} (voted : w.Said i (.round2 p v)) : w.Campaigned members p i v := by
  have heard := addressed.cast i p v voted
  refine ⟨voted, ?_, heard⟩
  obtain ⟨voters, -, size, answered⟩ := heard
  have some : 0 < voters.card := by
    unfold majority at size
    omega
  obtain ⟨voter, member⟩ := Finset.card_pos.mp some
  exact (addressed.answered voter i p (answered voter member)).2

omit [StateMachine SM] in
theorem Addressed.decidedByProposers (addressed : Addressed members w)
    (traced : Traced members w) : w.DecidedByProposers members := by
  have decided : ∀ i p d, w.Said i (.decided p d) →
      Backed members.toFinset (w.Campaigned members p) d :=
    fun i p d said => (traced.decided i p d said).mono fun j => addressed.campaigned
  refine ⟨decided, ?_, ?_⟩
  · intro i p batch said
    obtain ⟨j, decidedThere⟩ := addressed.applied i p batch said
    exact decided j p .v1 decidedThere
  · intro i p d said
    obtain ⟨j, member, campaigned⟩ := (decided i p d said).exists
    exact campaigned.heard.three_le (List.mem_toFinset.mp member)

end Result

/-- The invariants of this module and of `Cluster.Traced` along every run. -/
theorem addressed_run (members : List NodeId) (config : NodeId → RabiaConfig)
    (stateMachine : NodeId → SM) (actions : List Action) :
    Traced members (Cluster.world members config stateMachine actions) ∧
      Addressed members (Cluster.world members config stateMachine actions) :=
  traced_invariant (fun _ _ _ _ traced _ genuine addressed (_ : True) =>
      addressed_act traced genuine addressed)
    (addressed_start members config stateMachine) (along_of_forall (fun _ _ _ _ => trivial) _ _)

/-- In every run, a phase in which something is decided or applied has a majority of the
members propose in it, each of which a majority of the other members answered. -/
theorem decided_by_proposers (members : List NodeId) (config : NodeId → RabiaConfig)
    (stateMachine : NodeId → SM) (actions : List Action) :
    (Cluster.world members config stateMachine actions).DecidedByProposers members := by
  obtain ⟨traced, addressed⟩ := addressed_run members config stateMachine actions
  exact addressed.decidedByProposers traced

/-- Two of three nodes propose, and the phase is decided. -/
example : (worldOf 3 (twoProposers 65 65)).Said ⟨0⟩ (.decided 1 .v1) := by decide +kernel

/-! ## The rule of the Ivy model -/

/-- What was said of a phase, as a state of the Ivy model in its first phase. -/
def World.instanceOf (w : World SM) (p : PhaseId) : WeakMvc.State NodeId PhaseId CommandBatch where
  inPhase n q := q = 0 ∧ ∃ v, w.Said n (.round1 p v)
  propose n batch := w.Said n (.proposal p .v1 (some batch))
  voteRnd1 n q v := q = 0 ∧ w.Said n (.round1 p v)
  voteRnd2 n q v := q = 0 ∧ w.Said n (.round2 p v)
  decisionBc n q v := q = 0 ∧ w.Said n (.decided p v)
  decisionFullVal n q batch := q = 0 ∧ w.Said n (.applied p batch)
  decisionFullNoval n q := q = 0 ∧ w.Said n (.decided p .v0)
  coin _ _ := False

omit [StateMachine SM] in
/-- A majority of votes is enough to decide. -/
theorem decides_of_backed {members : List NodeId} {w : World SM} {p : PhaseId} {d : StateValue}
    (backed : Backed members.toFinset (fun j v => w.Said j (.round2 p v)) d)
    (clear : d ≠ .vQuestion) :
    ∃ q, WeakMvc.Decides (WeakMvc.Cluster.theory members.toFinset) (w.instanceOf p) 0 q d := by
  obtain ⟨voters, subset, size, voted⟩ := backed
  have enough : members.toFinset.card + 1 - majority members.toFinset ≤ voters.card := by
    unfold majority at size ⊢
    omega
  have some : 0 < voters.card := by
    unfold majority at size
    omega
  obtain ⟨n, member⟩ := Finset.card_pos.mp some
  exact ⟨⟨voters, subset, size⟩, clear, n, ⟨voters, subset, enough⟩, member,
    fun j inside => ⟨inside, rfl, voted j inside⟩⟩

/-- What the decisions of a run have in common with those of the Ivy model, and what it
takes for two of them to differ. -/
structure World.FollowsRule (members : List NodeId) (w : World SM) : Prop where
  decides : ∀ i p d, w.Said i (.decided p d) →
    ∃ q, WeakMvc.Decides (WeakMvc.Cluster.theory members.toFinset) (w.instanceOf p) 0 q d
  /-- Some member cast both values. -/
  differ : ∀ i j p d d', w.Said i (.decided p d) → w.Said j (.decided p d') → d ≠ d' →
    ∃ k ∈ members, w.Said k (.round2 p d) ∧ w.Said k (.round2 p d')
  /-- Nobody decides against a batch that is applied unless some member voted both ways. -/
  rejects : ∀ i j p batch, w.Said i (.applied p batch) → w.Said j (.decided p .v0) →
    ∃ k ∈ members, w.Said k (.round2 p .v1) ∧ w.Said k (.round2 p .v0)

omit [StateMachine SM] in
/-- Two majorities that voted differently share a member. -/
theorem voter_of_both {members : List NodeId} {w : World SM} {p : PhaseId} {d d' : StateValue}
    (backed : Backed members.toFinset (fun j v => w.Said j (.round2 p v)) d)
    (backed' : Backed members.toFinset (fun j v => w.Said j (.round2 p v)) d') :
    ∃ k ∈ members, w.Said k (.round2 p d) ∧ w.Said k (.round2 p d') := by
  obtain ⟨voters, subset, size, voted⟩ := backed
  obtain ⟨voters', subset', size', voted'⟩ := backed'
  obtain ⟨k, member, member'⟩ := majorities_meet subset subset' size size'
  exact ⟨k, List.mem_toFinset.mp (subset member), voted k member, voted' k member'⟩

/-- In every run, the votes behind a decision are enough for the Ivy model to decide, and a
member that voted both ways stands behind decisions that differ. -/
theorem decisions_follow_rule (members : List NodeId) (config : NodeId → RabiaConfig)
    (stateMachine : NodeId → SM) (actions : List Action) :
    (Cluster.world members config stateMachine actions).FollowsRule members := by
  obtain ⟨traced, addressed, settled⟩ := traced_invariant
    (I := fun w => Addressed members w ∧ Settled w)
    (fun _ _ _ _ traced _ genuine holds (_ : True) =>
      ⟨addressed_act traced genuine holds.1, settled_act traced genuine holds.2⟩)
    ⟨addressed_start members config stateMachine, settled_start members config stateMachine⟩
    (along_of_forall (fun _ _ _ _ => trivial) _ actions)
  refine ⟨?_, ?_, ?_⟩
  · intro i p d said
    exact decides_of_backed (traced.decided i p d said) (settled.decided i p d said)
  · intro i j p d d' said said' _
    exact voter_of_both (traced.decided i p d said) (traced.decided j p d' said')
  · intro i j p batch applied said
    obtain ⟨k, accepted⟩ := addressed.applied i p batch applied
    exact voter_of_both (traced.decided k p .v1 accepted) (traced.decided j p .v0 said)

end Rabia
