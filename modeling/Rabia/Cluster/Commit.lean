import Rabia.Cluster.Agreement
import Rabia.Engine.Atomicity

/-!
# Committing what another committed

An engine that committed a phase announces it, and the batch with it. The receiver
runs the batch, and then `commit_phase` refuses the phase if it is above its own
`current_phase` — a counter that only proposing and synchronising raise. So a
decision commits at the engines that proposed in its phase or later, and at no
engine that only followed.

* `Furnished` — whoever applied a batch of a phase has one on record, and sends it
  with every acceptance from then on;
* `follower_commits_iff` — where the announcement of a commit leads to another.
-/

namespace Rabia

open Rabia.Lib Engine

/-! ## At the receiver -/

section Receiver

variable {SM : Type} [StateMachine SM]

/-- The engine handles the message without an error and has `p` for its mark then. -/
def Engine.CommitsOn (env : Env) (sender : NodeId) (message : ProtocolMessage) (p : PhaseId)
    (e : RabiaEngine SM) : Prop :=
  (handle env (.message sender message) e).result = .ok () ∧
    (handle env (.message sender message) e).state.engineState.lastCommittedPhase = p

instance (env : Env) (sender : NodeId) (message : ProtocolMessage) (p : PhaseId)
    (e : RabiaEngine SM) : Decidable (CommitsOn env sender message p e) :=
  inferInstanceAs (Decidable (_ ∧ _))

theorem commitsOn_iff {env : Env} {sender : NodeId} {message : ProtocolMessage}
    {m : DecisionMessage} {batch : CommandBatch} {e : RabiaEngine SM}
    (received : Received env sender message (.decision m)) (accepted : m.decision = .v1)
    (carried : m.batch = some batch) (below : e.engineState.lastCommittedPhase < m.phaseId)
    (succeed : CommandsSucceed e batch) :
    CommitsOn env sender message m.phaseId e ↔ m.phaseId ≤ e.engineState.currentPhase := by
  have runs : decisionBatch e m = some batch :=
    decisionBatch_eq_some.mpr ⟨⟨accepted, below⟩, carried⟩
  unfold CommitsOn
  rw [handle_of_received received]
  show (handleDecision env sender m e).result = .ok () ∧ _ ↔ _
  rcases handleDecision_runs env sender runs with
    ⟨fails, -⟩ | ⟨-, ahead, ⟨err, failed⟩, -⟩ | ⟨-, behind, ok⟩
  · exact absurd succeed fails
  · -- the batch ran, and the commit is refused
    refine iff_of_false (fun commits => ?_) (Nat.not_le.mpr ahead)
    rw [failed] at commits
    cases commits.1
  · have lands : Lands m.phaseId batch e (handleDecision env sender m e).state := by
      rw [handleDecision_apply, runs]
      exact (lands_applyAndCommit env m.phaseId batch _).2.2.of_updatePhase
    refine iff_of_true ⟨ok, ?_⟩ behind
    show (handleDecision env sender m e).state.engineState.lastCommittedPhase = m.phaseId
    rw [lands.committed succeed behind]
    exact max_eq_right below.le

end Receiver

/-! ## At the sender -/

variable {SM : Type}

section Engine

variable {env : Env} {e : RabiaEngine SM} {event : Event}

/-- A record never loses its batch. -/
theorem Engine.Revision.keeps_batch {q : PhaseId} {w : List Effect} {phase' : PhaseData}
    (revision : Revision env e q w event phase')
    (had : ∀ phase, e.getPhase q = some phase → phase.batch ≠ none)
    (notFresh : createdPhase event = some q → e.getPhase q ≠ none) : phase'.batch ≠ none := by
  cases revision with
  | kept before => exact had _ before
  | fresh absent => exact absurd absent (notFresh rfl)
  | proposed before _ _ => exact Option.some_ne_none _
  | answered _ before _ =>
      rw [receivedProposal_batch]
      exact fun lost => had _ before (Option.or_eq_none_iff.mp lost).1
  | counted _ before _ => simpa using had _ before
  | cast _ before _ _ => simpa using had _ before
  | tallied _ before _ => simpa using had _ before
  | decided _ before _ => simpa using had _ before
  | learned _ before _ =>
      rw [receivedDecision_batch]
      exact fun lost => had _ before (Option.or_eq_none_iff.mp lost).1

/-- An event that applies a batch announces no acceptance without one. -/
theorem batch_of_reasons {p : PhaseId} {v : StateValue} {batch : CommandBatch}
    {batch' : Option CommandBatch} (applied : Reason env e event (.applied p batch))
    (announced : Reason env e event (.decision p v batch')) : batch' ≠ none := by
  generalize first : Utterance.applied p batch = u at applied
  generalize second : Utterance.decision p v batch' = u' at announced
  cases announced with
  | decision received present majority =>
      cases second
      cases applied with
      | executed received' present' majority' stored =>
          cases received.payload.symm.trans received'.payload
          cases present.symm.trans present'
          rw [stored]
          exact Option.some_ne_none _
      | adopted received' _ _ _ => cases received.payload.symm.trans received'.payload
      | _ => cases first
  | _ => cases second

theorem eq_applyBatch_of_uttered {x : Effect} {p : PhaseId} {batch : CommandBatch}
    (uttered : x.utterance = some (.applied p batch)) : x = .applyBatch p batch := by
  cases x with
  | applyBatch q applied =>
      cases uttered
      rfl
  | sendTo _ message | broadcast message =>
      obtain ⟨_, _, _, payload⟩ := message
      cases payload with
      | _ => cases uttered
  | decide _ _ | respond _ _ | statistics _ _ => cases uttered

/-- An engine that applies a batch has one on record. -/
theorem batch_of_applied [StateMachine SM] {e' : RabiaEngine SM} {w : List Effect}
    (deed : Deed env e event e' w) {p : PhaseId} {batch : CommandBatch}
    (applied : .applyBatch p batch ∈ w) {phase' : PhaseData}
    (present : e'.getPhase p = some phase') : phase'.batch ≠ none := by
  cases deed with
  | aside _ aside => cases aside.effects _ applied
  | created _ _ _ _ | cleaned _ _ _ _ | counted _ _ _ _ | tallied _ _ _ _ | learned _ _ _ _ =>
      cases applied
  | proposed _ _ _ | answered _ _ _ _ | cast _ _ _ _ _ _ => cases List.mem_singleton.mp applied
  | decided _ _ _ _ _ _ =>
      rcases List.mem_cons.mp applied with h | h
      · cases h
      · cases List.mem_singleton.mp h
  | executed _ before _ stored touches _ said =>
      rcases mem_executed said applied with h | h | h
      · cases h
      · cases h
        rw [touches.at_self, before] at present
        cases present
        show _ ≠ none
        rw [PhaseData.setDecision_batch, PhaseData.addRound2Vote_batch, stored]
        exact Option.some_ne_none _
      · cases h
  | adopted _ _ carried _ touches _ =>
      cases List.mem_singleton.mp applied
      rw [touches.at_self] at present
      obtain ⟨phase, -, rfl⟩ := Option.map_eq_some_iff.mp present
      rw [receivedDecision_batch, carried]
      exact fun lost => Option.some_ne_none _ (Option.or_eq_none_iff.mp lost).2

end Engine

/-! ## In the cluster -/

/-- If the first utterance is an application and the second an acceptance of the same
phase by the same node, then the second carries a batch. -/
def Supplies (first second : NodeId × Utterance) : Prop :=
  ∀ p batch batch', first.1 = second.1 → first.2 = .applied p batch →
    second.2 = .decision p .v1 batch' → batch' ≠ none

/-- Who applied a batch of a phase has one on record and sends it along. -/
structure Furnished (w : World SM) : Prop where
  recorded : ∀ i p batch phase, w.Said i (.applied p batch) →
    (w.engines i).getPhase p = some phase → phase.batch ≠ none
  announced : w.utterances.Pairwise Supplies

/-- After it applied a batch of `p`, the node announced that `p` is accepted, with
`batch`. No engine commits a phase of which it applied no batch. -/
def World.Announced (w : World SM) (node : NodeId) (p : PhaseId) (batch : Option CommandBatch) :
    Prop :=
  ∃ applied, [(node, .applied p applied), (node, .decision p .v1 batch)].Sublist w.utterances

theorem Furnished.batch {w : World SM} (furnished : Furnished w) {node : NodeId} {p : PhaseId}
    {batch : Option CommandBatch} (announced : w.Announced node p batch) :
    ∃ carried, batch = some carried := by
  obtain ⟨applied, order⟩ := announced
  have supplies := List.pairwise_iff_forall_sublist.mp furnished.announced order
  exact Option.ne_none_iff_exists'.mp (supplies p applied batch rfl rfl rfl)

section Act

variable [StateMachine SM] {w : World SM} {node : NodeId} {env : Env} {event : Event}

theorem utterances_act : (w.act node env event).utterances =
    w.utterances ++ (handle env event (w.engines node)).effects.filterMap
      fun x => x.utterance.map fun u => (node, u) := by
  unfold World.utterances World.act
  rw [List.filterMap_append, List.filterMap_map]
  rfl

theorem furnished_act (furnished : Furnished w)
    (present : PhaseRecordsPresent w node env event) : Furnished (w.act node env event) := by
  have deed := deed_of_handle env event (w.engines node)
  have now : ∀ entry ∈ (handle env event (w.engines node)).effects.filterMap
      (fun x => x.utterance.map fun u => (node, u)),
      entry.1 = node ∧ Reason env (w.engines node) event entry.2 := by
    rintro entry member
    obtain ⟨x, hx, pair⟩ := List.mem_filterMap.mp member
    obtain ⟨u, uttered, rfl⟩ := Option.map_eq_some_iff.mp pair
    exact ⟨rfl, reason_of_deed deed hx uttered⟩
  constructor
  · intro i p batch phase' said there
    rcases World.said_act said with old | ⟨rfl, x, hx, uttered⟩
    · rcases revision_of_act there with same | ⟨rfl, revision⟩
      · exact furnished.recorded i p batch phase' old same
      · refine revision.keeps_batch (fun phase => furnished.recorded i p batch phase old) ?_
        exact fun created absent => not_fresh_of_said present created absent rfl old
    · rw [World.act_engines_self] at there
      rw [eq_applyBatch_of_uttered uttered] at hx
      exact batch_of_applied deed hx there
  · rw [utterances_act, List.pairwise_append]
    refine ⟨furnished.announced, ?_, ?_⟩
    · refine List.pairwise_of_forall_mem_list fun first hfirst second hsecond => ?_
      intro p batch batch' _ applied announced
      have reason := (now first hfirst).2
      have reason' := (now second hsecond).2
      rw [applied] at reason
      rw [announced] at reason'
      exact batch_of_reasons reason reason'
    · -- applied earlier, announced now: with the batch on record
      rintro ⟨i, u⟩ earlier ⟨j, u'⟩ hsecond p batch batch' same applied announced
      obtain ⟨itself, reason⟩ := now _ hsecond
      cases same
      cases itself
      subst applied
      subst announced
      cases reason with
      | decision received there majority =>
          exact furnished.recorded _ _ batch _ earlier there

end Act

/-! ## The result -/

variable [StateMachine SM]

/-- The acceptance of a phase on its way from an engine that applied its batch to one
that has not committed the phase and on which the batch succeeds. -/
structure Handover (c : Cluster SM) (env : Env) (packet : Packet) (m : DecisionMessage) :
    Prop where
  inFlight : packet ∈ c.network
  received : Received env packet.sender packet.message (.decision m)
  accepted : m.decision = .v1
  announced : c.toWorld.Announced packet.sender m.phaseId m.batch
  below : (c.engines packet.recipient).engineState.lastCommittedPhase < m.phaseId
  succeed : ∀ batch ∈ m.batch, CommandsSucceed (c.engines packet.recipient) batch

/-- The receiver of a decision commits it if and only if the phase is not above its
current phase. -/
theorem follower_commits_iff (members : List NodeId) (config : NodeId → RabiaConfig)
    (stateMachine : NodeId → SM) (actions : List Action)
    (meets : Cluster.Meets members config stateMachine PhaseRecordsPresent actions)
    {env : Env} {packet : Packet} {m : DecisionMessage}
    (handover : Handover
      (run (Cluster.step members) (Cluster.start members config stateMachine) actions)
      env packet m) :
    CommitsOn env packet.sender packet.message m.phaseId
        ((Cluster.world members config stateMachine actions).engines packet.recipient) ↔
      m.phaseId ≤ ((Cluster.world members config stateMachine actions).engines
        packet.recipient).engineState.currentPhase := by
  obtain ⟨-, furnished⟩ := traced_invariant (I := Furnished)
    (fun w node env event _ _ _ furnished present => furnished_act furnished present)
    ⟨fun _ _ _ _ said => absurd said List.not_mem_nil, List.Pairwise.nil⟩ meets
  obtain ⟨batch, carried⟩ := furnished.batch handover.announced
  exact commitsOn_iff handover.received handover.accepted carried handover.below
    (handover.succeed batch carried)

/-- Two of three nodes propose in phase 1, until node 1 has committed it. -/
def untilFirstCommit : List Action := (twoProposers 65 65).take 14

/-- The decision of node 1 on its way to another node. -/
def decisionFor (node : Nat) : Packet :=
  ⟨⟨1⟩, ⟨node⟩, ProtocolMessage.decision ⟨1⟩ 0 (accepting 1 65)⟩

theorem handover_untilFirstCommit {node : Nat}
    (inFlight : decisionFor node ∈
      (run (Cluster.step (nodesBelow 3)) (Cluster.start (nodesBelow 3) newConfig emptyLog)
        untilFirstCommit).network)
    (below : ((worldOf 3 untilFirstCommit).engines ⟨node⟩).engineState.lastCommittedPhase < 1)
    (succeed : CommandsSucceed ((worldOf 3 untilFirstCommit).engines ⟨node⟩) (writing 65)) :
    Handover (run (Cluster.step (nodesBelow 3))
      (Cluster.start (nodesBelow 3) newConfig emptyLog) untilFirstCommit) {} (decisionFor node)
      (accepting 1 65) := by
  have valid : (ProtocolMessage.decision ⟨1⟩ 0 (accepting 1 65)).validate 0 = .ok () := by
    decide +kernel
  have order : [(⟨1⟩, .applied 1 (writing 65)), (⟨1⟩, .decision 1 .v1 (some (writing 65)))].Sublist
      (worldOf 3 untilFirstCommit).utterances := by
    decide +kernel
  refine ⟨inFlight, ⟨valid, rfl, rfl⟩, rfl, ⟨writing 65, order⟩, below, ?_⟩
  intro batch carried
  cases carried
  exact succeed

/-- Node 0 proposed in phase 1 itself, and commits it with node 1. -/
theorem follower_commits_iff_proposer :
    CommitsOn {} ⟨1⟩ (decisionFor 0).message 1 ((worldOf 3 untilFirstCommit).engines ⟨0⟩) ↔
      1 ≤ ((worldOf 3 untilFirstCommit).engines ⟨0⟩).engineState.currentPhase :=
  follower_commits_iff (nodesBelow 3) newConfig emptyLog untilFirstCommit (by decide +kernel)
    (handover_untilFirstCommit (by decide +kernel) (by decide +kernel) (by decide +kernel))

/-- Node 2 did not propose: it refuses what node 1 committed. -/
theorem follower_refuses :
    Cluster.Meets (nodesBelow 3) newConfig emptyLog PhaseRecordsPresent untilFirstCommit ∧
      ((worldOf 3 untilFirstCommit).engines ⟨1⟩).engineState.lastCommittedPhase = 1 ∧
      Handover (run (Cluster.step (nodesBelow 3))
        (Cluster.start (nodesBelow 3) newConfig emptyLog) untilFirstCommit) {} (decisionFor 2)
        (accepting 1 65) ∧
      ¬ CommitsOn {} ⟨1⟩ (decisionFor 2).message 1
        ((worldOf 3 untilFirstCommit).engines ⟨2⟩) := by
  refine ⟨by decide +kernel, by decide +kernel, ?_, by decide +kernel⟩
  exact handover_untilFirstCommit (by decide +kernel) (by decide +kernel) (by decide +kernel)

end Rabia
