import Rabia.Cluster.Agreement
import Rabia.Engine.Outgoing

/-!
# The batch of a record and its id

A record keeps a batch and, in a field of its own, the id of a batch. Three handlers
write them, each in its own way: `propose_batch` overwrites both, `handle_propose`
overwrites the id and keeps the batch that is there, `handle_decision` keeps the batch
that is there and writes no id. `make_decision` sends both on, with a default id when
there is none.

* `AgreesOnBatch` — no proposal brings another id than that of the batch on record;
* `NamesBatch` — no batch without an id on record is sent on under another id.

Under the first, and only then, the two fields agree in every record of a run; under
both, and only then, so do they in every decision that is sent.
-/

namespace Rabia

open Rabia.Lib Engine

variable {SM : Type}

/-! ## Batches and their ids -/

/-- A record with an id has the batch of that id. -/
def PhaseData.Labelled (phase : PhaseData) : Prop :=
  ∀ id, phase.batchId = some id → ∃ batch, phase.batch = some batch ∧ batch.id = id

/-- A proposal brings a batch, under the id of that batch. -/
def MessageType.ProposesById : MessageType → Prop
  | .propose m => ∃ batch, m.batch = some batch ∧ batch.id = m.batchId
  | _ => True

/-- A decision that brings a batch gives its id. -/
def MessageType.DecidesById : MessageType → Prop
  | .decision m => ∀ batch ∈ m.batch, batch.id = m.batchId
  | _ => True

instance : ∀ payload : MessageType, Decidable payload.DecidesById
  | .decision _ => inferInstanceAs (Decidable (∀ batch ∈ _, _))
  | .propose _ | .voteRound1 _ | .voteRound2 _ | .syncRequest _ | .syncResponse _ | .newBatch _
  | .heartBeat _ | .quorumNotification _ => inferInstanceAs (Decidable True)

namespace World

/-- Where a record has a batch and an id, the id is that of the batch. -/
def RecordsMatch (w : World SM) : Prop :=
  ∀ i p, ∀ phase ∈ (w.engines i).getPhase p, ∀ id ∈ phase.batchId, ∀ batch ∈ phase.batch,
    batch.id = id

/-- Every message that was sent has a payload with the property `K`. -/
def AllSent (w : World SM) (K : MessageType → Prop) : Prop :=
  ∀ entry ∈ w.history, ∀ message ∈ entry.2.message, K message.messageType

instance (w : World SM) (K : MessageType → Prop) [DecidablePred K] : Decidable (w.AllSent K) :=
  inferInstanceAs (Decidable (∀ entry ∈ w.history, _))

/-- Every decision that was sent with a batch gives the id of that batch. -/
def DecisionsMatch (w : World SM) : Prop := w.AllSent MessageType.DecidesById

instance (w : World SM) : Decidable w.DecisionsMatch :=
  inferInstanceAs (Decidable (w.AllSent _))

/-- A genuine message has what every message that was sent has. -/
theorem AllSent.of_genuine {w : World SM} {K : MessageType → Prop} (all : w.AllSent K)
    {members : List NodeId} {node sender : NodeId} {message : ProtocolMessage}
    (genuine : w.Genuine members node (.message sender message)) : K message.messageType := by
  obtain ⟨x, member, among⟩ := genuine sender message rfl
  cases x with
  | sendTo target sent =>
      cases List.mem_singleton.mp among
      exact all _ member message rfl
  | broadcast sent =>
      obtain ⟨other, -, same⟩ := List.mem_map.mp among
      cases same
      exact all _ member message rfl
  | decide _ _ | applyBatch _ _ | respond _ _ | statistics _ _ => cases among

variable [StateMachine SM]

theorem allSent_act_iff {w : World SM} {K : MessageType → Prop} {node : NodeId} {env : Env}
    {event : Event} :
    (w.act node env event).AllSent K ↔ w.AllSent K ∧
      ∀ said ∈ messages (handle env event (w.engines node)).effects, K said.messageType := by
  constructor
  · intro all
    refine ⟨fun entry old => all entry (List.mem_append_left _ old), fun said member => ?_⟩
    obtain ⟨x, hx, sent⟩ := List.mem_filterMap.mp member
    exact all (node, x) (List.mem_append_right _ (List.mem_map_of_mem hx)) said sent
  · rintro ⟨before, now⟩ entry member said sent
    rcases List.mem_append.mp member with old | new
    · exact before entry old said sent
    · obtain ⟨x, hx, rfl⟩ := List.mem_map.mp new
      exact now said (List.mem_filterMap.mpr ⟨x, hx, sent⟩)

end World

/-! ## Conditions on an event -/

/-- A proposal for a phase whose record has a batch brings the id of that batch. -/
def AgreesOnBatch (w : World SM) (node : NodeId) (env : Env) (event : Event) : Prop :=
  ∀ m ∈ receivedPropose env event, (w.engines node).engineState.hasQuorum = true →
    ∀ phase ∈ (w.engines node).getPhase m.phaseId, ∀ batch ∈ phase.batch, batch.id = m.batchId

instance (w : World SM) (node : NodeId) (env : Env) (event : Event) :
    Decidable (AgreesOnBatch w node env event) :=
  inferInstanceAs (Decidable (∀ m ∈ receivedPropose env event, _ → ∀ phase ∈ _, _))

/-- A round-2 vote that sends a batch on with a decision finds an id on record, or the
default id that is drawn happens to be that of the batch. -/
def NamesBatch [StateMachine SM] (w : World SM) (node : NodeId) (env : Env) (event : Event) :
    Prop :=
  ∀ sender m, arrival env event = some (sender, .voteRound2 m) →
    ∀ batch, SendsOn (w.engines node) sender m batch →
      ∀ phase ∈ (w.engines node).getPhase m.phaseId, phase.batchId = none →
        batch.id = ⟨env.uuid⟩

/-! ## One event -/

namespace Engine

theorem receivedPropose_eq_some {env : Env} {event : Event} {m : ProposeMessage}
    (h : receivedPropose env event = some m) :
    ∃ sender message, event = .message sender message ∧
      Received env sender message (.propose m) := by
  obtain ⟨⟨sender, payload⟩, arrived, same⟩ := Option.bind_eq_some_iff.mp h
  obtain ⟨message, rfl, received⟩ := received_of_arrival arrived
  cases payload with
  | propose m' =>
      cases same
      exact ⟨sender, message, rfl, received⟩
  | voteRound1 _ | voteRound2 _ | decision _ | syncRequest _ | syncResponse _ | newBatch _
  | heartBeat _ | quorumNotification _ => cases same

variable [StateMachine SM] {env : Env} {e : RabiaEngine SM}

/-- A proposal that brings its batch labels a record, unless another batch is there. -/
theorem labelled_receivedProposal {m : ProposeMessage} {phase : PhaseData}
    (carried : (MessageType.propose m).ProposesById)
    (agrees : ∀ batch ∈ phase.batch, batch.id = m.batchId) :
    (receivedProposal m phase).Labelled := by
  intro id known
  cases known
  rw [receivedProposal_batch]
  cases stored : phase.batch with
  | none => exact carried
  | some batch => exact ⟨batch, rfl, agrees batch stored⟩

/-- The first batch stays on record, and so does the id. -/
theorem labelled_receivedDecision {m : DecisionMessage} {phase : PhaseData}
    (labelled : phase.Labelled) : (receivedDecision m phase).Labelled := by
  intro id known
  obtain ⟨batch, stored, same⟩ := labelled id known
  refine ⟨batch, ?_, same⟩
  rw [receivedDecision_batch, stored]
  rfl

/-- Records stay labelled when a proposal agrees with what is on record. -/
theorem labelled_handle {event : Event}
    (labelled : ∀ p phase, e.getPhase p = some phase → phase.Labelled)
    (carried : ∀ m ∈ receivedPropose env event, (MessageType.propose m).ProposesById)
    (agrees : ∀ m ∈ receivedPropose env event, e.engineState.hasQuorum = true →
      ∀ phase ∈ e.getPhase m.phaseId, ∀ batch ∈ phase.batch, batch.id = m.batchId)
    {p : PhaseId} {phase' : PhaseData}
    (present : (handle env event e).state.getPhase p = some phase') : phase'.Labelled := by
  cases revision_of_deed (deed_of_handle env event e) present with
  | kept before => exact labelled p phase' before
  | fresh _ => exact fun id known => nomatch known
  | @proposed request phase before next said =>
      intro id known
      cases known
      exact ⟨request.batch, rfl, rfl⟩
  | @answered sender message m phase received before about =>
      by_cases quorum : e.engineState.hasQuorum = true
      · have arrived := receivedPropose_of_received received
        refine labelled_receivedProposal (carried m arrived) ?_
        exact agrees m arrived quorum phase (about ▸ before)
      · have unheard : handle env (.message sender message) e = ⟨.ok (), e, []⟩ :=
          (handle_of_received received e).trans (handlePropose_unheard env sender m quorum)
        rw [unheard] at present
        exact labelled p _ present
  | @counted _ _ _ phase _ before _ => exact labelled p phase before
  | @cast _ _ _ phase _ _ before _ _ => exact labelled p phase before
  | @tallied _ _ _ phase _ before _ => exact labelled p phase before
  | @decided _ _ _ phase _ _ before _ => exact labelled p phase before
  | learned _ before _ => exact labelled_receivedDecision (labelled p _ before)

/-- Where a proposal is said, a client's batch is proposed. -/
theorem request_of_proposal {event : Event} {x : Effect}
    (hx : x ∈ (handle env event e).effects) {p : PhaseId} {v : StateValue}
    {batch : Option CommandBatch} (uttered : x.utterance = some (.proposal p v batch)) :
    ∃ request : CommandRequest, x = proposal env e request.batch := by
  have reason := reason_of_deed (deed_of_handle env event e) hx uttered
  generalize same : Utterance.proposal p v batch = u at reason
  cases reason with
  | @proposal request quorum =>
      have effects : (handle env (.command (.processBatch request)) e).effects = _ :=
        (processBatchRequest_spec env request quorum).2.2.2
      rw [effects] at hx
      exact ⟨request, List.mem_singleton.mp hx⟩
  | round1 _ _ | round2 _ _ _ | decided _ _ _ | decision _ _ _ | executed _ _ _ _
  | adopted _ _ _ _ => cases same

/-- An engine proposes batches under their ids. -/
theorem proposesById_of_sent {event : Event} {said : ProtocolMessage}
    (member : said ∈ messages (handle env event e).effects) :
    said.messageType.ProposesById := by
  obtain ⟨x, hx, sent⟩ := List.mem_filterMap.mp member
  have uttered := utterance_of_message sent
  cases payload : said.messageType with
  | propose m =>
      rw [payload] at uttered
      obtain ⟨request, rfl⟩ := request_of_proposal hx uttered
      cases sent
      cases payload
      exact ⟨request.batch, rfl, rfl⟩
  | voteRound1 _ | voteRound2 _ | decision _ | syncRequest _ | syncResponse _ | newBatch _
  | heartBeat _ | quorumNotification _ => trivial

/-- A decision is said on a round-2 vote. -/
theorem vote_of_decision {event : Event} {x : Effect}
    (hx : x ∈ (handle env event e).effects) {p : PhaseId} {d : StateValue}
    {batch : Option CommandBatch} (uttered : x.utterance = some (.decision p d batch)) :
    ∃ sender message m, event = .message sender message ∧
      Received env sender message (.voteRound2 m) := by
  have reason := reason_of_deed (deed_of_handle env event e) hx uttered
  generalize same : Utterance.decision p d batch = u at reason
  cases reason with
  | decision received _ _ => exact ⟨_, _, _, rfl, received⟩
  | proposal _ | round1 _ _ | round2 _ _ _ | decided _ _ _ | executed _ _ _ _
  | adopted _ _ _ _ => cases same

end Engine

/-! ## Worlds -/

/-- Records with an id have the batch of that id, and batches are proposed under theirs. -/
structure Filed (w : World SM) : Prop where
  records : ∀ i p phase, (w.engines i).getPhase p = some phase → phase.Labelled
  proposals : w.AllSent MessageType.ProposesById

theorem filed_start (members : List NodeId) (config : NodeId → RabiaConfig)
    (stateMachine : NodeId → SM) :
    Filed (Cluster.start members config stateMachine).toWorld where
  records _ _ _ present := nomatch present
  proposals _ member := nomatch member

theorem Filed.recordsMatch {w : World SM} (filed : Filed w) : w.RecordsMatch := by
  intro i p phase present id known batch stored
  obtain ⟨batch', stored', same⟩ := filed.records i p phase present id known
  cases stored.symm.trans stored'
  exact same

section Act

variable [StateMachine SM] {members : List NodeId} {w : World SM} {node : NodeId} {env : Env}
  {event : Event}

theorem filed_act (genuine : w.Genuine members node event) (filed : Filed w)
    (agrees : AgreesOnBatch w node env event) : Filed (w.act node env event) where
  records i p phase present := by
    by_cases here : i = node
    · subst here
      rw [World.act_engines_self] at present
      refine labelled_handle (filed.records i) (fun m arrived => ?_) agrees present
      obtain ⟨sender, message, rfl, received⟩ := receivedPropose_eq_some arrived
      have carried := filed.proposals.of_genuine genuine
      rw [received.payload] at carried
      exact carried
    · rw [World.act_engines_of_ne w env event here] at present
      exact filed.records i p phase present
  proposals := World.allSent_act_iff.mpr
    ⟨filed.proposals, fun _ member => proposesById_of_sent member⟩

/-- The records match after an event exactly when it agrees with the batch on record. -/
theorem recordsMatch_act_iff (genuine : w.Genuine members node event) (filed : Filed w) :
    (w.act node env event).RecordsMatch ↔ AgreesOnBatch w node env event := by
  constructor
  · intro matched m arrived quorum phase present batch stored
    obtain ⟨sender, message, rfl, received⟩ := receivedPropose_eq_some arrived
    -- the record has the new id, and still its batch
    have recorded : ((w.act node env (.message sender message)).engines node).getPhase m.phaseId =
        some (receivedProposal m phase) := by
      rw [World.act_engines_self, handle_of_received received]
      refine (touches_handlePropose env sender m quorum).1.at_self.trans ?_
      rw [present]
      rfl
    refine matched node m.phaseId _ recorded m.batchId rfl batch ?_
    rw [receivedProposal_batch, stored]
    rfl
  · intro agrees
    exact (filed_act genuine filed agrees).recordsMatch

/-- The decisions that an event sends give the ids of their batches exactly when it
names the batch that it sends on. -/
theorem decidesById_iff (filed : Filed w) :
    (∀ said ∈ messages (handle env event (w.engines node)).effects,
        said.messageType.DecidesById) ↔ NamesBatch w node env event := by
  constructor
  · intro all sender m arrived batch sends phase present unnamed
    obtain ⟨message, rfl, received⟩ := received_of_arrival arrived
    rcases messages_voteRound2 (e := w.engines node) received with
      ⟨-, none⟩ | ⟨phase', decision, said, present', sent, single, sendsOn⟩
    · exact absurd sends (none batch)
    · cases present'.symm.trans present
      have titled := all said (single ▸ List.mem_singleton_self said)
      cases sent
      have given := titled batch ((sendsOn batch).mp sends)
      rw [unnamed] at given
      exact given
  · intro names said member
    obtain ⟨x, hx, sent⟩ := List.mem_filterMap.mp member
    have uttered := utterance_of_message sent
    cases payload : said.messageType with
    | decision m' =>
        rw [payload] at uttered
        obtain ⟨sender, message, m, rfl, received⟩ := vote_of_decision hx uttered
        rcases messages_voteRound2 (e := w.engines node) received with
          ⟨silent, -⟩ | ⟨phase, decision, said', present, sent', single, sendsOn⟩
        · rw [silent] at member
          cases member
        · rw [single] at member
          cases List.mem_singleton.mp member
          cases sent'
          cases payload
          intro batch stored
          show batch.id = phase.batchId.getD ⟨env.uuid⟩
          cases known : phase.batchId with
          | none =>
              have arrived := arrival_of_received received
              exact names sender m arrived batch ((sendsOn batch).mpr stored) phase present known
          | some id =>
              obtain ⟨batch', stored', same⟩ := filed.records node m.phaseId phase present id known
              cases stored.symm.trans stored'
              exact same
    | propose _ | voteRound1 _ | voteRound2 _ | syncRequest _ | syncResponse _ | newBatch _
    | heartBeat _ | quorumNotification _ => trivial

theorem decisionsMatch_act_iff (filed : Filed w) (matched : w.DecisionsMatch) :
    (w.act node env event).DecisionsMatch ↔ NamesBatch w node env event := by
  refine World.allSent_act_iff.trans ?_
  rw [decidesById_iff filed]
  exact and_iff_right matched

end Act

/-! ## Runs -/

section Runs

variable [StateMachine SM]

/-- In every world of a run the id and the batch of each record match exactly when no
engine hears a proposal under another id than that of the batch it has on record. Then
every decision goes out under the id of its batch exactly when none is sent on from a
record without an id. -/
theorem records_match_iff (members : List NodeId) (config : NodeId → RabiaConfig)
    (stateMachine : NodeId → SM) (actions : List Action) :
    (Along (Cluster.step members)
        (fun c action => (c.step members action).toWorld.RecordsMatch)
        (Cluster.start members config stateMachine) actions ↔
      Cluster.Meets members config stateMachine AgreesOnBatch actions) ∧
    (Along (Cluster.step members)
        (fun c action => (c.step members action).toWorld.RecordsMatch ∧
          (c.step members action).toWorld.DecisionsMatch)
        (Cluster.start members config stateMachine) actions ↔
      Cluster.Meets members config stateMachine
        (fun w node env event => AgreesOnBatch w node env event ∧ NamesBatch w node env event)
        actions) := by
  have nothing : (Cluster.start members config stateMachine).Carried members :=
    fun packet inFlight => nomatch inFlight
  have filed := filed_start members config stateMachine
  constructor
  · refine Cluster.along_events_iff (I := Filed) (fun w filed => filed.recordsMatch) ?_ ?_
      nothing filed actions
    · intro w node env event genuine filed
      exact recordsMatch_act_iff genuine filed
    · intro w node env event genuine filed agrees
      exact filed_act genuine filed agrees
  · refine Cluster.along_events_iff (I := fun w => Filed w ∧ w.DecisionsMatch)
      (Q := fun w => w.RecordsMatch ∧ w.DecisionsMatch) ?_ ?_ ?_ nothing
      ⟨filed, fun _ member => nomatch member⟩ actions
    · intro w ⟨filed, matched⟩
      exact ⟨filed.recordsMatch, matched⟩
    · intro w node env event genuine ⟨filed, matched⟩
      exact and_congr (recordsMatch_act_iff genuine filed) (decisionsMatch_act_iff filed matched)
    · intro w node env event genuine ⟨filed, matched⟩ ⟨agrees, names⟩
      exact ⟨filed_act genuine filed agrees, (decisionsMatch_act_iff filed matched).mpr names⟩

end Runs

/-- Two of three nodes propose a batch each. Every record ends up with the batch that was
there first under the id of the other, and so do the decisions that go out. -/
theorem first_batch_under_second_id :
    Cluster.Meets (nodesBelow 3) newConfig emptyLog PhaseRecordsPresent
        (twoProposers 65 66) ∧
      ¬ (worldOf 3 (twoProposers 65 66)).RecordsMatch ∧
      ¬ (worldOf 3 (twoProposers 65 66)).DecisionsMatch := by
  refine ⟨by decide +kernel, fun records => ?_, by decide +kernel⟩
  have mismatch := records ⟨0⟩ 1
  revert mismatch
  decide +kernel

/-- Three of five nodes propose one batch. Node 4 hears none of them, learns the batch
from the decision of node 0 and then hears the round-2 votes. -/
def learnedFirst : List Action :=
  (List.range 5).map creating ++
    [.atNode ⟨4⟩ {} (.command .forcePhaseAdvance), submitting 0 65, submitting 1 65,
      submitting 2 65, .lose 3, .lose 6, .lose 9] ++
    List.replicate 18 (delivering 0 true) ++
    [4, 7, 13, 3, 5, 7].map fun index => delivering index true

/-- It sends the batch on under the default id. -/
theorem learned_batch_under_default_id :
    Cluster.Meets (nodesBelow 5) newConfig emptyLog
        (fun w node env event => PhaseRecordsPresent w node env event ∧
          AgreesOnBatch w node env event) learnedFirst ∧
      ¬ (worldOf 5 learnedFirst).DecisionsMatch :=
  ⟨by decide +kernel, by decide +kernel⟩

end Rabia
