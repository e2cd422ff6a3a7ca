import Rabia.Cluster.Traced

/-!
# Voting once

A node's vote is recomputed at every arrival: in round 1 for every proposal of
the phase, in round 2 for every round-1 vote once a majority has answered, each
time with a fresh draw. Nothing in the engine makes the next vote repeat the last
one. This module says what would:

* `AnswersOnce` — who answered a proposal with `?` does not answer another;
* `Reaffirms` — who enters round 2 again comes out with the vote it recorded.

Under these, what a node said is what its record holds, and a node casts one vote
a round (`SingleRound1`, `SingleRound2`).
-/

namespace Rabia

open Rabia.Lib Engine

variable {SM : Type}

/-! ## What an event is about -/

/-- The phase that an event of the voting names. -/
def namedPhase (env : Env) (e : RabiaEngine SM) : Event → Option PhaseId
  | .command (.processBatch _) =>
    if e.engineState.hasQuorum = true then some (nextPhase e) else none
  | event => (arrival env event).bind fun (_, payload) => payload.utterance.map Utterance.phase

def createdPhase : Event → Option PhaseId
  | .createPhase p => some p
  | _ => none

/-- The proposal that an event brings. -/
def receivedPropose (env : Env) (event : Event) : Option ProposeMessage :=
  (arrival env event).bind fun
    | (_, .propose m) => some m
    | _ => none

/-- The round-1 vote that an event brings, with its sender. -/
def receivedVote (env : Env) (event : Event) : Option (NodeId × VoteRound1Message) :=
  (arrival env event).bind fun
    | (sender, .voteRound1 m) => some (sender, m)
    | _ => none

/-- An engine on its way into round 2: its record with the last vote in it, and
the outcome of round 1. -/
structure Entry where
  phase : PhaseData
  result : StateValue

/-- The entry into round 2 that an event leads to. -/
def entryOf (env : Env) (e : RabiaEngine SM) (event : Event) : Option Entry :=
  match receivedVote env event with
  | some (sender, m) =>
    match e.getPhase m.phaseId with
    | some phase =>
      (round1Result e.engineState.quorumSize (phase.addRound1Vote sender m.vote)).map fun result =>
        ⟨phase.addRound1Vote sender m.vote, result⟩
    | none => none
  | none => none

/-! ## Conditions on an event -/

/-- The node has not said anything about the phase. -/
def World.Silent (w : World SM) (node : NodeId) (p : PhaseId) : Prop :=
  ∀ said ∈ w.utterances, said.1 = node → said.2.phase ≠ p

instance (w : World SM) (node : NodeId) (p : PhaseId) : Decidable (w.Silent node p) :=
  inferInstanceAs (Decidable (∀ said ∈ w.utterances, _))

/-- A phase that an event names has a record, and records are made before the
engine takes part in their phase. -/
def PhaseRecordsPresent (w : World SM) (node : NodeId) (env : Env) (event : Event) : Prop :=
  (∀ p ∈ namedPhase env (w.engines node) event, (w.engines node).getPhase p ≠ none) ∧
    ∀ p ∈ createdPhase event, (w.engines node).getPhase p ≠ none ∨ w.Silent node p

/-- An engine that answered a proposal of the phase with `?` does not answer another. -/
def AnswersOnce (w : World SM) (node : NodeId) (env : Env) (event : Event) : Prop :=
  ∀ m ∈ receivedPropose env event, (w.engines node).engineState.hasQuorum = true →
    ¬ w.Said node (.round1 m.phaseId .vQuestion)

/-- An engine that enters round 2 with a vote of its own on record comes out with it. -/
def Reaffirms (w : World SM) (node : NodeId) (env : Env) (event : Event) : Prop :=
  ∀ entry ∈ entryOf env (w.engines node) event, ∀ v ∈ entry.phase.round2Votes.lookup node,
    Repeats env.draw entry.phase.round1Votes entry.result v

/-- Round 2 is entered only with a majority for V0 or V1 in round 1. -/
def Conclusive (w : World SM) (node : NodeId) (env : Env) (event : Event) : Prop :=
  ∀ entry ∈ entryOf env (w.engines node) event, entry.result ≠ .vQuestion

section Decidable

variable (w : World SM) (node : NodeId) (env : Env) (event : Event)

instance : Decidable (PhaseRecordsPresent w node env event) :=
  inferInstanceAs (Decidable (_ ∧ ∀ p ∈ createdPhase event, _))

instance : Decidable (AnswersOnce w node env event) :=
  inferInstanceAs (Decidable (∀ m ∈ receivedPropose env event, _))

instance : Decidable (Reaffirms w node env event) :=
  inferInstanceAs (Decidable (∀ entry ∈ entryOf env (w.engines node) event,
    ∀ v ∈ entry.phase.round2Votes.lookup node, _))

instance : Decidable (Conclusive w node env event) :=
  inferInstanceAs (Decidable (∀ entry ∈ entryOf env (w.engines node) event, _))

end Decidable

/-! ## What the conditions say of a received message -/

theorem namedPhase_of_received {env : Env} {sender : NodeId} {message : ProtocolMessage}
    {payload : MessageType} (e : RabiaEngine SM) (received : Received env sender message payload) :
    namedPhase env e (.message sender message) = payload.utterance.map Utterance.phase := by
  rw [namedPhase, arrival_of_received received]
  · rfl
  · exact fun _ impossible => nomatch impossible

theorem receivedPropose_of_received {env : Env} {sender : NodeId} {message : ProtocolMessage}
    {m : ProposeMessage} (received : Received env sender message (.propose m)) :
    receivedPropose env (.message sender message) = some m := by
  unfold receivedPropose
  rw [arrival_of_received received]
  rfl

theorem receivedVote_of_received {env : Env} {sender : NodeId} {message : ProtocolMessage}
    {m : VoteRound1Message} (received : Received env sender message (.voteRound1 m)) :
    receivedVote env (.message sender message) = some (sender, m) := by
  unfold receivedVote
  rw [arrival_of_received received]
  rfl

theorem entryOf_received {env : Env} {e : RabiaEngine SM} {sender : NodeId}
    {message : ProtocolMessage} {m : VoteRound1Message} {phase : PhaseData} {result : StateValue}
    (received : Received env sender message (.voteRound1 m))
    (present : e.getPhase m.phaseId = some phase)
    (reached : round1Result e.engineState.quorumSize (phase.addRound1Vote sender m.vote) =
      some result) :
    entryOf env e (.message sender message) =
      some ⟨phase.addRound1Vote sender m.vote, result⟩ := by
  rw [entryOf, receivedVote_of_received received]
  dsimp only
  rw [present]
  dsimp only
  rw [reached]
  rfl

/-! ## One vote in round 1 -/

/-- Who answered a proposal knows that V1 was proposed, and all answers agree. -/
structure SingleRound1 (w : World SM) : Prop where
  known : ∀ i p v phase, w.Said i (.round1 p v) → (w.engines i).getPhase p = some phase →
    phase.proposedValue = some .v1
  single : ∀ i p v v', w.Said i (.round1 p v) → w.Said i (.round1 p v') → v = v'

/-- A vote of a node is on its record, and all its votes agree. -/
structure SingleRound2 (w : World SM) : Prop where
  recorded : ∀ i p v phase, w.Said i (.round2 p v) → (w.engines i).getPhase p = some phase →
    phase.round2Votes.lookup i = some v
  single : ∀ i p v v', w.Said i (.round2 p v) → w.Said i (.round2 p v') → v = v'

theorem singleRound1_start (members : List NodeId) (config : NodeId → RabiaConfig)
    (stateMachine : NodeId → SM) :
    SingleRound1 (Cluster.start members config stateMachine).toWorld where
  known _ _ _ _ said := absurd said List.not_mem_nil
  single _ _ _ _ said := absurd said List.not_mem_nil

theorem singleRound2_start (members : List NodeId) (config : NodeId → RabiaConfig)
    (stateMachine : NodeId → SM) :
    SingleRound2 (Cluster.start members config stateMachine).toWorld where
  recorded _ _ _ _ said := absurd said List.not_mem_nil
  single _ _ _ _ said := absurd said List.not_mem_nil

section Act

variable {members : List NodeId} {w : World SM} {node : NodeId} {env : Env} {event : Event}

/-- No record is made fresh for a phase of which its engine has spoken. -/
theorem not_fresh_of_said (present : PhaseRecordsPresent w node env event) {p : PhaseId}
    (created : createdPhase event = some p) (absent : (w.engines node).getPhase p = none)
    {u : Utterance} (about : u.phase = p) : ¬ w.Said node u := by
  intro said
  rcases present.2 p created with there | silent
  · exact there absent
  · exact silent (node, u) said rfl about

/-- A value that is on record stays. -/
theorem known_kept {i : NodeId} {p : PhaseId} {phase' : PhaseData} {effects : List Effect}
    (revision : Revision env (w.engines i) p effects event phase')
    (known : ∀ phase, (w.engines i).getPhase p = some phase → phase.proposedValue = some .v1)
    (notFresh : createdPhase event = some p → (w.engines i).getPhase p ≠ none) :
    phase'.proposedValue = some .v1 := by
  cases revision with
  | kept before => exact known _ before
  | fresh absent => exact absurd absent (notFresh rfl)
  | proposed before _ _ => rfl
  | answered _ before _ =>
      rw [receivedProposal_proposedValue, known _ before]
      rfl
  | counted _ before _ => simpa using known _ before
  | cast _ before _ _ => simpa using known _ before
  | tallied _ before _ => simpa using known _ before
  | decided _ before _ => simpa using known _ before
  | learned _ before _ => simpa using known _ before

/-- Once V1 is known, a proposal of V1 is answered with V1. -/
theorem determineRound1Vote_of_known {draw : Bool} {phase : PhaseData} {m : ProposeMessage}
    (known : phase.proposedValue = some .v1) (value : m.value = .v1) :
    determineRound1Vote draw (some phase) m = .v1 := by
  unfold determineRound1Vote
  dsimp only
  rw [known, value]
  exact if_pos rfl

/-- Two reasons of one event give one round-1 vote. -/
theorem round1_of_reasons {e : RabiaEngine SM} {p : PhaseId} {v v' : StateValue}
    (reason : Reason env e event (.round1 p v)) (reason' : Reason env e event (.round1 p v')) :
    v = v' := by
  generalize same : Utterance.round1 p v = u at reason
  cases reason with
  | round1 received quorum =>
      cases same
      generalize same' : Utterance.round1 _ v' = u' at reason'
      cases reason' with
      | round1 received' quorum' =>
          cases received.payload.symm.trans received'.payload
          cases same'
          rfl
      | _ => cases same'
  | _ => cases same

/-- Two reasons of one event give one round-2 vote. -/
theorem round2_of_reasons {e : RabiaEngine SM} {p : PhaseId} {v v' : StateValue}
    (reason : Reason env e event (.round2 p v)) (reason' : Reason env e event (.round2 p v')) :
    v = v' := by
  generalize same : Utterance.round2 p v = u at reason
  cases reason with
  | round2 received present reached =>
      cases same
      generalize same' : Utterance.round2 _ v' = u' at reason'
      cases reason' with
      | round2 received' present' reached' =>
          cases received.payload.symm.trans received'.payload
          cases present.symm.trans present'
          cases reached.symm.trans reached'
          cases same'
          rfl
      | _ => cases same'
  | _ => cases same

/-- A round-2 vote comes from another node: no broadcast reaches its sender. -/
theorem sender_ne_of_round2 (traced : Traced members w) {sender : NodeId}
    {message : ProtocolMessage} {m : VoteRound2Message}
    (genuine : w.Genuine members node (.message sender message))
    (received : Received env sender message (.voteRound2 m)) : sender ≠ node := by
  obtain ⟨x, member, among⟩ := genuine sender message rfl
  have uttered : message.messageType.utterance = some (.round2 m.phaseId m.vote) := by
    rw [received.payload]
    rfl
  cases x with
  | sendTo target sent =>
      have same : message = sent := congrArg Packet.message (List.mem_singleton.mp among)
      subst same
      obtain ⟨p, v, round1⟩ := traced.direct sender target message _ member uttered
      cases round1
  | broadcast sent =>
      obtain ⟨other, elsewhere, same⟩ := List.mem_map.mp among
      cases same
      have apart := (List.mem_filter.mp elsewhere).2
      exact fun self => of_decide_eq_true apart self.symm
  | decide _ _ | applyBatch _ _ | respond _ _ | statistics _ _ => cases among

variable [StateMachine SM]

theorem singleRound1_act (traced : Traced members w)
    (traced' : Traced members (w.act node env event))
    (genuine : w.Genuine members node event) (single : SingleRound1 w)
    (present : PhaseRecordsPresent w node env event) (once : AnswersOnce w node env event) :
    SingleRound1 (w.act node env event) := by
  -- a vote cast now agrees with any cast before: that one was V1, and V1 is known
  have agrees : ∀ p v v', Reason env (w.engines node) event (.round1 p v) →
      w.Said node (.round1 p v') → v = v' := by
    intro p v v' reason old
    generalize same : Utterance.round1 p v = u at reason
    cases reason with
    | @round1 sender message m received quorum =>
        cases same
        have notQuestion : v' ≠ .vQuestion := by
          rintro rfl
          exact once m (receivedPropose_of_received received) quorum old
        have notZero := traced.round1 node m.phaseId v' old
        have value := traced.proposal _ _ _ _ (said_of_received genuine received rfl)
        have named := namedPhase_of_received (w.engines node) received
        obtain ⟨phase, there⟩ := Option.ne_none_iff_exists'.mp (present.1 m.phaseId named)
        rw [there, determineRound1Vote_of_known (single.known node m.phaseId v' phase old there)
          value]
        cases v' with
        | v0 => exact absurd rfl notZero
        | v1 => rfl
        | vQuestion => exact absurd rfl notQuestion
    | _ => cases same
  constructor
  · intro i p v phase said there
    rcases World.said_act said with old | ⟨rfl, x, hx, uttered⟩
    · rcases revision_of_act there with same | ⟨rfl, revision⟩
      · exact single.known i p v phase old same
      · refine known_kept revision (fun before => single.known i p v before old) ?_
        exact fun created absent => not_fresh_of_said present created absent rfl old
    · -- the answer left a value in the record, and recorded values are V1
      have remembered := remembers_of_deed (deed_of_handle env event (w.engines i)) hx uttered
      rw [World.act_engines_self] at there
      obtain ⟨value, recorded⟩ := Option.ne_none_iff_exists'.mp (remembered phase there)
      rw [← World.act_engines_self] at there
      rw [recorded, traced'.value i p phase value there recorded]
  · intro i p v v' said said'
    rcases reason_of_said said with old | ⟨rfl, reason⟩
    · rcases reason_of_said said' with old' | ⟨rfl, reason'⟩
      · exact single.single i p v v' old old'
      · exact (agrees p v' v reason' old).symm
    · rcases reason_of_said said' with old' | ⟨-, reason'⟩
      · exact agrees p v v' reason old'
      · exact round1_of_reasons reason reason'

/-! ## One vote in round 2 -/

theorem singleRound2_act (traced : Traced members w) (genuine : w.Genuine members node event)
    (single : SingleRound2 w) (present : PhaseRecordsPresent w node env event)
    (reaffirms : Reaffirms w node env event) : SingleRound2 (w.act node env event) := by
  -- a vote cast now agrees with any cast before: that one is on record
  have agrees : ∀ p v v', Reason env (w.engines node) event (.round2 p v) →
      w.Said node (.round2 p v') → v = v' := by
    intro p v v' reason old
    generalize same : Utterance.round2 p v = u at reason
    cases reason with
    | @round2 sender message m phase result received there reached =>
        cases same
        have recorded := single.recorded node m.phaseId v' phase old there
        exact repeats_iff.mp (reaffirms _ (entryOf_received received there reached) v' recorded)
    | _ => cases same
  constructor
  · intro i p v phase' said there
    rcases World.said_act said with old | ⟨rfl, x, hx, uttered⟩
    · rcases revision_of_act there with same | ⟨rfl, revision⟩
      · exact single.recorded i p v phase' old same
      cases revision with
      | kept before => exact single.recorded i p v phase' old before
      | fresh absent => exact absurd old (not_fresh_of_said present rfl absent rfl)
      | proposed before _ _ => simpa using single.recorded i p v _ old before
      | answered _ before _ => simpa using single.recorded i p v _ old before
      | counted _ before _ => simpa using single.recorded i p v _ old before
      | learned _ before _ => simpa using single.recorded i p v _ old before
      | cast received before about cast =>
          have same := agrees p _ v
            (reason_of_deed (deed_of_handle env _ (w.engines i)) cast rfl) old
          simp [← same, traced.identity i]
      | tallied received before about =>
          have apart := sender_ne_of_round2 traced genuine received
          simpa [Finmap.lookup_insert_of_ne _ apart.symm] using single.recorded i p v _ old before
      | decided received before about =>
          have apart := sender_ne_of_round2 traced genuine received
          simpa [Finmap.lookup_insert_of_ne _ apart.symm] using single.recorded i p v _ old before
    · have remembered := remembers_of_deed (deed_of_handle env event (w.engines i)) hx uttered
      have itself := (deed_steady (deed_of_handle env event (w.engines i))).1
      rw [World.act_engines_self] at there
      have recorded := remembered phase' there
      rw [itself, traced.identity i] at recorded
      exact recorded
  · intro i p v v' said said'
    rcases reason_of_said said with old | ⟨rfl, reason⟩
    · rcases reason_of_said said' with old' | ⟨rfl, reason'⟩
      · exact single.single i p v v' old old'
      · exact (agrees p v' v reason' old).symm
    · rcases reason_of_said said' with old' | ⟨-, reason'⟩
      · exact agrees p v v' reason old'
      · exact round2_of_reasons reason reason'

end Act

end Rabia
