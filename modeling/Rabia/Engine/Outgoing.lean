import Rabia.Engine.Reasons
import Rabia.Engine.Restart
import Rabia.Engine.Sync

/-!
# What engines send and what their peers accept

`handle_message` refuses every message that does not pass `validate`, and nothing on
the sending side calls `validate`. `Accepted` says that the receivers let everything
pass that an engine sends for one event, `Sendable` what it takes: the batch of a
client's request has to pass, and so has the batch of a record that is sent on with a
decision. `process_batch_request` does not look at the batch (`empty_batch_refused`).
-/

namespace Rabia

open Rabia.Lib Rabia.Lib.Proc

/-- The message that an effect sends. -/
def Effect.message : Effect → Option ProtocolMessage
  | .sendTo _ message | .broadcast message => some message
  | _ => none

/-- What an effect says is what its message says. -/
theorem utterance_of_message {x : Effect} {message : ProtocolMessage}
    (sent : x.message = some message) : x.utterance = message.messageType.utterance := by
  cases x with
  | sendTo _ _ | broadcast _ =>
      cases sent
      rfl
  | decide _ _ | applyBatch _ _ | respond _ _ | statistics _ _ => cases sent

/-- A receiver whose clock runs equal lets the message pass, delivered at any moment
within the allowed skew after `now`. -/
def Delivered (now : Nat) (message : ProtocolMessage) : Prop :=
  ∀ delay ≤ ValidationConfig.default.maxClockSkewMs, message.validate (now + delay) = .ok ()

namespace Engine

variable {SM : Type}

/-- The two phase counters hold values of a `u64`. -/
structure Counting (e : RabiaEngine SM) : Prop where
  currentPhase : e.engineState.currentPhase < u64Size
  lastCommittedPhase : e.engineState.lastCommittedPhase < u64Size

instance (e : RabiaEngine SM) : Decidable (Counting e) :=
  decidable_of_iff (e.engineState.currentPhase < u64Size ∧
    e.engineState.lastCommittedPhase < u64Size) ⟨fun h => ⟨h.1, h.2⟩, fun h => ⟨h.1, h.2⟩⟩

section Steps

variable [StateMachine SM]

/-- The peers accept every message that the engine sends for an event. -/
def Accepted (e : RabiaEngine SM) (input : Env × Event) : Prop :=
  ∀ x ∈ (handle input.1 input.2 e).effects, ∀ message, x.message = some message →
    Delivered input.1.now message

/-- A round-2 vote from `sender` makes the engine broadcast a decision with this batch. -/
def SendsOn (e : RabiaEngine SM) (sender : NodeId) (m : VoteRound2Message)
    (batch : CommandBatch) : Prop :=
  ∃ phase, e.getPhase m.phaseId = some phase ∧ phase.batch = some batch ∧
    ∃ decision, (phase.addRound2Vote sender m.vote).hasRound2Majority
        e.engineState.quorumSize = some decision ∧
      (decision = .v1 → CommandsSucceed e batch ∧ m.phaseId ≤ e.engineState.currentPhase)

/-- The batches that are sent on pass the checks of the peers, and the counters that a
heartbeat shows are in order. -/
def Sendable (e : RabiaEngine SM) (input : Env × Event) : Prop :=
  match input.2 with
  | .command (.processBatch request) =>
    e.engineState.hasQuorum = true → request.batch.validate input.1.now = .ok ()
  | .heartbeat => e.engineState.lastCommittedPhase ≤ e.engineState.currentPhase
  | event => ∀ sender m, arrival input.1 event = some (sender, .voteRound2 m) →
    ∀ batch, SendsOn e sender m batch → batch.validate input.1.now = .ok ()

/-! ## Delivery -/

/-- A message sent at `now` passes on delivery when its payload does at every moment. -/
theorem delivered_iff {sender : NodeId} {recipient : Option NodeId} {now : Nat}
    {payload : MessageType} :
    Delivered now ⟨sender, recipient, now, payload⟩ ↔
      ∀ delay ≤ ValidationConfig.default.maxClockSkewMs,
        payload.validate (now + delay) = .ok () := by
  constructor
  · intro delivered delay inTime
    exact (ProtocolMessage.validate_delivered inTime).symm.trans (delivered delay inTime)
  · intro passes delay inTime
    exact (ProtocolMessage.validate_delivered inTime).trans (passes delay inTime)

/-- A batch that passes when it is sent passes when it arrives. -/
theorem batch_delivered_iff {now : Nat} {p : Nat} {carried : Option CommandBatch} :
    (∀ delay ≤ ValidationConfig.default.maxClockSkewMs,
      p < u64Size ∧ ∀ batch, carried = some batch → batch.validate (now + delay) = .ok ()) ↔
      p < u64Size ∧ ∀ batch, carried = some batch → batch.validate now = .ok () := by
  constructor
  · intro passes
    exact passes 0 (Nat.zero_le _)
  · intro passes delay _
    refine ⟨passes.1, fun batch same => ?_⟩
    exact CommandBatch.validate_mono (Nat.le_add_right now delay) (passes.2 batch same)

/-- The payload of a message that was received passes. -/
theorem payload_of_received {env : Env} {sender : NodeId} {message : ProtocolMessage}
    {payload : MessageType} (received : Received env sender message payload) :
    payload.validate env.now = .ok () := by
  have valid := ProtocolMessage.payload_validate received.valid
  rw [received.payload] at valid
  exact valid

/-- The messages in a list of effects. -/
def messages (w : List Effect) : List ProtocolMessage := w.filterMap Effect.message

theorem accepted_iff_messages {e : RabiaEngine SM} {env : Env} {event : Event} :
    Accepted e (env, event) ↔
      ∀ message ∈ messages (handle env event e).effects, Delivered env.now message := by
  unfold Accepted messages
  constructor
  · intro accepted message member
    obtain ⟨x, hx, sent⟩ := List.mem_filterMap.mp member
    exact accepted x hx message sent
  · intro delivered x hx message sent
    exact delivered message (List.mem_filterMap.mpr ⟨x, hx, sent⟩)

/-- An event for which one message is sent. -/
theorem accepted_of_single {e : RabiaEngine SM} {env : Env} {event : Event} {w : List Effect}
    {message : ProtocolMessage} (effects : (handle env event e).effects = w)
    (single : messages w = [message]) :
    Accepted e (env, event) ↔ Delivered env.now message := by
  rw [accepted_iff_messages, effects, single, List.forall_mem_singleton]

/-- An event for which nothing is sent. -/
theorem accepted_of_silent {e : RabiaEngine SM} {env : Env} {event : Event} {w : List Effect}
    (effects : (handle env event e).effects = w) (silent : messages w = []) :
    Accepted e (env, event) := by
  rw [accepted_iff_messages, effects, silent]
  intro message member
  cases member

/-! ## The messages of each event -/

omit [StateMachine SM] in
theorem nextPhase_lt (e : RabiaEngine SM) : nextPhase e < u64Size :=
  Nat.mod_lt _ (by decide)

/-- A proposal is accepted when its batch is. -/
theorem accepted_request {e : RabiaEngine SM} {env : Env} {request : CommandRequest} :
    Accepted e (env, .command (.processBatch request)) ↔
      (e.engineState.hasQuorum = true → request.batch.validate env.now = .ok ()) := by
  by_cases quorum : e.engineState.hasQuorum = true
  · have effects : (handle env (.command (.processBatch request)) e).effects =
        [proposal env e request.batch] := (processBatchRequest_spec env request quorum).2.2.2
    rw [accepted_of_single effects rfl]
    refine delivered_iff.trans ?_
    simp only [MessageType.validate_propose, batch_delivered_iff]
    simp [nextPhase_lt, quorum]
  · have silent := accepted_of_silent (handle_declined env request quorum).2 rfl
    simp [quorum, silent]

/-- A heartbeat is accepted when its counters are in order. -/
theorem accepted_heartbeat {e : RabiaEngine SM} (counting : Counting e) {env : Env} :
    Accepted e (env, .heartbeat) ↔
      e.engineState.lastCommittedPhase ≤ e.engineState.currentPhase := by
  rw [accepted_of_single (handle_heartbeat env e).2 rfl]
  refine delivered_iff.trans ?_
  simp only [MessageType.validate_heartBeat]
  constructor
  · intro passes
    exact (passes 0 (Nat.zero_le _)).2
  · intro behind delay _
    exact ⟨counting.currentPhase, behind⟩

/-- A round-1 vote, the answer to a proposal, is accepted. -/
theorem accepted_propose {e : RabiaEngine SM} {env : Env} {sender : NodeId}
    {message : ProtocolMessage} {m : ProposeMessage}
    (received : Received env sender message (.propose m)) :
    Accepted e (env, .message sender message) := by
  have below := (MessageType.validate_propose.mp (payload_of_received received)).1
  have handled := congrArg Outcome.effects (handle_of_received received e)
  have effects := handlePropose_effects env sender m e
  by_cases quorum : e.engineState.hasQuorum = true
  · rw [if_pos quorum] at effects
    rw [accepted_of_single (handled.trans effects) rfl]
    refine delivered_iff.mpr fun delay _ => ?_
    exact MessageType.validate_voteRound1.mpr below
  · rw [if_neg quorum] at effects
    exact accepted_of_silent (handled.trans effects) rfl

/-- A round-2 vote carries the round-1 vote that led to it, and is accepted. -/
theorem accepted_voteRound1 {e : RabiaEngine SM} {env : Env} {sender : NodeId}
    {message : ProtocolMessage} {m : VoteRound1Message}
    (received : Received env sender message (.voteRound1 m)) :
    Accepted e (env, .message sender message) := by
  have below := MessageType.validate_voteRound1.mp (payload_of_received received)
  have handled := congrArg Outcome.effects (handle_of_received received e)
  have effects := handled.trans (handleVoteRound1_effects env sender m e)
  cases present : (e.getPhase m.phaseId).map (·.addRound1Vote sender m.vote) with
  | none =>
      rw [present] at effects
      exact accepted_of_silent effects rfl
  | some phase =>
      obtain ⟨before, -, rfl⟩ := Option.map_eq_some_iff.mp present
      rw [present] at effects
      dsimp only at effects
      cases reached : round1Result e.engineState.quorumSize
          (before.addRound1Vote sender m.vote) with
      | none =>
          rw [reached] at effects
          exact accepted_of_silent effects rfl
      | some result =>
          rw [reached] at effects
          rw [accepted_of_single effects rfl]
          refine delivered_iff.mpr fun delay _ => MessageType.validate_voteRound2.mpr ⟨below, ?_⟩
          exact Table.insert_ne_empty _ _ _

omit [StateMachine SM] in
/-- The broadcast of a decision is accepted when the batch of the record is. -/
theorem delivered_verdict {e : RabiaEngine SM} {env : Env} {p : PhaseId} {phase : PhaseData}
    {decision : StateValue} (below : p < u64Size) {message : ProtocolMessage}
    (sent : (verdict env e p phase decision).message = some message) :
    Delivered env.now message ↔
      ∀ batch, phase.batch = some batch → batch.validate env.now = .ok () := by
  cases sent
  refine delivered_iff.trans ?_
  simp only [MessageType.validate_decision, batch_delivered_iff]
  exact and_iff_right below

/-- `make_decision` gets as far as its broadcast. -/
def Announces (e : RabiaEngine SM) (p : PhaseId) (phase : PhaseData) (decision : StateValue) :
    Prop :=
  decision = .v1 → ∀ batch, phase.batch = some batch →
    CommandsSucceed e batch ∧ p ≤ e.engineState.currentPhase

/-- `make_decision` sends its decision or nothing. -/
theorem messages_makeDecision {e : RabiaEngine SM} (env : Env) {p : PhaseId} {phase : PhaseData}
    (decision : StateValue) (present : e.getPhase p = some phase) :
    (Announces e p phase decision ∧ ∃ message,
      (verdict env e p phase decision).message = some message ∧
        messages (makeDecision env p decision e).effects = [message]) ∨
    (¬ Announces e p phase decision ∧
      messages (makeDecision env p decision e).effects = []) := by
  by_cases runs : decision = .v1 ∧ ∃ batch, phase.batch = some batch
  · obtain ⟨rfl, batch, stored⟩ := runs
    obtain ⟨-, -, said⟩ := makeDecision_runs env present stored
    have announces : Announces e p phase .v1 ↔
        CommandsSucceed e batch ∧ p ≤ e.engineState.currentPhase := by
      simp [Announces, stored]
    rw [announces]
    by_cases committed : CommandsSucceed e batch ∧ p ≤ e.engineState.currentPhase
    · rw [if_pos committed] at said
      exact Or.inl ⟨committed, _, rfl, congrArg messages said⟩
    · rw [if_neg committed] at said
      exact Or.inr ⟨committed, congrArg messages said⟩
  · have idle : decision = .v1 → phase.batch = none := by
      intro accepted
      by_contra stored
      exact runs ⟨accepted, Option.ne_none_iff_exists'.mp stored⟩
    obtain ⟨-, said⟩ := makeDecision_idle env present idle
    refine Or.inl ⟨fun accepted batch stored => ?_, _, rfl, congrArg messages said⟩
    rw [idle accepted] at stored
    cases stored

/-- Recording a vote changes neither the state machine nor the phase counter. -/
theorem announces_recorded {e : RabiaEngine SM} {p : PhaseId} {phase : PhaseData}
    {sender : NodeId} {vote decision : StateValue} :
    Announces (e.mapState (EngineState.updatePhase p (·.addRound2Vote sender vote))) p
        (phase.addRound2Vote sender vote) decision ↔
      Announces e p phase decision := by
  unfold Announces
  rw [show (e.mapState (EngineState.updatePhase p
    (·.addRound2Vote sender vote))).engineState.currentPhase =
      e.engineState.currentPhase from EngineState.updatePhase_currentPhase _ _ _]
  exact Iff.rfl

/-- A vote that completes no majority sends nothing on. -/
theorem not_sendsOn {e : RabiaEngine SM} {sender : NodeId} {m : VoteRound2Message}
    (undecided : ((e.getPhase m.phaseId).map (·.addRound2Vote sender m.vote)).bind
      (·.hasRound2Majority e.engineState.quorumSize) = none) (batch : CommandBatch) :
    ¬ SendsOn e sender m batch := by
  rintro ⟨phase, present, -, decision, majority, -⟩
  rw [present, Option.map_some, Option.bind_some, majority] at undecided
  cases undecided

theorem sendsOn_iff {e : RabiaEngine SM} {sender : NodeId} {m : VoteRound2Message}
    {phase : PhaseData} {decision : StateValue} (present : e.getPhase m.phaseId = some phase)
    (majority : (phase.addRound2Vote sender m.vote).hasRound2Majority
      e.engineState.quorumSize = some decision) (batch : CommandBatch) :
    SendsOn e sender m batch ↔ phase.batch = some batch ∧
      (decision = .v1 → CommandsSucceed e batch ∧ m.phaseId ≤ e.engineState.currentPhase) := by
  simp [SendsOn, present, majority]

/-- A round-2 vote makes the engine send the decision on its record, or nothing. -/
theorem messages_voteRound2 {e : RabiaEngine SM} {env : Env} {sender : NodeId}
    {message : ProtocolMessage} {m : VoteRound2Message}
    (received : Received env sender message (.voteRound2 m)) :
    (messages (handle env (.message sender message) e).effects = [] ∧
      ∀ batch, ¬ SendsOn e sender m batch) ∨
    ∃ phase decision said, e.getPhase m.phaseId = some phase ∧
      (verdict env e m.phaseId phase decision).message = some said ∧
      messages (handle env (.message sender message) e).effects = [said] ∧
      ∀ batch, SendsOn e sender m batch ↔ phase.batch = some batch := by
  have handled := congrArg Outcome.effects (handle_of_received received e)
  have apply := congrArg Outcome.effects (handleVoteRound2_apply env sender m e)
  have recorded := (touches_updatePhase m.phaseId (·.addRound2Vote sender m.vote) e).at_self
  cases tally : ((e.getPhase m.phaseId).map (·.addRound2Vote sender m.vote)).bind
      (·.hasRound2Majority e.engineState.quorumSize) with
  | none =>
      rw [tally] at apply
      have effects := handled.trans apply
      exact Or.inl ⟨congrArg messages effects, not_sendsOn tally⟩
  | some decision =>
      rw [tally] at apply
      have effects := handled.trans apply
      obtain ⟨after, found, majority⟩ := Option.bind_eq_some_iff.mp tally
      obtain ⟨phase, present, rfl⟩ := Option.map_eq_some_iff.mp found
      rw [present] at recorded
      have sendsOn := sendsOn_iff present majority
      rcases messages_makeDecision env decision recorded with
        ⟨announces, said, sent, single⟩ | ⟨held, silent⟩
      · refine Or.inr ⟨phase, decision, said, present, sent, ?_, fun batch => ?_⟩
        · exact (congrArg messages effects).trans single
        · rw [sendsOn batch]
          refine and_iff_left_of_imp fun stored accepted => ?_
          exact announces_recorded.mp announces accepted batch stored
      · refine Or.inl ⟨(congrArg messages effects).trans silent, fun batch sends => held ?_⟩
        obtain ⟨stored, runs⟩ := (sendsOn batch).mp sends
        refine announces_recorded.mpr fun accepted batch' stored' => ?_
        rw [stored] at stored'
        cases stored'
        exact runs accepted

/-- What `handle_vote_round2` sends is accepted when the batch that it sends on is. -/
theorem accepted_voteRound2 {e : RabiaEngine SM} {env : Env} {sender : NodeId}
    {message : ProtocolMessage} {m : VoteRound2Message}
    (received : Received env sender message (.voteRound2 m)) :
    Accepted e (env, .message sender message) ↔
      ∀ batch, SendsOn e sender m batch → batch.validate env.now = .ok () := by
  have below := (MessageType.validate_voteRound2.mp (payload_of_received received)).1
  rcases messages_voteRound2 (e := e) received with
    ⟨silent, none⟩ | ⟨phase, decision, said, present, sent, single, sendsOn⟩
  · refine iff_of_true (accepted_of_silent rfl silent) fun batch sends => ?_
    exact absurd sends (none batch)
  · rw [accepted_of_single rfl single, delivered_verdict below sent]
    constructor
    · intro valid batch sends
      exact valid batch ((sendsOn batch).mp sends)
    · intro valid batch stored
      exact valid batch ((sendsOn batch).mpr stored)

/-- Handling a decision sends nothing. -/
theorem accepted_decision {e : RabiaEngine SM} {env : Env} {sender : NodeId}
    {message : ProtocolMessage} {m : DecisionMessage}
    (received : Received env sender message (.decision m)) :
    Accepted e (env, .message sender message) := by
  have handled := congrArg Outcome.effects (handle_of_received received e)
  have effects := handled.trans (handleDecision_effects env sender m e)
  cases runs : decisionBatch e m with
  | none =>
      rw [runs] at effects
      exact accepted_of_silent effects rfl
  | some batch =>
      rw [runs] at effects
      exact accepted_of_silent effects rfl

/-- Synchronisation: the phase counter is all that `validate` looks at. -/
theorem accepted_syncRequest {e : RabiaEngine SM} (counting : Counting e) {env : Env}
    {sender : NodeId} {message : ProtocolMessage} {m : SyncRequestMessage}
    (received : Received env sender message (.syncRequest m)) :
    Accepted e (env, .message sender message) := by
  have handled := congrArg Outcome.effects (handle_of_received received e)
  have delivered : ∀ snapshot, Delivered env.now ⟨e.nodeId, some sender, env.now,
      .syncResponse (syncResponseOf e snapshot)⟩ := by
    intro snapshot
    refine delivered_iff.mpr fun delay _ => ?_
    show (validatePhaseId e.engineState.currentPhase >>= fun _ => pure ()) = _
    rw [validatePhaseId_eq_ok.mpr counting.currentPhase]
    rfl
  rcases Nat.lt_or_ge m.requesterPhase e.engineState.currentPhase with ahead | level
  · have effects := handled.trans (handleSyncRequest_of_lt ahead)
    cases made : StateMachine.createSnapshot e.stateMachine with
    | error err =>
        rw [made] at effects
        exact accepted_of_silent effects rfl
    | ok snapshot =>
        rw [made] at effects
        exact (accepted_of_single effects rfl).mpr (delivered _)
  · exact (accepted_of_single (handled.trans (handleSyncRequest_of_le level)) rfl).mpr
      (delivered _)

/-- Every message in these effects is one of `P`. -/
def Sends (P : ProtocolMessage → Prop) (_ : RabiaEngine SM) (w : List Effect)
    (_ : RabiaEngine SM) : Prop :=
  ∀ message ∈ messages w, P message

omit [StateMachine SM] in
theorem sends_path (P : ProtocolMessage → Prop) : Path (@Sends SM P) where
  nil _ := fun message member => nomatch member
  append h h' := by
    intro message member
    unfold messages at member
    rw [List.filterMap_append] at member
    rcases List.mem_append.mp member with member | member
    · exact h message member
    · exact h' message member

theorem accepted_of_sends {e : RabiaEngine SM} {env : Env} {event : Event}
    {p : EngineM SM Unit} (same : handle env event e = p e)
    (sends : Within (Sends (Delivered env.now)) p) : Accepted e (env, event) := by
  rw [accepted_iff_messages, same]
  exact sends e

theorem accepted_triggerSync {e : RabiaEngine SM} (counting : Counting e) {env : Env} :
    Accepted e (env, .command .triggerSync) := by
  have round : Within (Sends (Delivered env.now))
      ((iterate env.iterOrder e.engineState.activeNodes).forM fun nodeId =>
        if nodeId ≠ e.nodeId then
          sendTo env nodeId <| ProtocolMessage.syncRequest e.nodeId nodeId env.now
            { requesterPhase := e.engineState.currentPhase
              requesterStateVersion := e.engineState.stateVersion }
        else pure () : EngineM SM Unit) := by
    refine Within.forM (sends_path _) _ fun nodeId => ?_
    by_cases other : nodeId ≠ e.nodeId
    · rw [if_pos other]
      refine Within.bind (sends_path _) (fun s => ?_) fun _ => Within.ofExcept (sends_path _) _
      intro message member
      cases List.mem_singleton.mp member
      refine delivered_iff.mpr fun delay _ => ?_
      exact MessageType.validate_syncRequest.mpr counting.currentPhase
    · rw [if_neg other]
      exact Within.pure (sends_path _) _
  rw [accepted_iff_messages]
  exact round e

/-- Taking in a response sends nothing. -/
theorem sends_handleSyncResponse (P : ProtocolMessage → Prop) (env : Env) (sender : NodeId)
    (response : SyncResponseMessage) :
    Within (Sends P) (handleSyncResponse env sender response : EngineM SM Unit) := by
  have path : Path (@Sends SM P) := sends_path P
  have written : ∀ f, Within (Sends P) (modifyState f : EngineM SM Unit) :=
    fun f e => path.nil e
  have restored : ∀ snapshot, Within (Sends P) (restoreSnapshot snapshot : EngineM SM Unit) := by
    intro snapshot
    refine Within.bind path (Within.read path _) fun _ => ?_
    exact Within.bind path (fun e => path.nil e) fun _ => Within.ofExcept path _
  have resolved : ∀ responses,
      Within (Sends P) (resolveSync env responses : EngineM SM Unit) := by
    intro responses
    refine Within.bind path ?_ fun _ => written _
    cases latestResponse env responses with
    | none => exact Within.pure path _
    | some latest =>
        refine Within.bind path (Within.read path _) fun currentPhase => ?_
        by_cases ahead : currentPhase < latest.responderPhase
        · rw [if_pos ahead]
          refine Within.bind path (written _) fun _ => ?_
          cases latest.stateSnapshot with
          | none => exact Within.pure path _
          | some snapshot => exact restored snapshot
        · rw [if_neg ahead]
          exact Within.pure path _
  refine Within.bind path (written _) fun _ => ?_
  refine Within.bind path (Within.read path _) fun responses => ?_
  refine Within.bind path (Within.read path _) fun quorumSize => ?_
  by_cases enough : quorumSize ≤ Table.size responses
  · rw [if_pos enough]
    exact resolved responses
  · rw [if_neg enough]
    exact Within.pure path _

/-! ## All events -/

theorem sendable_message {e : RabiaEngine SM} {env : Env} {sender : NodeId}
    {message : ProtocolMessage} {payload : MessageType}
    (received : Received env sender message payload) :
    Sendable e (env, .message sender message) ↔
      ∀ m, payload = .voteRound2 m → ∀ batch, SendsOn e sender m batch →
        batch.validate env.now = .ok () := by
  show (∀ sender' m, arrival env (.message sender message) = some (sender', .voteRound2 m) →
    ∀ batch, SendsOn e sender' m batch → batch.validate env.now = .ok ()) ↔ _
  rw [arrival_of_received received]
  constructor
  · intro sendable m same
    exact sendable sender m (by rw [same])
  · intro sendable sender' m same
    cases same
    exact sendable m rfl

/-- What a message makes the engine send depends on its payload. -/
theorem accepted_message {e : RabiaEngine SM} (counting : Counting e) {env : Env}
    {sender : NodeId} {message : ProtocolMessage} :
    Accepted e (env, .message sender message) ↔ Sendable e (env, .message sender message) := by
  by_cases received : Received env sender message message.messageType
  · generalize message.messageType = payload at received
    rw [sendable_message received]
    have handled := handle_of_received received e
    cases payload with
    | propose m => simp [accepted_propose received]
    | voteRound1 m => simp [accepted_voteRound1 received]
    | voteRound2 m => simp [accepted_voteRound2 received]
    | decision m => simp [accepted_decision received]
    | syncRequest m => simp [accepted_syncRequest counting received]
    | syncResponse m =>
        simp [accepted_of_sends handled (sends_handleSyncResponse _ env sender m)]
    | newBatch m | heartBeat m | quorumNotification m =>
        simp [accepted_of_silent (congrArg Outcome.effects handled) rfl]
  · have effects := (handle_of_not_received received e).2
    refine iff_of_true (accepted_of_silent effects rfl) fun sender' m arrived => ?_
    rw [arrival_of_not_received received] at arrived
    cases arrived

/-- The peers accept what the engine sends for an event exactly when it is `Sendable`. -/
theorem accepted_iff {e : RabiaEngine SM} (counting : Counting e) (input : Env × Event) :
    Accepted e input ↔ Sendable e input := by
  obtain ⟨env, event⟩ := input
  have unsent : (∀ sender m, arrival env event ≠ some (sender, .voteRound2 m)) →
      ∀ sender m, arrival env event = some (sender, .voteRound2 m) →
        ∀ batch, SendsOn e sender m batch → batch.validate env.now = .ok () :=
    fun none sender m arrived => absurd arrived (none sender m)
  cases event with
  | message sender message => exact accepted_message counting
  | command command =>
      cases command with
      | processBatch request => exact accepted_request
      | shutdown | forcePhaseAdvance | getStatistics _ =>
          exact iff_of_true (accepted_of_silent rfl rfl) (unsent nofun)
      | triggerSync => exact iff_of_true (accepted_triggerSync counting) (unsent nofun)
  | heartbeat => exact accepted_heartbeat counting
  | cleanup | networkPartition _ | quorumLost | quorumRestored _ | clusterMembership _
  | createPhase _ => exact iff_of_true (accepted_of_silent rfl rfl) (unsent nofun)

end Steps

end Engine

/-! ## Runs -/

namespace Run

open Engine

variable {SM : Type} [StateMachine SM]

/-- The clock does not go back. -/
def Timely (inputs : List (Env × Event)) : Prop := inputs.Pairwise fun i j => i.1.now ≤ j.1.now

instance (inputs : List (Env × Event)) : Decidable (Timely inputs) :=
  inferInstanceAs (Decidable (inputs.Pairwise _))

/-- The client's batch passes the checks of the peers, if the engine takes it, and the
phase counter is not at the last of the `u64`. -/
def Regular (r : Run SM) (input : Env × Event) : Prop :=
  (∀ request, input.2 = .command (.processBatch request) →
    r.engine.engineState.hasQuorum = true → request.batch.validate input.1.now = .ok ()) ∧
  r.engine.engineState.currentPhase + 1 < u64Size

/-- The batches on record pass at every moment that is still to come. -/
def StoresValid (e : RabiaEngine SM) (inputs : List (Env × Event)) : Prop :=
  ∀ p phase batch, e.getPhase p = some phase → phase.batch = some batch →
    ∀ input ∈ inputs, batch.validate input.1.now = .ok ()

/-- A batch gets on record from a client or in a message, and passes either way. -/
theorem storesValid_handle {e : RabiaEngine SM} {env : Env} {event : Event}
    {inputs : List (Env × Event)}
    (client : ∀ request, event = .command (.processBatch request) →
      e.engineState.hasQuorum = true → request.batch.validate env.now = .ok ())
    (later : ∀ input ∈ inputs, env.now ≤ input.1.now) (stores : StoresValid e inputs) :
    StoresValid (handle env event e).state inputs := by
  intro p phase' batch present stored input member
  have deed := deed_of_handle env event e
  have kept : ∀ {phase : PhaseData}, e.getPhase p = some phase → phase.batch = some batch →
      batch.validate input.1.now = .ok () :=
    fun present stored => stores p _ batch present stored input member
  -- the first batch stays, and a batch that comes in a message passed the checks there
  have joined : ∀ {phase : PhaseData} {carried : Option CommandBatch},
      e.getPhase p = some phase → phase.batch.or carried = some batch →
        (∀ batch, carried = some batch → batch.validate env.now = .ok ()) →
          batch.validate input.1.now = .ok () := by
    intro phase carried present stored valid
    rcases Option.or_eq_some_iff.mp stored with old | ⟨-, new⟩
    · exact kept present old
    · exact CommandBatch.validate_mono (later input member) (valid batch new)
  cases revision_of_deed deed present with
  | kept before => exact kept before stored
  | fresh _ => cases stored
  | proposed _ _ said =>
      cases stored
      cases reason_of_deed deed said rfl with
      | proposal quorum =>
          exact CommandBatch.validate_mono (later input member) (client _ rfl quorum)
  | answered received before _ =>
      have valid := MessageType.validate_propose.mp (payload_of_received received)
      exact joined before stored valid.2
  | counted _ before _ => exact kept before stored
  | cast _ before _ _ => exact kept before stored
  | tallied _ before _ => exact kept before stored
  | decided _ before _ => exact kept before stored
  | learned received before _ =>
      have valid := MessageType.validate_decision.mp (payload_of_received received)
      exact joined before stored valid.2

/-- With valid batches on record and the counters in order, everything is sendable. -/
theorem sendable_of_regular {r : Run SM} {input : Env × Event} (regular : Regular r input)
    (stores : StoresValid r.engine [input])
    (behind : r.engine.engineState.lastCommittedPhase ≤ r.engine.engineState.currentPhase) :
    Sendable r.engine input := by
  obtain ⟨env, event⟩ := input
  have sendsOn : ∀ sender m, arrival env event = some (sender, .voteRound2 m) →
      ∀ batch, SendsOn r.engine sender m batch → batch.validate env.now = .ok () := by
    rintro sender m - batch ⟨phase, present, stored, -⟩
    exact stores m.phaseId phase batch present stored (env, event) List.mem_cons_self
  cases event with
  | heartbeat => exact behind
  | command command =>
      cases command with
      | processBatch request => exact regular.1 request rfl
      | shutdown | forcePhaseAdvance | triggerSync | getStatistics _ => exact sendsOn
  | message _ _ | cleanup | networkPartition _ | quorumLost | quorumRestored _
  | clusterMembership _ | createPhase _ => exact sendsOn

theorem accepted_along {r : Run SM} {inputs : List (Env × Event)} (timely : Timely inputs)
    (stores : StoresValid r.engine inputs)
    (behind : r.engine.engineState.lastCommittedPhase ≤ r.engine.engineState.currentPhase)
    (regular : Along step Regular r inputs) :
    Along step (fun r input => Accepted r.engine input) r inputs := by
  induction inputs generalizing r with
  | nil => trivial
  | cons input inputs ih =>
      obtain ⟨now, rest⟩ := regular
      obtain ⟨later, timely⟩ := List.pairwise_cons.mp timely
      have counting : Counting r.engine :=
        ⟨Nat.lt_of_succ_lt now.2, Nat.lt_of_le_of_lt behind (Nat.lt_of_succ_lt now.2)⟩
      have sendable : Sendable r.engine input := by
        refine sendable_of_regular now (fun p phase batch present stored i hi => ?_) behind
        rw [List.mem_singleton.mp hi]
        exact stores p phase batch present stored input List.mem_cons_self
      refine ⟨(accepted_iff counting input).mpr sendable, ih timely ?_ ?_ rest⟩
      · refine storesValid_handle now.1 later fun p phase batch present stored i hi => ?_
        exact stores p phase batch present stored i (List.mem_cons_of_mem _ hi)
      · exact (Life.sound_handle behind now.2 input.1 input.2).1

/-- What an engine sends for an event passes the checks of its receivers exactly when it
is `Sendable`. So a run that starts without records, with a clock that does not go back
and a phase counter that does not wrap, sends only what passes, as long as every batch
that a client hands in passes too. -/
theorem sent_accepted_iff (e : RabiaEngine SM) (counting : Counting e) :
    (∀ input, Accepted e input ↔ Sendable e input) ∧
      ((∀ p, e.getPhase p = none) →
        e.engineState.lastCommittedPhase ≤ e.engineState.currentPhase →
          ∀ inputs, Timely inputs → Along step Regular (start e) inputs →
            Along step (fun r input => Accepted r.engine input) (start e) inputs) := by
  refine ⟨accepted_iff counting, fun absent behind inputs timely regular => ?_⟩
  refine accepted_along timely (fun p phase batch present => ?_) behind regular
  cases (absent p).symm.trans present

section ThreeNodes

theorem sent_accepted_iff_new :
    (∀ input, Accepted (threeNodes 0) input ↔ Sendable (threeNodes 0) input) ∧
      ((∀ p, (threeNodes 0).getPhase p = none) → 0 ≤ 0 →
        ∀ inputs, Timely inputs → Along step Regular (start (threeNodes 0)) inputs →
          Along step (fun r input => Accepted r.engine input) (start (threeNodes 0)) inputs) :=
  sent_accepted_iff (threeNodes 0) (by decide)

/-- A request without commands. -/
def emptyRequest : CommandRequest := ⟨⟨⟨7⟩, [], 0⟩, 0⟩

/-- The proposal of an empty batch does not pass. -/
theorem empty_batch_refused :
    ¬ Accepted (threeNodes 0) ({}, .command (.processBatch emptyRequest)) := by
  intro accepted
  have valid := accepted_request.mp accepted rfl
  exact (CommandBatch.validate_eq_ok.mp valid).2.1 rfl

end ThreeNodes

end Run

end Rabia
