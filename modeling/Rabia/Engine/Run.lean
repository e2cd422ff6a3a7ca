import Rabia.Core.LogView
import Rabia.Engine.Handlers
import Rabia.Lib.Runs

/-!
# Runs of one engine

The inputs of the run loop (`RabiaEngine::run`) and of the network event
handlers, and what a sequence of them does to an engine.
-/

namespace Rabia

open Rabia.Lib

/-- What can happen to an engine. -/
inductive Event where
  /-- A message arrived from `sender`. -/
  | message (sender : NodeId) (message : ProtocolMessage)
  | command (command : EngineCommand)
  /-- The cleanup interval ticked. -/
  | cleanup
  /-- The heartbeat interval ticked. -/
  | heartbeat
  | networkPartition (activeNodes : Finset NodeId)
  | quorumLost
  | quorumRestored (activeNodes : Finset NodeId)
  | clusterMembership (nodes : Finset NodeId)
  /-- `EngineState::get_or_create_phase` was called. No code of the engine calls
  it: a run without this event is a run of the engine as it stands. -/
  | createPhase (phaseId : PhaseId)
deriving DecidableEq

namespace Engine

open Proc

variable {SM : Type} [StateMachine SM]

/-- The code an event runs. -/
def handle (env : Env) : Event → EngineM SM Unit
  | .message sender message => handleMessage env sender message
  | .command command => handleCommand env command
  | .cleanup => cleanupOldState env
  | .heartbeat => sendHeartbeat env
  | .networkPartition activeNodes => modifyState (EngineState.updateActiveNodes activeNodes)
  | .quorumLost => modifyState (EngineState.setActive false)
  | .quorumRestored activeNodes => do
    modifyState (EngineState.updateActiveNodes activeNodes)
    modifyState (EngineState.setActive true)
  | .clusterMembership nodes => do
    let _newLeader ← updateClusterMembership nodes
    pure ()
  | .createPhase phaseId => modifyState (EngineState.getOrCreatePhase phaseId env.now)

/-- The message passed the checks of `handle_message` with payload `payload`. -/
structure Received (env : Env) (sender : NodeId) (message : ProtocolMessage)
    (payload : MessageType) : Prop where
  valid : message.validate env.now = .ok ()
  source : message.sender = sender
  payload : message.messageType = payload

/-- The sender and the payload of a message that passes the checks. -/
def arrival (env : Env) : Event → Option (NodeId × MessageType)
  | .message sender message =>
    match message.validate env.now with
    | .ok () => if message.sender = sender then some (sender, message.messageType) else none
    | .error _ => none
  | _ => none

section Checks

variable {env : Env} {sender : NodeId} {message : ProtocolMessage}

-- Stated of an event that is a message, not at one: there the kernel would evaluate
-- `validate` to compare the two sides.

theorem handle_of_message {event : Event} (arrived : event = .message sender message) :
    (handle env event : EngineM SM Unit) = handleMessage env sender message := by
  unfold handle
  split
  · cases arrived
    rfl
  all_goals cases arrived

omit [StateMachine SM] in
theorem arrival_of_message {event : Event} (arrived : event = .message sender message) :
    arrival env event =
      match message.validate env.now with
      | .ok () => if message.sender = sender then some (sender, message.messageType) else none
      | .error _ => none := by
  unfold arrival
  split
  · cases arrived
    rfl
  · next other => exact absurd arrived (other sender message)

/-- A message that passes the checks is dispatched. -/
theorem handle_of_received {payload : MessageType}
    (received : Received env sender message payload) (e : RabiaEngine SM) :
    handle env (.message sender message) e = dispatch env sender payload e := by
  rw [handle_of_message rfl, handleMessage, received.valid, received.payload]
  dsimp only
  rw [if_pos received.source]

/-- A message that does not pass changes nothing and has no effect. -/
theorem handle_of_not_received
    (rejected : ¬ Received env sender message message.messageType) (e : RabiaEngine SM) :
    (handle env (.message sender message) e).state = e ∧
      (handle env (.message sender message) e).effects = [] := by
  rw [handle_of_message rfl, handleMessage]
  cases valid : message.validate env.now with
  | error err => exact ⟨rfl, rfl⟩
  | ok _ =>
      dsimp only
      rw [if_neg fun source => rejected ⟨valid, source, rfl⟩]
      exact ⟨rfl, rfl⟩

omit [StateMachine SM] in
theorem arrival_of_received {payload : MessageType}
    (received : Received env sender message payload) :
    arrival env (.message sender message) = some (sender, payload) := by
  rw [arrival_of_message rfl, received.valid, received.payload]
  exact if_pos received.source

omit [StateMachine SM] in
theorem arrival_of_not_received
    (rejected : ¬ Received env sender message message.messageType) :
    arrival env (.message sender message) = none := by
  rw [arrival_of_message rfl]
  cases valid : message.validate env.now with
  | error err => rfl
  | ok _ => exact if_neg fun source => rejected ⟨valid, source, rfl⟩

omit [StateMachine SM] in
/-- What arrives is a message that passes the checks. -/
theorem received_of_arrival {event : Event} {payload : MessageType}
    (arrived : arrival env event = some (sender, payload)) :
    ∃ message, event = .message sender message ∧ Received env sender message payload := by
  cases event with
  | message source message =>
      by_cases received : Received env source message message.messageType
      · rw [arrival_of_received received] at arrived
        cases arrived
        exact ⟨message, rfl, received⟩
      · rw [arrival_of_not_received received] at arrived
        cases arrived
  | command _ | cleanup | heartbeat | networkPartition _ | quorumLost | quorumRestored _
  | clusterMembership _ | createPhase _ => cases arrived

end Checks

end Engine

/-- An engine with everything it did so far. -/
structure Run (SM : Type) where
  engine : RabiaEngine SM
  trace : List Effect

namespace Run

variable {SM : Type} [StateMachine SM]

/-- The run loop logs a handler's error and goes on with the state it left. -/
def step (r : Run SM) (input : Env × Event) : Run SM :=
  let o := Engine.handle input.1 input.2 r.engine
  ⟨o.state, r.trace ++ o.effects⟩

theorem step_engine (r : Run SM) (input : Env × Event) :
    (r.step input).engine = (Engine.handle input.1 input.2 r.engine).state := rfl

/-- An engine that has not done anything yet. -/
def start (e : RabiaEngine SM) : Run SM := ⟨e, []⟩

end Run

/-! ## Three nodes

The concrete runs of the development take place at these. -/

/-- A new engine in a cluster of the nodes 0, 1 and 2. -/
def threeNodes (node : Nat) : RabiaEngine ByteLog :=
  RabiaEngine.new ⟨node⟩ ⟨10⟩ (ClusterConfig.new ⟨node⟩ {⟨0⟩, ⟨1⟩, ⟨2⟩}) ⟨[]⟩ none

/-- A batch that writes the byte `b`. -/
def writing (b : UInt8) : CommandBatch := ⟨⟨b.toNat⟩, [⟨b.toNat, [b]⟩], 0⟩

/-- The decision to accept, in phase `p`, a batch that writes the byte `b`. -/
def accepting (p : PhaseId) (b : UInt8) : DecisionMessage :=
  ⟨p, (writing b).id, .v1, some (writing b)⟩

/-- A vote of a node for V1 in round 2 of phase 1. -/
def roundTwoVote (node : NodeId) : Env × Event :=
  ({}, .message node <| ProtocolMessage.voteRound2 node node 0
    { phaseId := 1, batchId := ⟨7⟩, vote := .v1, voterId := node,
      round1Votes := Finmap.singleton node .v1 })

/-- A vote of a node for V1 in round 1 of phase 1. -/
def roundOneVote (node : NodeId) : Env × Event :=
  ({}, .message node <| ProtocolMessage.voteRound1 node ⟨0⟩ 0
    { phaseId := 1, batchId := ⟨7⟩, vote := .v1, voterId := node })

/-- A decision of node 1 to accept a batch in phase `p`. -/
def deciding (p : PhaseId) : Env × Event :=
  ({}, .message ⟨1⟩ (ProtocolMessage.decision ⟨1⟩ 0 (accepting p 65)))

/-- A client submits a batch. -/
def submission : Env × Event := ({}, .command (.processBatch ⟨writing 66, 0⟩))

/-- Node 0 proposes a batch for phase 1, of which it has a record. -/
def proposing : List (Env × Event) :=
  [({}, .createPhase 1), ({}, .command (.processBatch ⟨writing 65, 0⟩))]

end Rabia
