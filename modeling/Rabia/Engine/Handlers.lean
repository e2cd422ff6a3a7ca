import Rabia.Core.Validation
import Rabia.Engine.Leader
import Rabia.Engine.State
import Rabia.Lib.Proc

/-!
# The engine's handlers

`rabia-engine/src/engine.rs`, in its order. A handler is a `Proc` on the engine:
its writes and effects stay when it leaves with an error, as they do when the
run loop logs the error and goes on.

What a handler cannot compute comes from outside as an `Env`: the outcome of a
random draw, a fresh uuid, the clock, iteration orders, and the results of the
transport and of the persistence layer. No handler draws twice in one call.
-/

namespace Rabia

open Rabia.Lib

/-! ## The engine and its surroundings -/

/-- `RabiaConfig`, as far as the handlers read it. -/
structure RabiaConfig where
  maxPhaseHistory : Nat

/-- `ClusterConfig`. -/
structure ClusterConfig where
  nodeId : NodeId
  allNodes : Finset NodeId
  quorumSize : Nat

/-- `ClusterConfig::new`. -/
def ClusterConfig.new (nodeId : NodeId) (allNodes : Finset NodeId) : ClusterConfig where
  nodeId := nodeId
  allNodes := allNodes
  quorumSize := allNodes.card / 2 + 1

/-- The persisted state of `rabia-core/src/persistence.rs`. Its byte encoding is
not modelled: the persistence layer holds the value. -/
structure PersistedState where
  currentPhase : PhaseId
  lastCommittedPhase : PhaseId
  snapshot : Option Snapshot

/-- `RabiaEngine`. The network is the effect trace, the generator is in `Env`. -/
structure RabiaEngine (SM : Type) where
  nodeId : NodeId
  config : RabiaConfig
  clusterConfig : ClusterConfig
  stateMachine : SM
  persistence : Option PersistedState
  engineState : EngineState
  leaderSelector : LeaderSelector

/-- What the surroundings supply during one call. -/
structure Env where
  /-- The outcome of `rng.gen_bool`. Each probability in the source lies strictly
  between 0 and 1, so both outcomes can come up. -/
  draw : Bool := true
  /-- The uuid a `BatchId::default` takes. -/
  uuid : Nat := 0
  /-- The clock, in milliseconds since the Unix epoch. -/
  now : Nat := 0
  /-- The order in which hash sets and maps are walked. -/
  iterOrder : List NodeId := []
  /-- The transport's answer to a `send_to`, or to a `broadcast` at `none`. -/
  send : Option NodeId → Except RabiaError Unit := fun _ => .ok ()
  /-- The persistence layer's answer to `save_state`. -/
  save : Except RabiaError Unit := .ok ()
  /-- The persistence layer's answer to `load_state`. -/
  load : Except RabiaError Unit := .ok ()
  /-- The transport's answer to `get_connected_nodes`. -/
  connectedNodes : Except RabiaError (Finset NodeId) := .ok ∅

/-- `CommandRequest`; `responseTx` names the sender half of the response channel. -/
structure CommandRequest where
  batch : CommandBatch
  responseTx : Nat
deriving DecidableEq

inductive EngineCommand where
  | processBatch (request : CommandRequest)
  | shutdown
  | forcePhaseAdvance
  | triggerSync
  | getStatistics (responseTx : Nat)
deriving DecidableEq

/-- What an engine does that others can see, or that its log tells. -/
inductive Effect where
  /-- `NetworkTransport::send_to`. -/
  | sendTo (target : NodeId) (message : ProtocolMessage)
  /-- `NetworkTransport::broadcast`, which leaves the engine itself out. -/
  | broadcast (message : ProtocolMessage)
  /-- `make_decision` ran. -/
  | decide (phaseId : PhaseId) (decision : StateValue)
  /-- `apply_batch` was called with the batch of a phase. -/
  | applyBatch (phaseId : PhaseId) (batch : CommandBatch)
  /-- A result went to a client. -/
  | respond (responseTx : Nat) (result : Except RabiaError (List Bytes))
  /-- Statistics went to a client. -/
  | statistics (responseTx : Nat) (statistics : EngineStatistics)

abbrev EngineM (SM : Type) := Proc RabiaError (RabiaEngine SM) Effect

/-! ## Message constructors -/

namespace ProtocolMessage

def propose (sender : NodeId) (now : Nat) (proposal : ProposeMessage) : ProtocolMessage :=
  ⟨sender, none, now, .propose proposal⟩

def voteRound1 (sender recipient : NodeId) (now : Nat) (vote : VoteRound1Message) :
    ProtocolMessage :=
  ⟨sender, some recipient, now, .voteRound1 vote⟩

def voteRound2 (sender recipient : NodeId) (now : Nat) (vote : VoteRound2Message) :
    ProtocolMessage :=
  ⟨sender, some recipient, now, .voteRound2 vote⟩

def decision (sender : NodeId) (now : Nat) (decision : DecisionMessage) : ProtocolMessage :=
  ⟨sender, none, now, .decision decision⟩

def syncRequest (sender recipient : NodeId) (now : Nat) (request : SyncRequestMessage) :
    ProtocolMessage :=
  ⟨sender, some recipient, now, .syncRequest request⟩

def syncResponse (sender recipient : NodeId) (now : Nat) (response : SyncResponseMessage) :
    ProtocolMessage :=
  ⟨sender, some recipient, now, .syncResponse response⟩

def heartBeat (sender : NodeId) (now : Nat) (heartbeat : HeartBeatMessage) : ProtocolMessage :=
  ⟨sender, none, now, .heartBeat heartbeat⟩

end ProtocolMessage

namespace RabiaEngine

variable {SM : Type}

/-- `RabiaEngine::new`. -/
def new (nodeId : NodeId) (config : RabiaConfig) (clusterConfig : ClusterConfig)
    (stateMachine : SM) (persistence : Option PersistedState) : RabiaEngine SM where
  nodeId := nodeId
  config := config
  clusterConfig := clusterConfig
  stateMachine := stateMachine
  persistence := persistence
  engineState := EngineState.new clusterConfig.quorumSize
  leaderSelector := LeaderSelector.withCluster clusterConfig.allNodes

/-- The engine with `f` applied to its `engine_state`. -/
def mapState (f : EngineState → EngineState) (e : RabiaEngine SM) : RabiaEngine SM :=
  { e with engineState := f e.engineState }

theorem mapState_of_eq {f : EngineState → EngineState} {e : RabiaEngine SM}
    (h : f e.engineState = e.engineState) : e.mapState f = e := by
  unfold mapState
  rw [h]

/-- `get_phase` on the engine's state. -/
def getPhase (p : PhaseId) (e : RabiaEngine SM) : Option PhaseData := e.engineState.getPhase p

end RabiaEngine

namespace Engine

open Proc

variable {SM : Type}

/-! ## Access to the parts of the engine -/

def readState {α : Type} (f : EngineState → α) : EngineM SM α :=
  read fun e => f e.engineState

def modifyState (f : EngineState → EngineState) : EngineM SM Unit :=
  modify (RabiaEngine.mapState f)

/-- `advance_phase` on the engine's state. -/
def advancePhase : EngineM SM PhaseId := do
  let phaseId ← readState (·.advancePhase.1)
  modifyState (·.advancePhase.2)
  pure phaseId

/-- `commit_phase` on the engine's state. -/
def commitPhase (phaseId : PhaseId) : EngineM SM Bool := do
  let result ← readState fun st => (st.commitPhase phaseId).1
  modifyState fun st => (st.commitPhase phaseId).2
  ofExcept result

/-- `update_phase` on the engine's state. -/
def updatePhase (phaseId : PhaseId) (updateFn : PhaseData → PhaseData) : EngineM SM Unit :=
  modifyState (EngineState.updatePhase phaseId updateFn)

/-- `get_phase` on the engine's state. -/
def getPhase (phaseId : PhaseId) : EngineM SM (Option PhaseData) :=
  readState (EngineState.getPhase phaseId)

def sendTo (env : Env) (target : NodeId) (message : ProtocolMessage) : EngineM SM Unit := do
  emit (.sendTo target message)
  ofExcept (env.send (some target))

def broadcast (env : Env) (message : ProtocolMessage) : EngineM SM Unit := do
  emit (.broadcast message)
  ofExcept (env.send none)

section StateMachineCalls

variable [StateMachine SM]

def applyCommands (commands : List Command) : EngineM SM (List Bytes) := do
  let result ← read fun e => (StateMachine.applyCommands e.stateMachine commands).1
  modify fun e =>
    { e with stateMachine := (StateMachine.applyCommands e.stateMachine commands).2 }
  ofExcept result

def createSnapshot : EngineM SM Snapshot := do
  let result ← read fun e => StateMachine.createSnapshot e.stateMachine
  ofExcept result

def restoreSnapshot (snapshot : Snapshot) : EngineM SM Unit := do
  let result ← read fun e => (StateMachine.restoreSnapshot e.stateMachine snapshot).1
  modify fun e =>
    { e with stateMachine := (StateMachine.restoreSnapshot e.stateMachine snapshot).2 }
  ofExcept result

end StateMachineCalls

/-! ## Membership and persistence -/

/-- `update_cluster_membership`. -/
def updateClusterMembership (nodes : Finset NodeId) : EngineM SM (Option NodeId) := do
  let newLeader ← read fun e => (e.leaderSelector.updateClusterView nodes).1
  modify fun e => { e with leaderSelector := (e.leaderSelector.updateClusterView nodes).2 }
  modifyState (EngineState.updateActiveNodes nodes)
  pure newLeader

/-- `save_state`. -/
def saveState [StateMachine SM] (env : Env) : EngineM SM Unit := do
  let currentPhase ← readState (·.currentPhase)
  let lastCommittedPhase ← readState (·.lastCommittedPhase)
  let snapshot ← createSnapshot
  ofExcept env.save
  modify fun e =>
    { e with persistence := some ⟨currentPhase, lastCommittedPhase, some snapshot⟩ }

/-- The first half of `initialize`: take over what `save_state` last wrote. -/
def restorePersisted [StateMachine SM] (persisted : PersistedState) : EngineM SM Unit := do
  modifyState fun st => { st with
    currentPhase := persisted.currentPhase
    lastCommittedPhase := persisted.lastCommittedPhase }
  match persisted.snapshot with
  | some snapshot => restoreSnapshot snapshot
  | none => pure ()

/-- `initialize`. -/
def initializeEngine [StateMachine SM] (env : Env) : EngineM SM Unit := do
  ofExcept env.load
  let persistedData ← read (·.persistence)
  (match persistedData with
    | some persisted => restorePersisted persisted
    | none => pure ())
  let connectedNodes ← ofExcept env.connectedNodes
  modifyState (EngineState.updateActiveNodes connectedNodes)

/-! ## Proposing -/

/-- What `propose_batch` writes into the record of its phase. -/
def ownProposal (batchId : BatchId) (batch : CommandBatch) (phase : PhaseData) : PhaseData :=
  { phase with
    batchId := some batchId
    proposedValue := some .v1
    batch := some batch }

section OwnProposal

variable (batchId : BatchId) (batch : CommandBatch) (phase : PhaseData)

@[simp] theorem ownProposal_round1Votes :
    (ownProposal batchId batch phase).round1Votes = phase.round1Votes := rfl

@[simp] theorem ownProposal_round2Votes :
    (ownProposal batchId batch phase).round2Votes = phase.round2Votes := rfl

@[simp] theorem ownProposal_batch :
    (ownProposal batchId batch phase).batch = some batch := rfl

@[simp] theorem ownProposal_proposedValue :
    (ownProposal batchId batch phase).proposedValue = some .v1 := rfl

end OwnProposal

/-- `propose_batch`. -/
def proposeBatch (env : Env) (batchId : BatchId) (batch : CommandBatch) : EngineM SM Unit := do
  let phaseId ← advancePhase
  updatePhase phaseId (ownProposal batchId batch)
  let nodeId ← read (·.nodeId)
  broadcast env <| ProtocolMessage.propose nodeId env.now
    { phaseId, batchId, value := .v1, batch := some batch }

/-- `process_batch_request`. -/
def processBatchRequest (env : Env) (request : CommandRequest) : EngineM SM Unit := do
  if ← readState (·.hasQuorum) then
    let nodeId ← read (·.nodeId)
    modifyState (EngineState.addPendingBatch request.batch nodeId env.now)
    proposeBatch env request.batch.id request.batch
  else
    let current ← readState (·.activeNodes.card)
    let required ← readState (·.quorumSize)
    emit (.respond request.responseTx (.error (.quorumNotAvailable current required)))

/-! ## Round 1 -/

/-- `randomized_vote`. -/
def randomizedVote (draw : Bool) : StateValue → StateValue
  | .v0 => if draw then .v0 else .vQuestion
  | .v1 => if draw then .v1 else .vQuestion
  | .vQuestion => .vQuestion

/-- `determine_round1_vote`, on the record of the proposal's phase. -/
def determineRound1Vote (draw : Bool) (phase : Option PhaseData) (propose : ProposeMessage) :
    StateValue :=
  match phase with
  | some existingPhase =>
    match existingPhase.proposedValue with
    | some existingValue =>
      if existingValue = propose.value then propose.value else .vQuestion
    | none => randomizedVote draw propose.value
  | none => randomizedVote draw propose.value

/-- What `handle_propose` writes into the record: the newest batch id, but the
first value and the first batch. -/
def receivedProposal (propose : ProposeMessage) (phase : PhaseData) : PhaseData :=
  { phase with
    batchId := some propose.batchId
    proposedValue := phase.proposedValue.or (some propose.value)
    batch := phase.batch.or propose.batch }

section ReceivedProposal

variable (propose : ProposeMessage) (phase : PhaseData)

@[simp] theorem receivedProposal_round1Votes :
    (receivedProposal propose phase).round1Votes = phase.round1Votes := rfl

@[simp] theorem receivedProposal_round2Votes :
    (receivedProposal propose phase).round2Votes = phase.round2Votes := rfl

@[simp] theorem receivedProposal_batch :
    (receivedProposal propose phase).batch = phase.batch.or propose.batch := rfl

@[simp] theorem receivedProposal_proposedValue :
    (receivedProposal propose phase).proposedValue =
      phase.proposedValue.or (some propose.value) := rfl

end ReceivedProposal

/-- `handle_propose`. -/
def handlePropose (env : Env) (sender : NodeId) (propose : ProposeMessage) :
    EngineM SM Unit := do
  if ← readState (·.hasQuorum) then
    (match propose.batch with
      | some batch => modifyState (EngineState.addPendingBatch batch sender env.now)
      | none => pure ())
    let vote := determineRound1Vote env.draw (← getPhase propose.phaseId) propose
    updatePhase propose.phaseId (receivedProposal propose)
    let nodeId ← read (·.nodeId)
    sendTo env sender <| ProtocolMessage.voteRound1 nodeId sender env.now
      { phaseId := propose.phaseId, batchId := propose.batchId, vote, voterId := nodeId }
  else pure ()

/-! ## Round 2 -/

/-- `determine_round2_vote_for_question`: the draw decides for or against the
value that leads the tally, V1 when none does. -/
def determineRound2VoteForQuestion (draw : Bool) (round1Votes : Table NodeId StateValue) :
    StateValue :=
  let v0Count := Table.count round1Votes .v0
  let v1Count := Table.count round1Votes .v1
  if v0Count < v1Count then (if draw then .v1 else .v0)
  else if v1Count < v0Count then (if draw then .v0 else .v1)
  else (if draw then .v1 else .v0)

/-- The `match` at the head of `proceed_to_round2`. -/
def round2VoteFor (draw : Bool) (round1Votes : Table NodeId StateValue) :
    StateValue → StateValue
  | .v0 => .v0
  | .v1 => .v1
  | .vQuestion => determineRound2VoteForQuestion draw round1Votes

/-- `proceed_to_round2`. -/
def proceedToRound2 (env : Env) (phaseId : PhaseId) (round1Result : StateValue)
    (round1Votes : Table NodeId StateValue) : EngineM SM Unit := do
  let round2Vote := round2VoteFor env.draw round1Votes round1Result
  let nodeId ← read (·.nodeId)
  updatePhase phaseId (·.addRound2Vote nodeId round2Vote)
  let batchId := ((← getPhase phaseId).bind (·.batchId)).getD ⟨env.uuid⟩
  broadcast env <| ProtocolMessage.voteRound2 nodeId nodeId env.now
    { phaseId, batchId, vote := round2Vote, voterId := nodeId, round1Votes }

/-- `handle_vote_round1`. -/
def handleVoteRound1 (env : Env) (sender : NodeId) (vote : VoteRound1Message) :
    EngineM SM Unit := do
  updatePhase vote.phaseId (·.addRound1Vote sender vote.vote)
  let quorumSize ← readState (·.quorumSize)
  match ← getPhase vote.phaseId with
  | some phase =>
    match phase.hasRound1Majority quorumSize with
    | some majorityVote => proceedToRound2 env vote.phaseId majorityVote phase.round1Votes
    | none =>
      if quorumSize ≤ Table.size phase.round1Votes then
        proceedToRound2 env vote.phaseId .vQuestion phase.round1Votes
      else pure ()
  | none => pure ()

/-! ## Deciding and applying -/

section Deciding

variable [StateMachine SM]

/-- `apply_batch`. The phase only labels the effect. -/
def applyBatch (phaseId : PhaseId) (batch : CommandBatch) : EngineM SM Unit := do
  emit (.applyBatch phaseId batch)
  let _results ← applyCommands batch.commands
  modifyState (EngineState.removePendingBatch batch.id)

/-- Apply a batch and commit its phase: the block `make_decision` and
`handle_decision` share. A failing `save_state` is only logged. -/
def applyAndCommit (env : Env) (phaseId : PhaseId) (batch : CommandBatch) :
    EngineM SM Unit := do
  applyBatch phaseId batch
  let _committed ← commitPhase phaseId
  let _saved ← attempt (saveState env)
  pure ()

/-- `make_decision`. -/
def makeDecision (env : Env) (phaseId : PhaseId) (decision : StateValue) :
    EngineM SM Unit := do
  emit (.decide phaseId decision)
  updatePhase phaseId (·.setDecision decision)
  (if decision = .v1 then do
    match (← getPhase phaseId).bind (·.batch) with
    | some batch => applyAndCommit env phaseId batch
    | none => pure ()
  else pure ())
  match ← getPhase phaseId with
  | some phase =>
    let nodeId ← read (·.nodeId)
    broadcast env <| ProtocolMessage.decision nodeId env.now
      { phaseId, batchId := phase.batchId.getD ⟨env.uuid⟩, decision, batch := phase.batch }
  | none => throw (.internal s!"Phase {phaseId} not found for decision broadcast")

/-- `handle_vote_round2`. -/
def handleVoteRound2 (env : Env) (sender : NodeId) (vote : VoteRound2Message) :
    EngineM SM Unit := do
  updatePhase vote.phaseId (·.addRound2Vote sender vote.vote)
  let quorumSize ← readState (·.quorumSize)
  match (← getPhase vote.phaseId).bind (·.hasRound2Majority quorumSize) with
  | some decision => makeDecision env vote.phaseId decision
  | none => pure ()

/-- What `handle_decision` writes into the record. -/
def receivedDecision (decision : DecisionMessage) (phase : PhaseData) : PhaseData :=
  { phase.setDecision decision.decision with batch := phase.batch.or decision.batch }

section ReceivedDecision

variable (decision : DecisionMessage) (phase : PhaseData)

@[simp] theorem receivedDecision_round1Votes :
    (receivedDecision decision phase).round1Votes = phase.round1Votes := rfl

@[simp] theorem receivedDecision_round2Votes :
    (receivedDecision decision phase).round2Votes = phase.round2Votes := rfl

@[simp] theorem receivedDecision_batch :
    (receivedDecision decision phase).batch = phase.batch.or decision.batch := rfl

@[simp] theorem receivedDecision_proposedValue :
    (receivedDecision decision phase).proposedValue = phase.proposedValue := rfl

end ReceivedDecision

/-- `handle_decision`. -/
def handleDecision (env : Env) (_sender : NodeId) (decision : DecisionMessage) :
    EngineM SM Unit := do
  updatePhase decision.phaseId (receivedDecision decision)
  if decision.decision = .v1 then
    match decision.batch with
    | some batch =>
      let lastCommitted ← readState (·.lastCommittedPhase)
      if lastCommitted < decision.phaseId then
        applyAndCommit env decision.phaseId batch
      else pure ()
    | none => pure ()
  else pure ()

end Deciding

/-! ## Synchronisation -/

section Syncing

variable [StateMachine SM]

/-- The snapshot a responder adds when it is ahead of the requester. -/
def snapshotIfAhead (requesterPhase currentPhase : PhaseId) : EngineM SM (Option Snapshot) :=
  if requesterPhase < currentPhase then do
    let snapshot ← createSnapshot
    pure (some snapshot)
  else pure none

/-- `handle_sync_request`. -/
def handleSyncRequest (env : Env) (sender : NodeId) (request : SyncRequestMessage) :
    EngineM SM Unit := do
  let currentPhase ← readState (·.currentPhase)
  let stateVersion ← readState (·.stateVersion)
  let snapshot ← snapshotIfAhead request.requesterPhase currentPhase
  let nodeId ← read (·.nodeId)
  sendTo env sender <| ProtocolMessage.syncResponse nodeId sender env.now
    { responderPhase := currentPhase
      responderStateVersion := stateVersion
      stateSnapshot := snapshot
      pendingBatches := []
      committedPhases := [] }

/-- The responses of a sync round in iteration order. -/
def syncResponseValues (env : Env) (responses : Table NodeId SyncResponseMessage) :
    List SyncResponseMessage :=
  (iterate env.iterOrder responses.keys).filterMap responses.lookup

/-- The response `resolve_sync` picks. -/
def latestResponse (env : Env) (responses : Table NodeId SyncResponseMessage) :
    Option SyncResponseMessage :=
  maxByKey (·.responderPhase) (syncResponseValues env responses)

/-- `resolve_sync`. -/
def resolveSync (env : Env) (responses : Table NodeId SyncResponseMessage) :
    EngineM SM Unit := do
  (match latestResponse env responses with
    | some latest => do
      let currentPhase ← readState (·.currentPhase)
      if currentPhase < latest.responderPhase then
        modifyState (EngineState.syncPhase latest.responderPhase)
        match latest.stateSnapshot with
        | some snapshot => restoreSnapshot snapshot
        | none => pure ()
      else pure ()
    | none => pure ())
  modifyState EngineState.clearSyncResponses

/-- `handle_sync_response`. -/
def handleSyncResponse (env : Env) (sender : NodeId) (response : SyncResponseMessage) :
    EngineM SM Unit := do
  modifyState (EngineState.addSyncResponse sender response)
  let syncResponses ← readState (·.syncResponses)
  let quorumSize ← readState (·.quorumSize)
  if quorumSize ≤ Table.size syncResponses then
    resolveSync env syncResponses
  else pure ()

end Syncing

/-- `initiate_sync`. -/
def initiateSync (env : Env) : EngineM SM Unit := do
  let requesterPhase ← readState (·.currentPhase)
  let requesterStateVersion ← readState (·.stateVersion)
  let self ← read (·.nodeId)
  let activeNodes ← readState (·.activeNodes)
  (iterate env.iterOrder activeNodes).forM fun nodeId =>
    if nodeId ≠ self then
      sendTo env nodeId <| ProtocolMessage.syncRequest self nodeId env.now
        { requesterPhase, requesterStateVersion }
    else pure ()

/-! ## The remaining handlers -/

/-- `handle_new_batch`. -/
def handleNewBatch (env : Env) (_sender : NodeId) (newBatch : NewBatchMessage) :
    EngineM SM Unit :=
  modifyState (EngineState.addPendingBatch newBatch.batch newBatch.originator env.now)

/-- `handle_heartbeat` reads nothing and writes nothing. -/
def handleHeartbeat (_sender : NodeId) (_heartbeat : HeartBeatMessage) : EngineM SM Unit :=
  pure ()

/-- `send_heartbeat`. -/
def sendHeartbeat (env : Env) : EngineM SM Unit := do
  let currentPhase ← readState (·.currentPhase)
  let lastCommittedPhase ← readState (·.lastCommittedPhase)
  let active ← readState (·.isActive)
  let nodeId ← read (·.nodeId)
  broadcast env <| ProtocolMessage.heartBeat nodeId env.now
    { currentPhase, lastCommittedPhase, active }

/-- `advance_to_next_phase`. -/
def advanceToNextPhase : EngineM SM Unit := do
  let _newPhase ← advancePhase
  pure ()

/-- `cleanup_old_state`: old phases, and pending batches older than five minutes. -/
def cleanupOldState (env : Env) : EngineM SM Unit := do
  let maxPhaseHistory ← read (·.config.maxPhaseHistory)
  modifyState (EngineState.cleanupOldPhases maxPhaseHistory env.now)
  modifyState (EngineState.cleanupOldPendingBatches 300 env.now)

/-! ## Dispatch -/

section Dispatch

variable [StateMachine SM]

/-- The `match` of `handle_message`. -/
def dispatch (env : Env) (sender : NodeId) : MessageType → EngineM SM Unit
  | .propose msg => handlePropose env sender msg
  | .voteRound1 msg => handleVoteRound1 env sender msg
  | .voteRound2 msg => handleVoteRound2 env sender msg
  | .decision msg => handleDecision env sender msg
  | .syncRequest msg => handleSyncRequest env sender msg
  | .syncResponse msg => handleSyncResponse env sender msg
  | .newBatch msg => handleNewBatch env sender msg
  | .heartBeat msg => handleHeartbeat sender msg
  | .quorumNotification _ => pure ()

/-- `handle_message`. -/
def handleMessage (env : Env) (sender : NodeId) (message : ProtocolMessage) :
    EngineM SM Unit :=
  match message.validate env.now with
  | .error err => throw err
  | .ok () =>
    if message.sender = sender then dispatch env sender message.messageType
    else throw (.network "Message source mismatch")

/-- `handle_command`. -/
def handleCommand (env : Env) : EngineCommand → EngineM SM Unit
  | .processBatch request => processBatchRequest env request
  | .shutdown => throw (.internal "Shutdown requested")
  | .forcePhaseAdvance => advanceToNextPhase
  | .triggerSync => initiateSync env
  | .getStatistics responseTx => do
    let stats ← readState (·.getStatistics)
    emit (.statistics responseTx stats)

end Dispatch

end Engine

end Rabia
