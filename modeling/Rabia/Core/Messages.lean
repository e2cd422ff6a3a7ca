import Rabia.Core.StateMachine
import Rabia.Lib.Table

/-!
# Messages and phase records

`rabia-core/src/messages.rs`: what the engines send one another, and the record
an engine keeps of a phase.
-/

namespace Rabia

open Rabia.Lib

/-! ## Messages -/

structure ProposeMessage where
  phaseId : PhaseId
  batchId : BatchId
  value : StateValue
  batch : Option CommandBatch
deriving DecidableEq

structure VoteRound1Message where
  phaseId : PhaseId
  batchId : BatchId
  vote : StateValue
  voterId : NodeId
deriving DecidableEq

structure VoteRound2Message where
  phaseId : PhaseId
  batchId : BatchId
  vote : StateValue
  voterId : NodeId
  round1Votes : Table NodeId StateValue
deriving DecidableEq

structure DecisionMessage where
  phaseId : PhaseId
  batchId : BatchId
  decision : StateValue
  batch : Option CommandBatch
deriving DecidableEq

structure SyncRequestMessage where
  requesterPhase : PhaseId
  requesterStateVersion : Nat
deriving DecidableEq

structure SyncResponseMessage where
  responderPhase : PhaseId
  responderStateVersion : Nat
  stateSnapshot : Option Snapshot
  pendingBatches : List (BatchId × CommandBatch)
  committedPhases : List (PhaseId × BatchId × StateValue)
deriving DecidableEq

structure NewBatchMessage where
  batch : CommandBatch
  originator : NodeId
deriving DecidableEq

structure HeartBeatMessage where
  currentPhase : PhaseId
  lastCommittedPhase : PhaseId
  active : Bool
deriving DecidableEq

structure QuorumNotificationMessage where
  hasQuorum : Bool
  activeNodes : List NodeId
deriving DecidableEq

inductive MessageType where
  | propose (propose : ProposeMessage)
  | voteRound1 (vote : VoteRound1Message)
  | voteRound2 (vote : VoteRound2Message)
  | decision (decision : DecisionMessage)
  | syncRequest (request : SyncRequestMessage)
  | syncResponse (response : SyncResponseMessage)
  | newBatch (newBatch : NewBatchMessage)
  | heartBeat (heartbeat : HeartBeatMessage)
  | quorumNotification (notification : QuorumNotificationMessage)
deriving DecidableEq

/-- The envelope. `from` and `to` are `sender` and `recipient` here; a broadcast
names no recipient. -/
structure ProtocolMessage where
  sender : NodeId
  recipient : Option NodeId
  timestamp : Nat
  messageType : MessageType
deriving DecidableEq

/-! ## Phase records -/

/-- `PhaseData`: what an engine remembers of one phase. -/
structure PhaseData where
  phaseId : PhaseId
  batchId : Option BatchId
  proposedValue : Option StateValue
  round1Votes : Table NodeId StateValue
  round2Votes : Table NodeId StateValue
  decision : Option StateValue
  batch : Option CommandBatch
  timestamp : Nat
  isCommitted : Bool
deriving DecidableEq

namespace PhaseData

/-- `PhaseData::new` at clock reading `now`. -/
def new (phaseId : PhaseId) (now : Nat) : PhaseData where
  phaseId := phaseId
  batchId := none
  proposedValue := none
  round1Votes := ∅
  round2Votes := ∅
  decision := none
  batch := none
  timestamp := now
  isCommitted := false

def addRound1Vote (phase : PhaseData) (voter : NodeId) (vote : StateValue) : PhaseData :=
  { phase with round1Votes := phase.round1Votes.insert voter vote }

def addRound2Vote (phase : PhaseData) (voter : NodeId) (vote : StateValue) : PhaseData :=
  { phase with round2Votes := phase.round2Votes.insert voter vote }

/-- `count_votes`: the value with a quorum of the recorded votes. -/
def countVotes (votes : Table NodeId StateValue) (quorumSize : Nat) : Option StateValue :=
  if quorumSize ≤ Table.count votes .v0 then some .v0
  else if quorumSize ≤ Table.count votes .v1 then some .v1
  else if quorumSize ≤ Table.count votes .vQuestion then some .vQuestion
  else none

def hasRound1Majority (phase : PhaseData) (quorumSize : Nat) : Option StateValue :=
  countVotes phase.round1Votes quorumSize

def hasRound2Majority (phase : PhaseData) (quorumSize : Nat) : Option StateValue :=
  countVotes phase.round2Votes quorumSize

def setDecision (phase : PhaseData) (decision : StateValue) : PhaseData :=
  { phase with
    decision := some decision
    isCommitted := if decision ≠ .vQuestion then true else phase.isCommitted }

/-! ### Field lemmas -/

@[simp] theorem addRound1Vote_round1Votes (phase : PhaseData) (voter : NodeId)
    (vote : StateValue) :
    (phase.addRound1Vote voter vote).round1Votes = phase.round1Votes.insert voter vote := rfl

@[simp] theorem addRound1Vote_round2Votes (phase : PhaseData) (voter : NodeId)
    (vote : StateValue) :
    (phase.addRound1Vote voter vote).round2Votes = phase.round2Votes := rfl

@[simp] theorem addRound1Vote_batch (phase : PhaseData) (voter : NodeId)
    (vote : StateValue) : (phase.addRound1Vote voter vote).batch = phase.batch := rfl

@[simp] theorem addRound1Vote_proposedValue (phase : PhaseData) (voter : NodeId)
    (vote : StateValue) :
    (phase.addRound1Vote voter vote).proposedValue = phase.proposedValue := rfl

@[simp] theorem addRound2Vote_round1Votes (phase : PhaseData) (voter : NodeId)
    (vote : StateValue) :
    (phase.addRound2Vote voter vote).round1Votes = phase.round1Votes := rfl

@[simp] theorem addRound2Vote_round2Votes (phase : PhaseData) (voter : NodeId)
    (vote : StateValue) :
    (phase.addRound2Vote voter vote).round2Votes = phase.round2Votes.insert voter vote := rfl

@[simp] theorem addRound2Vote_batch (phase : PhaseData) (voter : NodeId)
    (vote : StateValue) : (phase.addRound2Vote voter vote).batch = phase.batch := rfl

@[simp] theorem addRound2Vote_proposedValue (phase : PhaseData) (voter : NodeId)
    (vote : StateValue) :
    (phase.addRound2Vote voter vote).proposedValue = phase.proposedValue := rfl

@[simp] theorem setDecision_round1Votes (phase : PhaseData) (decision : StateValue) :
    (phase.setDecision decision).round1Votes = phase.round1Votes := rfl

@[simp] theorem setDecision_round2Votes (phase : PhaseData) (decision : StateValue) :
    (phase.setDecision decision).round2Votes = phase.round2Votes := rfl

@[simp] theorem setDecision_batch (phase : PhaseData) (decision : StateValue) :
    (phase.setDecision decision).batch = phase.batch := rfl

@[simp] theorem setDecision_proposedValue (phase : PhaseData) (decision : StateValue) :
    (phase.setDecision decision).proposedValue = phase.proposedValue := rfl

/-- A tally names `v` only when a quorum of the recorded votes is `v`. -/
theorem countVotes_eq_some {votes : Table NodeId StateValue} {quorumSize : Nat}
    {v : StateValue} (h : countVotes votes quorumSize = some v) :
    quorumSize ≤ (Table.holders votes v).card := by
  rw [← Table.count_eq_card_holders]
  unfold countVotes at h
  split at h
  · cases h; assumption
  · split at h
    · cases h; assumption
    · split at h
      · cases h; assumption
      · cases h

end PhaseData

/-- `PendingBatch`. -/
structure PendingBatch where
  batch : CommandBatch
  originator : NodeId
  receivedTimestamp : Nat
  retryCount : Nat
deriving DecidableEq

/-- `PendingBatch::new` at clock reading `now`. -/
def PendingBatch.new (batch : CommandBatch) (originator : NodeId) (now : Nat) : PendingBatch :=
  { batch, originator, receivedTimestamp := now, retryCount := 0 }

end Rabia
