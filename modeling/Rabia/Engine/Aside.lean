import Rabia.Engine.Handlers

/-!
# Handlers outside the voting

Synchronisation, heartbeats, membership and the administrative commands have no
part in the voting. They are `Aside`: they keep the phase records, the commit
mark and the quorum size, and emit no proposal, vote, decision or application.
`Within.bind` carries this from the steps of a handler to the handler.
-/

namespace Rabia

open Rabia.Lib Rabia.Lib.Proc

/-- What the voting is about in a message or another effect. -/
inductive Utterance where
  | proposal (phaseId : PhaseId) (value : StateValue) (batch : Option CommandBatch)
  | round1 (phaseId : PhaseId) (vote : StateValue)
  | round2 (phaseId : PhaseId) (vote : StateValue)
  | decision (phaseId : PhaseId) (decision : StateValue) (batch : Option CommandBatch)
  | decided (phaseId : PhaseId) (decision : StateValue)
  | applied (phaseId : PhaseId) (batch : CommandBatch)
deriving DecidableEq

namespace Utterance

/-- The phase an utterance is about. -/
def phase : Utterance → PhaseId
  | .proposal p _ _ | .round1 p _ | .round2 p _ | .decision p _ _ | .decided p _ | .applied p _ => p

end Utterance

def MessageType.utterance : MessageType → Option Utterance
  | .propose msg => some (.proposal msg.phaseId msg.value msg.batch)
  | .voteRound1 msg => some (.round1 msg.phaseId msg.vote)
  | .voteRound2 msg => some (.round2 msg.phaseId msg.vote)
  | .decision msg => some (.decision msg.phaseId msg.decision msg.batch)
  | _ => none

/-- What an effect says, if it belongs to the voting. -/
def Effect.utterance : Effect → Option Utterance
  | .sendTo _ message | .broadcast message => message.messageType.utterance
  | .decide phaseId decision => some (.decided phaseId decision)
  | .applyBatch phaseId batch => some (.applied phaseId batch)
  | .respond _ _ | .statistics _ _ => none

namespace Engine

variable {SM : Type}

/-- Nothing that the voting reads or writes changed, nothing of it was said. -/
structure Aside (e : RabiaEngine SM) (w : List Effect) (e' : RabiaEngine SM) : Prop where
  nodeId : e'.nodeId = e.nodeId
  state : e.engineState.Keeps e'.engineState
  effects : ∀ x ∈ w, x.utterance = none

theorem aside_path : Path (@Aside SM) where
  nil e := ⟨rfl, EngineState.Keeps.refl _, fun _ h => absurd h List.not_mem_nil⟩
  append h h' := by
    refine ⟨h'.nodeId.trans h.nodeId, h.state.trans h'.state, ?_⟩
    intro x hx
    rcases List.mem_append.mp hx with hx | hx
    · exact h.effects x hx
    · exact h'.effects x hx

theorem within_modifyState {f : EngineState → EngineState} (h : ∀ st, EngineState.Keeps st (f st)) :
    Within Aside (modifyState f : EngineM SM Unit) :=
  fun e => ⟨rfl, h e.engineState, fun _ hx => absurd hx List.not_mem_nil⟩

theorem within_readState {α : Type} (f : EngineState → α) :
    Within Aside (readState f : EngineM SM α) := Within.read aside_path _

theorem within_emit {x : Effect} (h : x.utterance = none) :
    Within Aside (emit x : EngineM SM Unit) :=
  fun _ => ⟨rfl, EngineState.Keeps.refl _, fun _ hy => by
    rw [List.mem_singleton.mp hy]; exact h⟩

theorem within_sendTo (env : Env) (target : NodeId) {message : ProtocolMessage}
    (h : message.messageType.utterance = none) :
    Within Aside (sendTo env target message : EngineM SM Unit) :=
  Within.bind aside_path (within_emit h) fun _ => Within.ofExcept aside_path _

theorem within_broadcast (env : Env) {message : ProtocolMessage}
    (h : message.messageType.utterance = none) :
    Within Aside (broadcast env message : EngineM SM Unit) :=
  Within.bind aside_path (within_emit h) fun _ => Within.ofExcept aside_path _

theorem within_updateClusterMembership (nodes : Finset NodeId) :
    Within Aside (updateClusterMembership nodes : EngineM SM (Option NodeId)) := by
  refine Within.bind aside_path (Within.read aside_path _) fun _ => ?_
  refine Within.bind aside_path ?_ fun _ => ?_
  · intro e
    exact ⟨rfl, EngineState.Keeps.refl _, fun _ hx => absurd hx List.not_mem_nil⟩
  refine Within.bind aside_path ?_ fun _ => Within.pure aside_path _
  exact within_modifyState (EngineState.keeps_updateActiveNodes nodes)

theorem within_advanceToNextPhase : Within Aside (advanceToNextPhase : EngineM SM Unit) := by
  refine Within.bind aside_path ?_ fun _ => Within.pure aside_path _
  refine Within.bind aside_path (within_readState _) fun _ => ?_
  refine Within.bind aside_path ?_ fun _ => Within.pure aside_path _
  exact within_modifyState EngineState.keeps_advancePhase

theorem within_initiateSync (env : Env) : Within Aside (initiateSync env : EngineM SM Unit) := by
  refine Within.bind aside_path (within_readState _) fun _ => ?_
  refine Within.bind aside_path (within_readState _) fun _ => ?_
  refine Within.bind aside_path (Within.read aside_path _) fun self => ?_
  refine Within.bind aside_path (within_readState _) fun activeNodes => ?_
  refine Within.forM aside_path _ fun nodeId => ?_
  by_cases h : nodeId ≠ self
  · rw [if_pos h]
    exact within_sendTo env nodeId rfl
  · rw [if_neg h]
    exact Within.pure aside_path _

theorem within_sendHeartbeat (env : Env) :
    Within Aside (sendHeartbeat env : EngineM SM Unit) := by
  refine Within.bind aside_path (within_readState _) fun _ => ?_
  refine Within.bind aside_path (within_readState _) fun _ => ?_
  refine Within.bind aside_path (within_readState _) fun _ => ?_
  refine Within.bind aside_path (Within.read aside_path _) fun _ => ?_
  exact within_broadcast env rfl

section Snapshots

variable [StateMachine SM]

theorem within_createSnapshot : Within Aside (createSnapshot : EngineM SM Snapshot) :=
  Within.bind aside_path (Within.read aside_path _) fun _ => Within.ofExcept aside_path _

theorem within_restoreSnapshot (snapshot : Snapshot) :
    Within Aside (restoreSnapshot snapshot : EngineM SM Unit) := by
  refine Within.bind aside_path (Within.read aside_path _) fun _ => ?_
  refine Within.bind aside_path ?_ fun _ => Within.ofExcept aside_path _
  intro e
  exact ⟨rfl, EngineState.Keeps.refl _, fun _ hx => absurd hx List.not_mem_nil⟩

theorem within_snapshotIfAhead (requesterPhase currentPhase : PhaseId) :
    Within Aside (snapshotIfAhead requesterPhase currentPhase : EngineM SM _) := by
  unfold snapshotIfAhead
  by_cases h : requesterPhase < currentPhase
  · rw [if_pos h]
    exact Within.bind aside_path within_createSnapshot fun _ => Within.pure aside_path _
  · rw [if_neg h]
    exact Within.pure aside_path _

theorem within_handleSyncRequest (env : Env) (sender : NodeId) (request : SyncRequestMessage) :
    Within Aside (handleSyncRequest env sender request : EngineM SM Unit) := by
  refine Within.bind aside_path (within_readState _) fun _ => ?_
  refine Within.bind aside_path (within_readState _) fun _ => ?_
  refine Within.bind aside_path (within_snapshotIfAhead _ _) fun _ => ?_
  refine Within.bind aside_path (Within.read aside_path _) fun _ => ?_
  exact within_sendTo env sender rfl

theorem within_resolveSync (env : Env) (responses : Table NodeId SyncResponseMessage) :
    Within Aside (resolveSync env responses : EngineM SM Unit) := by
  refine Within.bind aside_path ?_ fun _ =>
    within_modifyState EngineState.keeps_clearSyncResponses
  cases latestResponse env responses with
  | none => exact Within.pure aside_path _
  | some latest =>
      refine Within.bind aside_path (within_readState _) fun currentPhase => ?_
      by_cases h : currentPhase < latest.responderPhase
      · rw [if_pos h]
        refine Within.bind aside_path
          (within_modifyState (EngineState.keeps_syncPhase _)) fun _ => ?_
        cases latest.stateSnapshot with
        | none => exact Within.pure aside_path _
        | some snapshot => exact within_restoreSnapshot snapshot
      · rw [if_neg h]
        exact Within.pure aside_path _

theorem within_handleSyncResponse (env : Env) (sender : NodeId)
    (response : SyncResponseMessage) :
    Within Aside (handleSyncResponse env sender response : EngineM SM Unit) := by
  refine Within.bind aside_path
    (within_modifyState (EngineState.keeps_addSyncResponse sender response)) fun _ => ?_
  refine Within.bind aside_path (within_readState _) fun syncResponses => ?_
  refine Within.bind aside_path (within_readState _) fun quorumSize => ?_
  by_cases h : quorumSize ≤ Table.size syncResponses
  · rw [if_pos h]
    exact within_resolveSync env syncResponses
  · rw [if_neg h]
    exact Within.pure aside_path _

end Snapshots

end Engine

end Rabia
