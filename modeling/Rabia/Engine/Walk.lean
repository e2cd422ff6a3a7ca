import Rabia.Engine.Counters

/-!
# One walk over the handlers

The handlers outside the synchronisation are made of few strides: they call a mutator of the
engine state, take a new leader, send, or run, commit and save a batch. A relation that each of
these strides keeps to (`Strides`) is kept to by every event that is not about a synchronisation
(`Strides.handle`). `Steps` takes the last of the strides apart.
-/

namespace Rabia

open Rabia.Lib Rabia.Lib.Proc

/-- The methods of `EngineState` that the handlers call, apart from `advance_phase` and
`commit_phase`. -/
inductive EngineState.Mutator : (EngineState → EngineState) → Prop where
  | setActive (active) : Mutator (setActive active)
  | updateActiveNodes (nodes) : Mutator (updateActiveNodes nodes)
  | addPendingBatch (batch originator now) : Mutator (addPendingBatch batch originator now)
  | removePendingBatch (batchId) : Mutator (removePendingBatch batchId)
  | getOrCreatePhase (phaseId now) : Mutator (getOrCreatePhase phaseId now)
  | updatePhase (phaseId updateFn) : Mutator (updatePhase phaseId updateFn)
  | cleanupOldPhases (maxPhaseHistory now) : Mutator (cleanupOldPhases maxPhaseHistory now)
  | cleanupOldPendingBatches (maxAgeSecs now) : Mutator (cleanupOldPendingBatches maxAgeSecs now)

/-- None of them moves a counter. -/
theorem EngineState.Mutator.sameCounters {f : EngineState → EngineState}
    (mutator : EngineState.Mutator f) (st : EngineState) : Engine.SameCounters st (f st) := by
  cases mutator with
  | setActive active => exact Engine.sameCounters_setActive active st
  | updateActiveNodes nodes => exact Engine.sameCounters_updateActiveNodes nodes st
  | addPendingBatch batch originator now => exact ⟨rfl, rfl⟩
  | removePendingBatch batchId => exact Engine.sameCounters_removePendingBatch batchId st
  | getOrCreatePhase p now => exact Engine.sameCounters_getOrCreatePhase p now st
  | updatePhase p updateFn => exact Engine.sameCounters_updatePhase p updateFn st
  | cleanupOldPhases maxPhaseHistory now =>
      exact Engine.sameCounters_cleanupOldPhases maxPhaseHistory now st
  | cleanupOldPendingBatches maxAgeSecs now =>
      exact Engine.sameCounters_cleanupOldPendingBatches maxAgeSecs now st

def MessageType.response : MessageType → Option SyncResponseMessage
  | .syncResponse m => some m
  | _ => none

/-- The response of a synchronisation that an effect sends. -/
def Effect.syncResponse : Effect → Option SyncResponseMessage
  | .sendTo _ message | .broadcast message => message.messageType.response
  | _ => none

/-- The batch that an effect tells of running. -/
def Effect.batch : Effect → Option CommandBatch
  | .applyBatch _ batch => some batch
  | _ => none

/-- An effect that neither runs a batch nor answers a request for synchronisation. -/
structure Effect.Ordinary (x : Effect) : Prop where
  batch : x.batch = none
  syncResponse : x.syncResponse = none

/-- The event is about a synchronisation. -/
def Event.Syncs (env : Env) (event : Event) : Prop :=
  ∃ sender payload, Engine.arrival env event = some (sender, payload) ∧
    ((∃ m, payload = .syncRequest m) ∨ ∃ m, payload = .syncResponse m)

namespace Engine

variable {SM : Type} [StateMachine SM]

/-- `save_state` writes this, if it comes to writing. -/
def Saves (e : RabiaEngine SM) (persisted : PersistedState) : Prop :=
  ∃ snapshot, StateMachine.createSnapshot e.stateMachine = .ok snapshot ∧
    persisted = ⟨e.engineState.currentPhase, e.engineState.lastCommittedPhase, some snapshot⟩

/-- How a call of `save_state` ends. -/
theorem saveState_cases (env : Env) (e : RabiaEngine SM) :
    (saveState env e).effects = [] ∧
      ((saveState env e).state = e ∨ ∃ persisted, Saves e persisted ∧
        (saveState env e).state = { e with persistence := some persisted }) := by
  have snapshot : createSnapshot e =
      (⟨StateMachine.createSnapshot e.stateMachine, e, []⟩ :
        Outcome RabiaError (RabiaEngine SM) Effect Snapshot) := rfl
  unfold saveState readState
  rw [read_bind, read_bind]
  cases made : StateMachine.createSnapshot e.stateMachine with
  | error err =>
      rw [made] at snapshot
      rw [bind_error snapshot]
      exact ⟨rfl, Or.inl rfl⟩
  | ok taken =>
      rw [made] at snapshot
      rw [bind_ok snapshot]
      cases env.save with
      | error err =>
          rw [bind_error (ofExcept_apply _ _)]
          exact ⟨rfl, Or.inl rfl⟩
      | ok _ =>
          rw [bind_ok (ofExcept_apply _ _)]
          exact ⟨rfl, Or.inr ⟨_, ⟨taken, made, rfl⟩, rfl⟩⟩

/-- Relations that the handlers keep to: where they call a mutator of the engine state, take a new
leader, send, and where they run, commit and save a batch. -/
structure Strides (env : Env) (R : RabiaEngine SM → List Effect → RabiaEngine SM → Prop) : Prop
    extends Path R where
  mutate : ∀ {f}, EngineState.Mutator f → ∀ e, R e [] (e.mapState f)
  block : ∀ p batch, Within R (applyAndCommit env p batch)
  follow : ∀ selector e, R e [] { e with leaderSelector := selector }
  emit : ∀ x, x.Ordinary → ∀ e, R e [x] e

variable {R : RabiaEngine SM → List Effect → RabiaEngine SM → Prop}

namespace Strides

section Handlers

variable {env : Env} (strides : Strides env R)
include strides

/-! ## Parts of a handler -/

theorem modifyState {f : EngineState → EngineState} (mutator : EngineState.Mutator f) :
    Within R (Engine.modifyState f : EngineM SM Unit) := strides.mutate mutator

theorem readState {α : Type} (f : EngineState → α) :
    Within R (Engine.readState f : EngineM SM α) := Within.read strides.toPath _

theorem emits {x : Effect} (ordinary : x.Ordinary) :
    Within R (Proc.emit x : EngineM SM Unit) := strides.emit x ordinary

theorem sendTo (target : NodeId) {message : ProtocolMessage}
    (ordinary : (Effect.sendTo target message).Ordinary) :
    Within R (Engine.sendTo env target message : EngineM SM Unit) :=
  Within.bind strides.toPath (strides.emits ordinary) fun _ => Within.ofExcept strides.toPath _

theorem broadcast {message : ProtocolMessage}
    (ordinary : (Effect.broadcast message).Ordinary) :
    Within R (Engine.broadcast env message : EngineM SM Unit) :=
  Within.bind strides.toPath (strides.emits ordinary) fun _ => Within.ofExcept strides.toPath _

/-! ## The handlers of the voting -/

theorem handlePropose (sender : NodeId) (m : ProposeMessage) :
    Within R (Engine.handlePropose env sender m : EngineM SM Unit) := by
  refine Within.bind strides.toPath (strides.readState _) fun hasQuorum => ?_
  by_cases quorum : hasQuorum = true
  · rw [if_pos quorum]
    refine Within.bind strides.toPath ?_ fun _ => ?_
    · cases m.batch with
      | some batch => exact strides.modifyState (.addPendingBatch batch sender env.now)
      | none => exact Within.pure strides.toPath _
    refine Within.bind strides.toPath (strides.readState _) fun record => ?_
    refine Within.bind strides.toPath (strides.modifyState (.updatePhase _ _)) fun _ => ?_
    refine Within.bind strides.toPath (Within.read strides.toPath _) fun nodeId => ?_
    exact strides.sendTo sender ⟨rfl, rfl⟩
  · rw [if_neg quorum]
    exact Within.pure strides.toPath _

theorem proceedToRound2 (p : PhaseId) (result : StateValue)
    (votes : Table NodeId StateValue) :
    Within R (Engine.proceedToRound2 env p result votes : EngineM SM Unit) := by
  refine Within.bind strides.toPath (Within.read strides.toPath _) fun nodeId => ?_
  refine Within.bind strides.toPath (strides.modifyState (.updatePhase _ _)) fun _ => ?_
  refine Within.bind strides.toPath (strides.readState _) fun record => ?_
  exact strides.broadcast ⟨rfl, rfl⟩

theorem handleVoteRound1 (sender : NodeId) (m : VoteRound1Message) :
    Within R (Engine.handleVoteRound1 env sender m : EngineM SM Unit) := by
  refine Within.bind strides.toPath (strides.modifyState (.updatePhase _ _)) fun _ => ?_
  refine Within.bind strides.toPath (strides.readState _) fun quorumSize => ?_
  refine Within.bind strides.toPath (strides.readState _) fun record => ?_
  cases record with
  | none => exact Within.pure strides.toPath _
  | some phase =>
      dsimp only
      cases phase.hasRound1Majority quorumSize with
      | some majorityVote => exact strides.proceedToRound2 _ _ _
      | none =>
          dsimp only
          by_cases enough : quorumSize ≤ Table.size phase.round1Votes
          · rw [if_pos enough]
            exact strides.proceedToRound2 _ _ _
          · rw [if_neg enough]
            exact Within.pure strides.toPath _

theorem makeDecision (p : PhaseId) (decision : StateValue) :
    Within R (Engine.makeDecision env p decision : EngineM SM Unit) := by
  refine Within.bind strides.toPath (strides.emits ⟨rfl, rfl⟩) fun _ => ?_
  refine Within.bind strides.toPath (strides.modifyState (.updatePhase _ _)) fun _ => ?_
  refine Within.bind strides.toPath ?_ fun _ => ?_
  · by_cases accepted : decision = .v1
    · rw [if_pos accepted]
      refine Within.bind strides.toPath (strides.readState _) fun record => ?_
      cases record.bind (·.batch) with
      | some batch => exact strides.block p batch
      | none => exact Within.pure strides.toPath _
    · rw [if_neg accepted]
      exact Within.pure strides.toPath _
  · refine Within.bind strides.toPath (strides.readState _) fun record => ?_
    cases record with
    | none => exact Within.throw strides.toPath _
    | some phase =>
        refine Within.bind strides.toPath (Within.read strides.toPath _) fun nodeId => ?_
        exact strides.broadcast ⟨rfl, rfl⟩

theorem handleVoteRound2 (sender : NodeId) (m : VoteRound2Message) :
    Within R (Engine.handleVoteRound2 env sender m : EngineM SM Unit) := by
  refine Within.bind strides.toPath (strides.modifyState (.updatePhase _ _)) fun _ => ?_
  refine Within.bind strides.toPath (strides.readState _) fun quorumSize => ?_
  refine Within.bind strides.toPath (strides.readState _) fun record => ?_
  cases record.bind (·.hasRound2Majority quorumSize) with
  | none => exact Within.pure strides.toPath _
  | some decision => exact strides.makeDecision m.phaseId decision

theorem handleDecision (sender : NodeId) (m : DecisionMessage) :
    Within R (Engine.handleDecision env sender m : EngineM SM Unit) := by
  refine Within.bind strides.toPath (strides.modifyState (.updatePhase _ _)) fun _ => ?_
  by_cases accepted : m.decision = .v1
  · rw [if_pos accepted]
    cases m.batch with
    | none => exact Within.pure strides.toPath _
    | some batch =>
        refine Within.bind strides.toPath (strides.readState _) fun lastCommitted => ?_
        by_cases fresh : lastCommitted < m.phaseId
        · rw [if_pos fresh]
          exact strides.block m.phaseId batch
        · rw [if_neg fresh]
          exact Within.pure strides.toPath _
  · rw [if_neg accepted]
    exact Within.pure strides.toPath _

/-! ## The remaining handlers -/

theorem dispatch (sender : NodeId) (payload : MessageType)
    (noRequest : ∀ m, payload ≠ .syncRequest m) (noResponse : ∀ m, payload ≠ .syncResponse m) :
    Within R (Engine.dispatch env sender payload : EngineM SM Unit) := by
  cases payload with
  | propose m => exact strides.handlePropose sender m
  | voteRound1 m => exact strides.handleVoteRound1 sender m
  | voteRound2 m => exact strides.handleVoteRound2 sender m
  | decision m => exact strides.handleDecision sender m
  | syncRequest m => exact absurd rfl (noRequest m)
  | syncResponse m => exact absurd rfl (noResponse m)
  | newBatch m => exact strides.modifyState (.addPendingBatch m.batch m.originator env.now)
  | heartBeat m => exact Within.pure strides.toPath _
  | quorumNotification m => exact Within.pure strides.toPath _

theorem initiateSync : Within R (Engine.initiateSync env : EngineM SM Unit) := by
  refine Within.bind strides.toPath (strides.readState _) fun _ => ?_
  refine Within.bind strides.toPath (strides.readState _) fun _ => ?_
  refine Within.bind strides.toPath (Within.read strides.toPath _) fun self => ?_
  refine Within.bind strides.toPath (strides.readState _) fun activeNodes => ?_
  refine Within.forM strides.toPath _ fun nodeId => ?_
  by_cases other : nodeId ≠ self
  · rw [if_pos other]
    exact strides.sendTo nodeId ⟨rfl, rfl⟩
  · rw [if_neg other]
    exact Within.pure strides.toPath _

theorem updateClusterMembership (nodes : Finset NodeId) :
    Within R (Engine.updateClusterMembership nodes : EngineM SM (Option NodeId)) := by
  refine Within.bind strides.toPath (Within.read strides.toPath _) fun _ => ?_
  refine Within.bind strides.toPath (fun e => strides.follow _ e) fun _ => ?_
  refine Within.bind strides.toPath (strides.modifyState (.updateActiveNodes nodes)) fun _ => ?_
  exact Within.pure strides.toPath _

/-- A call that advances the phase keeps to `R` when the advance does. -/
theorem advancePhase (advance : ∀ e, R e [] (e.mapState (·.advancePhase.2))) :
    Within R (Engine.advancePhase : EngineM SM PhaseId) := by
  refine Within.bind strides.toPath (strides.readState _) fun _ => ?_
  exact Within.bind strides.toPath (fun e => advance e) fun _ => Within.pure strides.toPath _

theorem processBatchRequest (request : CommandRequest) {e : RabiaEngine SM}
    (advance : e.engineState.hasQuorum = true → ∀ e, R e [] (e.mapState (·.advancePhase.2))) :
    R e (Engine.processBatchRequest env request e).effects
      (Engine.processBatchRequest env request e).state := by
  have rest : Within R (if e.engineState.hasQuorum = true then do
      let nodeId ← Proc.read (·.nodeId)
      Engine.modifyState (EngineState.addPendingBatch request.batch nodeId env.now)
      proposeBatch env request.batch.id request.batch
    else do
      let current ← Engine.readState (·.activeNodes.card)
      let required ← Engine.readState (·.quorumSize)
      Proc.emit (.respond request.responseTx (.error (.quorumNotAvailable current required))) :
      EngineM SM Unit) := by
    by_cases quorum : e.engineState.hasQuorum = true
    · rw [if_pos quorum]
      refine Within.bind strides.toPath (Within.read strides.toPath _) fun nodeId => ?_
      refine Within.bind strides.toPath (strides.modifyState (.addPendingBatch _ _ _)) fun _ => ?_
      refine Within.bind strides.toPath (strides.advancePhase (advance quorum)) fun p => ?_
      refine Within.bind strides.toPath (strides.modifyState (.updatePhase _ _)) fun _ => ?_
      refine Within.bind strides.toPath (Within.read strides.toPath _) fun _ => ?_
      exact strides.broadcast ⟨rfl, rfl⟩
    · rw [if_neg quorum]
      refine Within.bind strides.toPath (strides.readState _) fun current => ?_
      refine Within.bind strides.toPath (strides.readState _) fun required => ?_
      exact strides.emits ⟨rfl, rfl⟩
  exact rest e

/-- An event that is not about a synchronisation keeps to `R`, if advancing the phase does
wherever the event advances it. -/
theorem handle {event : Event} (noSync : ¬ event.Syncs env) {e : RabiaEngine SM}
    (advance : Advances e event → ∀ e, R e [] (e.mapState (·.advancePhase.2))) :
    R e (Engine.handle env event e).effects (Engine.handle env event e).state := by
  cases event with
  | message sender message =>
      by_cases received : Received env sender message message.messageType
      · rw [handle_of_received received]
        have arrived := arrival_of_received received
        refine strides.dispatch sender _ (fun m same => ?_) (fun m same => ?_) e
        · exact noSync ⟨sender, _, arrived, Or.inl ⟨m, same⟩⟩
        · exact noSync ⟨sender, _, arrived, Or.inr ⟨m, same⟩⟩
      · obtain ⟨state, effects⟩ := handle_of_not_received received e
        rw [state, effects]
        exact strides.nil e
  | command command =>
      cases command with
      | processBatch request => exact strides.processBatchRequest request advance
      | shutdown => exact Within.throw strides.toPath _ e
      | forcePhaseAdvance =>
          exact Within.bind strides.toPath (strides.advancePhase (advance trivial))
            (fun _ => Within.pure strides.toPath _) e
      | triggerSync => exact strides.initiateSync e
      | getStatistics responseTx =>
          exact Within.bind strides.toPath (strides.readState _)
            (fun _ => strides.emits ⟨rfl, rfl⟩) e
  | cleanup =>
      refine Within.bind strides.toPath (Within.read strides.toPath _) (fun history => ?_) e
      refine Within.bind strides.toPath (strides.modifyState (.cleanupOldPhases _ _)) fun _ => ?_
      exact strides.modifyState (.cleanupOldPendingBatches _ _)
  | heartbeat =>
      refine Within.bind strides.toPath (strides.readState _) (fun _ => ?_) e
      refine Within.bind strides.toPath (strides.readState _) fun _ => ?_
      refine Within.bind strides.toPath (strides.readState _) fun _ => ?_
      refine Within.bind strides.toPath (Within.read strides.toPath _) fun _ => ?_
      exact strides.broadcast ⟨rfl, rfl⟩
  | networkPartition activeNodes => exact strides.modifyState (.updateActiveNodes activeNodes) e
  | quorumLost => exact strides.modifyState (.setActive false) e
  | quorumRestored activeNodes =>
      exact Within.bind strides.toPath (strides.modifyState (.updateActiveNodes activeNodes))
        (fun _ => strides.modifyState (.setActive true)) e
  | clusterMembership nodes =>
      exact Within.bind strides.toPath (strides.updateClusterMembership nodes)
        (fun _ => Within.pure strides.toPath _) e
  | createPhase phaseId => exact strides.modifyState (.getOrCreatePhase phaseId env.now) e

end Handlers

end Strides

/-- Relations that the smallest steps of the handlers keep to. -/
structure Steps (R : RabiaEngine SM → List Effect → RabiaEngine SM → Prop) : Prop
    extends Path R where
  mutate : ∀ {f}, EngineState.Mutator f → ∀ e, R e [] (e.mapState f)
  run : ∀ p batch e, R e [.applyBatch p batch] (withCommands batch e)
  commit : ∀ p e, R e [] (e.mapState fun st => (st.commitPhase p).2)
  save : ∀ persisted e, Saves e persisted → R e [] { e with persistence := some persisted }
  follow : ∀ selector e, R e [] { e with leaderSelector := selector }
  emit : ∀ x, x.Ordinary → ∀ e, R e [x] e

namespace Steps

variable (steps : Steps R)
include steps

theorem commitPhase (p : PhaseId) : Within R (Engine.commitPhase p : EngineM SM Bool) := by
  refine Within.bind steps.toPath (Within.read steps.toPath _) fun result => ?_
  refine Within.bind steps.toPath (fun e => steps.commit p e) fun _ => ?_
  exact Within.ofExcept steps.toPath _

theorem saveState (env : Env) : Within R (Engine.saveState env : EngineM SM Unit) := by
  intro e
  obtain ⟨effects, unsaved | ⟨persisted, saves, state⟩⟩ := saveState_cases env e
  · rw [effects, unsaved]
    exact steps.nil e
  · rw [effects, state]
    exact steps.save persisted e saves

theorem applyBatch (p : PhaseId) (batch : CommandBatch) :
    Within R (Engine.applyBatch p batch : EngineM SM Unit) := by
  intro e
  by_cases succeed : CommandsSucceed e batch
  · rw [applyBatch_of_ok succeed p]
    exact steps.append (steps.run p batch e) (steps.mutate (.removePendingBatch batch.id) _)
  · cases failed : (StateMachine.applyCommands e.stateMachine batch.commands).1 with
    | ok responses => exact absurd ⟨responses, failed⟩ succeed
    | error err =>
        rw [applyBatch_of_error failed p]
        exact steps.run p batch e

theorem applyAndCommit (env : Env) (p : PhaseId) (batch : CommandBatch) :
    Within R (Engine.applyAndCommit env p batch : EngineM SM Unit) := by
  refine Within.bind steps.toPath (steps.applyBatch p batch) fun _ => ?_
  refine Within.bind steps.toPath (steps.commitPhase p) fun _ => ?_
  refine Within.bind steps.toPath (Within.attempt (steps.saveState env)) fun _ => ?_
  exact Within.pure steps.toPath _

theorem strides (env : Env) : Strides env R where
  toPath := steps.toPath
  mutate := steps.mutate
  block := steps.applyAndCommit env
  follow := steps.follow
  emit := steps.emit

/-- An event that is not about a synchronisation keeps to `R`, if advancing the phase does
wherever the event advances it. -/
theorem handle (env : Env) {event : Event} (noSync : ¬ event.Syncs env) {e : RabiaEngine SM}
    (advance : Advances e event → ∀ e, R e [] (e.mapState (·.advancePhase.2))) :
    R e (Engine.handle env event e).effects (Engine.handle env event e).state :=
  (steps.strides env).handle noSync advance

end Steps

end Engine

end Rabia
