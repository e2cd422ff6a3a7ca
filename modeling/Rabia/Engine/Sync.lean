import Rabia.Engine.Order

/-!
# Synchronisation

`resolve_sync` takes the response with the highest `responder_phase`, the count
of proposals its sender knows of (`latestResponse_freshest`), and installs its snapshot
when that phase is ahead of the requester's (`resolveSync_cases` tells how a call can end).
Neither what the requester has applied nor how far it has committed enters into it:

* `log_kept_iff` — what was applied survives exactly when nothing is installed
  or the chosen responder had applied it too;
* `not_reapplied_after_sync_iff` — what a snapshot brings is not run again exactly when the
  engine's own commit mark, which a sync leaves where it is, covers it by the
  time its decision arrives.
-/

namespace Rabia.Engine

open Rabia.Lib Rabia.Lib.Proc

variable {SM : Type} [StateMachine SM]

/-! ## What a sync round installs -/

/-- The snapshot that `resolve_sync` installs, if it installs one. -/
def adoptedSnapshot (env : Env) (e : RabiaEngine SM)
    (responses : Table NodeId SyncResponseMessage) : Option Snapshot :=
  match latestResponse env responses with
  | some latest =>
    if e.engineState.currentPhase < latest.responderPhase then latest.stateSnapshot else none
  | none => none

/-- The chosen response is one of those that came in. -/
theorem latestResponse_lookup {env : Env} {responses : Table NodeId SyncResponseMessage}
    {latest : SyncResponseMessage} (h : latestResponse env responses = some latest) :
    ∃ node, responses.lookup node = some latest := by
  obtain ⟨node, -, found⟩ := List.mem_filterMap.mp (maxByKey_mem _ h)
  exact ⟨node, found⟩

/-- No response that came in names a later phase than the chosen one. -/
theorem latestResponse_freshest {env : Env} {responses : Table NodeId SyncResponseMessage}
    {latest : SyncResponseMessage} (h : latestResponse env responses = some latest)
    {node : NodeId} {response : SyncResponseMessage}
    (found : responses.lookup node = some response) :
    response.responderPhase ≤ latest.responderPhase := by
  have listed : response ∈ syncResponseValues env responses := by
    refine List.mem_filterMap.mpr ⟨node, ?_, found⟩
    rw [mem_iterate, Finmap.mem_keys]
    exact Finmap.mem_of_lookup_eq_some found
  obtain ⟨chosen, same, le⟩ := exists_le_maxByKey (·.responderPhase) listed
  cases same.symm.trans h
  exact le

/-- The response that makes `resolve_sync` move the phase, if one does. -/
def aheadResponse (env : Env) (e : RabiaEngine SM) (responses : Table NodeId SyncResponseMessage) :
    Option SyncResponseMessage :=
  (latestResponse env responses).filter fun latest =>
    decide (e.engineState.currentPhase < latest.responderPhase)

omit [StateMachine SM] in
theorem aheadResponse_eq_some {env : Env} {e : RabiaEngine SM}
    {responses : Table NodeId SyncResponseMessage} {latest : SyncResponseMessage} :
    aheadResponse env e responses = some latest ↔
      latestResponse env responses = some latest ∧
        e.engineState.currentPhase < latest.responderPhase := by
  simp [aheadResponse, Option.filter_eq_some_iff]

omit [StateMachine SM] in
/-- What is installed is the snapshot of the response that is ahead. -/
theorem adoptedSnapshot_eq (env : Env) (e : RabiaEngine SM)
    (responses : Table NodeId SyncResponseMessage) :
    adoptedSnapshot env e responses =
      (aheadResponse env e responses).bind (·.stateSnapshot) := by
  unfold adoptedSnapshot aheadResponse
  cases latestResponse env responses with
  | none => rfl
  | some latest =>
      by_cases ahead : e.engineState.currentPhase < latest.responderPhase
      · simp [Option.filter, ahead]
      · simp [Option.filter, ahead]

omit [StateMachine SM] in
theorem adoptedSnapshot_eq_some {env : Env} {e : RabiaEngine SM}
    {responses : Table NodeId SyncResponseMessage} {snapshot : Snapshot}
    (h : adoptedSnapshot env e responses = some snapshot) :
    ∃ latest, latestResponse env responses = some latest ∧
      e.engineState.currentPhase < latest.responderPhase ∧
        latest.stateSnapshot = some snapshot := by
  rw [adoptedSnapshot_eq] at h
  obtain ⟨latest, found, attached⟩ := Option.bind_eq_some_iff.mp h
  obtain ⟨chosen, ahead⟩ := aheadResponse_eq_some.mp found
  exact ⟨latest, chosen, ahead, attached⟩

/-- The engine after the phase was stored and before the responses are cleared. -/
def movedTo (p : PhaseId) (sm : SM) (e : RabiaEngine SM) : RabiaEngine SM :=
  { e.mapState (EngineState.syncPhase p) with stateMachine := sm }

/-- How a call of `resolve_sync` ends. -/
inductive Resolution (env : Env) (responses : Table NodeId SyncResponseMessage)
    (e : RabiaEngine SM) : Outcome RabiaError (RabiaEngine SM) Effect Unit → Prop
  /-- No response is ahead. -/
  | level : aheadResponse env e responses = none →
      Resolution env responses e ⟨.ok (), e.mapState EngineState.clearSyncResponses, []⟩
  /-- The one that is ahead brings no snapshot. -/
  | moved {latest} : aheadResponse env e responses = some latest →
      latest.stateSnapshot = none →
      Resolution env responses e ⟨.ok (), (movedTo latest.responderPhase e.stateMachine e).mapState
        EngineState.clearSyncResponses, []⟩
  | restored {latest snapshot sm} : aheadResponse env e responses = some latest →
      latest.stateSnapshot = some snapshot →
      StateMachine.restoreSnapshot e.stateMachine snapshot = (.ok (), sm) →
      Resolution env responses e ⟨.ok (), (movedTo latest.responderPhase sm e).mapState
        EngineState.clearSyncResponses, []⟩
  /-- Neither the phase is moved back nor the responses are cleared. -/
  | refused {latest snapshot err sm} : aheadResponse env e responses = some latest →
      latest.stateSnapshot = some snapshot →
      StateMachine.restoreSnapshot e.stateMachine snapshot = (.error err, sm) →
      Resolution env responses e ⟨.error err, movedTo latest.responderPhase sm e, []⟩

/-- The part of `resolve_sync` before the responses are cleared. -/
def adopt (latest : SyncResponseMessage) : EngineM SM Unit := do
  let currentPhase ← readState (·.currentPhase)
  if currentPhase < latest.responderPhase then
    modifyState (EngineState.syncPhase latest.responderPhase)
    match latest.stateSnapshot with
    | some snapshot => restoreSnapshot snapshot
    | none => pure ()
  else pure ()

theorem resolveSync_eq {env : Env} {responses : Table NodeId SyncResponseMessage}
    {latest : SyncResponseMessage} (chosen : latestResponse env responses = some latest) :
    (resolveSync env responses : EngineM SM Unit) =
      (adopt latest >>= fun _ => modifyState EngineState.clearSyncResponses) := by
  unfold resolveSync
  rw [chosen]
  rfl

theorem adopt_of_ahead {e : RabiaEngine SM} {latest : SyncResponseMessage}
    (ahead : e.engineState.currentPhase < latest.responderPhase) :
    adopt latest e =
      match latest.stateSnapshot with
      | some snapshot =>
        ⟨(StateMachine.restoreSnapshot e.stateMachine snapshot).1,
          movedTo latest.responderPhase (StateMachine.restoreSnapshot e.stateMachine snapshot).2 e,
          []⟩
      | none => ⟨.ok (), movedTo latest.responderPhase e.stateMachine e, []⟩ := by
  unfold adopt
  rw [readState, read_bind, if_pos ahead, modifyState, modify_bind]
  cases latest.stateSnapshot with
  | some snapshot => rfl
  | none => rfl

theorem resolveSync_cases (env : Env) (responses : Table NodeId SyncResponseMessage)
    (e : RabiaEngine SM) : Resolution env responses e (resolveSync env responses e) := by
  cases chosen : latestResponse env responses with
  | none =>
      have ends : resolveSync env responses e =
          ⟨.ok (), e.mapState EngineState.clearSyncResponses, []⟩ := by
        unfold resolveSync
        rw [chosen]
        rfl
      rw [ends]
      exact .level (by simp [aheadResponse, chosen])
  | some latest =>
      rw [resolveSync_eq chosen]
      by_cases ahead : e.engineState.currentPhase < latest.responderPhase
      · have found := aheadResponse_eq_some.mpr ⟨chosen, ahead⟩
        have adopted := adopt_of_ahead ahead
        cases attached : latest.stateSnapshot with
        | none =>
            rw [attached] at adopted
            rw [bind_ok adopted]
            exact .moved found attached
        | some snapshot =>
            rw [attached] at adopted
            dsimp only at adopted
            cases tried : StateMachine.restoreSnapshot e.stateMachine snapshot with
            | mk result sm =>
                rw [tried] at adopted
                cases result with
                | ok _ =>
                    rw [bind_ok adopted]
                    exact .restored found attached tried
                | error err =>
                    rw [bind_error adopted]
                    exact .refused found attached tried
      · have kept : adopt latest e = ⟨.ok (), e, []⟩ := by
          unfold adopt
          rw [readState, read_bind, if_neg ahead]
          rfl
        rw [bind_ok kept]
        exact .level (by simp [aheadResponse, chosen, Nat.not_lt.mp ahead])

/-- After `resolve_sync` the state machine is the installed one or the old one. -/
theorem resolveSync_stateMachine (env : Env) (e : RabiaEngine SM)
    (responses : Table NodeId SyncResponseMessage) :
    (resolveSync env responses e).state.stateMachine =
      match adoptedSnapshot env e responses with
      | some snapshot => (StateMachine.restoreSnapshot e.stateMachine snapshot).2
      | none => e.stateMachine := by
  have resolution := resolveSync_cases env responses e
  generalize resolveSync env responses e = outcome at resolution ⊢
  rw [adoptedSnapshot_eq]
  cases resolution with
  | level found =>
      rw [found]
      rfl
  | moved found bare =>
      rw [found, Option.bind_some, bare]
      rfl
  | restored found attached tried | refused found attached tried =>
      rw [found, Option.bind_some, attached]
      exact (congrArg Prod.snd tried).symm

/-- A response that completes the quorum resolves the round. -/
theorem handleSyncResponse_of_quorum (env : Env) (sender : NodeId)
    (response : SyncResponseMessage) {e : RabiaEngine SM}
    (quorum : e.engineState.quorumSize ≤
      Table.size (e.engineState.syncResponses.insert sender response)) :
    handleSyncResponse env sender response e =
      resolveSync env (e.engineState.syncResponses.insert sender response)
        (e.mapState (EngineState.addSyncResponse sender response)) := by
  unfold handleSyncResponse
  rw [modifyState, modify_bind, readState, read_bind, readState, read_bind]
  exact congrFun (if_pos quorum) _

/-- A response that does not complete the quorum is only stored. -/
theorem handleSyncResponse_of_no_quorum (env : Env) (sender : NodeId)
    (response : SyncResponseMessage) {e : RabiaEngine SM}
    (few : ¬ e.engineState.quorumSize ≤
      Table.size (e.engineState.syncResponses.insert sender response)) :
    handleSyncResponse env sender response e =
      ⟨.ok (), e.mapState (EngineState.addSyncResponse sender response), []⟩ := by
  unfold handleSyncResponse
  rw [modifyState, modify_bind, readState, read_bind, readState, read_bind]
  exact congrFun (if_neg few) _

/-! ## Honest responses -/

/-- The response is one that `handle_sync_request` made `responder` send. -/
def HonestResponse (responder : RabiaEngine SM) (response : SyncResponseMessage) : Prop :=
  ∃ env sender request,
    Effect.sendTo sender
        (ProtocolMessage.syncResponse responder.nodeId sender env.now response) ∈
      (handleSyncRequest env sender request responder).effects

/-- The response of `responder` with `snapshot` attached. -/
def syncResponseOf (responder : RabiaEngine SM) (snapshot : Option Snapshot) :
    SyncResponseMessage where
  responderPhase := responder.engineState.currentPhase
  responderStateVersion := responder.engineState.stateVersion
  stateSnapshot := snapshot
  pendingBatches := []
  committedPhases := []

/-- The message that brings this response to `sender`. -/
def syncAnswer (env : Env) (sender : NodeId) (responder : RabiaEngine SM)
    (snapshot : Option Snapshot) : Effect :=
  .sendTo sender <| ProtocolMessage.syncResponse responder.nodeId sender env.now
    (syncResponseOf responder snapshot)

/-- A responder that is not ahead answers without a snapshot. -/
theorem handleSyncRequest_of_le {env : Env} {sender : NodeId} {request : SyncRequestMessage}
    {responder : RabiaEngine SM}
    (level : responder.engineState.currentPhase ≤ request.requesterPhase) :
    (handleSyncRequest env sender request responder).effects =
      [syncAnswer env sender responder none] := by
  unfold handleSyncRequest snapshotIfAhead
  rw [readState, read_bind, readState, read_bind, if_neg (Nat.not_lt.mpr level)]
  rfl

/-- A responder that is ahead attaches a snapshot, or says nothing when making one fails. -/
theorem handleSyncRequest_of_lt {env : Env} {sender : NodeId} {request : SyncRequestMessage}
    {responder : RabiaEngine SM}
    (ahead : request.requesterPhase < responder.engineState.currentPhase) :
    (handleSyncRequest env sender request responder).effects =
      match StateMachine.createSnapshot responder.stateMachine with
      | .ok snapshot => [syncAnswer env sender responder (some snapshot)]
      | .error _ => [] := by
  have taken : createSnapshot responder =
      (⟨StateMachine.createSnapshot responder.stateMachine, responder, []⟩ :
        Outcome RabiaError (RabiaEngine SM) Effect Snapshot) := rfl
  unfold handleSyncRequest snapshotIfAhead
  rw [readState, read_bind, readState, read_bind, if_pos ahead]
  cases made : StateMachine.createSnapshot responder.stateMachine with
  | error err =>
      rw [made] at taken
      rw [bind_error (bind_error taken)]
  | ok snapshot =>
      rw [made] at taken
      rw [bind_ok (bind_ok taken)]
      rfl

/-- Every engine that has proposed can answer with a snapshot of its state machine. -/
theorem honest_syncResponseOf {responder : RabiaEngine SM} {snapshot : Snapshot}
    (taken : StateMachine.createSnapshot responder.stateMachine = .ok snapshot)
    (proposed : 0 < responder.engineState.currentPhase) :
    HonestResponse responder (syncResponseOf responder (some snapshot)) := by
  refine ⟨{}, ⟨0⟩, ⟨0, 1⟩, ?_⟩
  rw [handleSyncRequest_of_lt proposed, taken]
  exact List.mem_singleton.mpr rfl

/-- Every engine can answer without a snapshot: to a node that is as far as itself. -/
theorem honest_syncResponseOf_none (responder : RabiaEngine SM) :
    HonestResponse responder (syncResponseOf responder none) := by
  refine ⟨{}, ⟨0⟩, ⟨responder.engineState.currentPhase, 1⟩, ?_⟩
  rw [handleSyncRequest_of_le (Nat.le_refl _)]
  exact List.mem_singleton.mpr rfl

/-- A snapshot in an honest response was made from the responder's state machine. -/
theorem HonestResponse.snapshot {responder : RabiaEngine SM} {response : SyncResponseMessage}
    (honest : HonestResponse responder response) {snapshot : Snapshot}
    (attached : response.stateSnapshot = some snapshot) :
    StateMachine.createSnapshot responder.stateMachine = .ok snapshot := by
  obtain ⟨env, sender, request, sent⟩ := honest
  rcases Nat.lt_or_ge request.requesterPhase responder.engineState.currentPhase with
    ahead | level
  · rw [handleSyncRequest_of_lt ahead] at sent
    cases made : StateMachine.createSnapshot responder.stateMachine with
    | error err =>
        rw [made] at sent
        cases sent
    | ok taken =>
        rw [made] at sent
        cases List.mem_singleton.mp sent
        cases attached
        rfl
  · rw [handleSyncRequest_of_le level] at sent
    cases List.mem_singleton.mp sent
    cases attached

/-! ## What was applied survives -/

/-- What was applied before `resolve_sync` is still in the log after it exactly
when nothing is installed or the responder whose snapshot is installed had applied
it as well. -/
theorem log_kept_iff {ε : Type} (view : LogView SM ε) (env : Env) (e : RabiaEngine SM)
    (responses : Table NodeId SyncResponseMessage) (responder : NodeId → RabiaEngine SM)
    (honest : ∀ node response, responses.lookup node = some response →
      HonestResponse (responder node) response) :
    view.log e.stateMachine ⊆ view.log (resolveSync env responses e).state.stateMachine ↔
      ∀ node latest, responses.lookup node = some latest →
        latestResponse env responses = some latest →
          e.engineState.currentPhase < latest.responderPhase → latest.stateSnapshot ≠ none →
            view.log e.stateMachine ⊆ view.log (responder node).stateMachine := by
  rw [resolveSync_stateMachine]
  cases adopted : adoptedSnapshot env e responses with
  | none =>
      constructor
      · intro _ node latest _ chosen ahead attached
        unfold adoptedSnapshot at adopted
        rw [chosen] at adopted
        dsimp only at adopted
        rw [if_pos ahead] at adopted
        exact absurd adopted attached
      · intro _
        exact List.Subset.refl _
  | some snapshot =>
      obtain ⟨latest, chosen, ahead, attached⟩ := adoptedSnapshot_eq_some adopted
      have restored : ∀ node, responses.lookup node = some latest →
          view.log (StateMachine.restoreSnapshot e.stateMachine snapshot).2 =
            view.log (responder node).stateMachine := fun node found =>
        (view.restored ((honest node latest found).snapshot attached) e.stateMachine).2
      constructor
      -- the log after the sync is the responder's log
      · intro kept node latest' found chosen' _ _
        cases chosen.symm.trans chosen'
        rw [← restored node found]
        exact kept
      · intro covered
        obtain ⟨node, found⟩ := latestResponse_lookup chosen
        dsimp only
        rw [restored node found]
        refine covered node latest found chosen ahead ?_
        rw [attached]
        exact Option.some_ne_none snapshot

section Lost

/-- Node 0, which proposed a batch for phase 1 and committed it. -/
def committer : RabiaEngine ByteLog :=
  (run Run.step (Run.start (threeNodes 0))
    [({}, .command (.processBatch ⟨writing 65, 0⟩)),
      ({}, .message ⟨1⟩ (ProtocolMessage.decision ⟨1⟩ 0 (accepting 1 65)))]).engine

/-- Node 1, which made two proposals and has committed nothing. -/
def proposer : RabiaEngine ByteLog :=
  (run Run.step (Run.start (threeNodes 1))
    [({}, .command (.processBatch ⟨writing 66, 0⟩)),
      ({}, .command (.processBatch ⟨writing 67, 0⟩))]).engine

/-- The two nodes that node 0 asks. Node 2 is new. -/
def asked (node : NodeId) : RabiaEngine ByteLog := if node = ⟨1⟩ then proposer else threeNodes 2

/-- What they answer: with node 1 ahead and node 2 not, only node 1 attaches a snapshot. -/
def fromBoth : Table NodeId SyncResponseMessage :=
  Finmap.insert ⟨2⟩ (syncResponseOf (threeNodes 2) none)
    (Finmap.singleton ⟨1⟩ (syncResponseOf proposer (some ⟨0, [], 0⟩)))

theorem fromBoth_honest (node : NodeId) (response : SyncResponseMessage)
    (found : fromBoth.lookup node = some response) : HonestResponse (asked node) response := by
  by_cases second : node = ⟨2⟩
  · subst second
    rw [fromBoth, Finmap.lookup_insert] at found
    cases found
    exact honest_syncResponseOf_none (threeNodes 2)
  · rw [fromBoth, Finmap.lookup_insert_of_ne _ second] at found
    by_cases first : node = ⟨1⟩
    · subst first
      rw [Finmap.lookup_singleton_eq] at found
      cases found
      have proposed : 0 < proposer.engineState.currentPhase := by decide +kernel
      exact honest_syncResponseOf (by decide +kernel) proposed
    · rw [Finmap.lookup_eq_none.mpr fun member => first ((Finmap.mem_singleton _ _ _).mp member)]
        at found
      cases found

theorem log_kept_iff_fromBoth :
    ByteLog.view.log committer.stateMachine ⊆
        ByteLog.view.log (resolveSync {} fromBoth committer).state.stateMachine ↔
      ∀ node latest, fromBoth.lookup node = some latest →
        latestResponse {} fromBoth = some latest →
          committer.engineState.currentPhase < latest.responderPhase →
            latest.stateSnapshot ≠ none →
              ByteLog.view.log committer.stateMachine ⊆
                ByteLog.view.log (asked node).stateMachine :=
  log_kept_iff ByteLog.view {} committer fromBoth asked fromBoth_honest

/-- Both answers are a quorum. The committed batch is gone once the snapshot of node 1 is
installed. -/
theorem committed_batch_lost :
    committer.engineState.quorumSize ≤ Table.size fromBoth ∧
    (∀ node response, fromBoth.lookup node = some response →
      HonestResponse (asked node) response) ∧
    ¬ ByteLog.view.log committer.stateMachine ⊆
      ByteLog.view.log (resolveSync {} fromBoth committer).state.stateMachine := by
  refine ⟨by decide +kernel, fromBoth_honest, fun kept => ?_⟩
  revert kept
  decide +kernel

end Lost

end Rabia.Engine

/-! ## What was installed is not run again -/

namespace Rabia.Run

open Rabia.Lib Rabia.Engine

variable {SM : Type} [StateMachine SM]

/-- The input is a decision that accepts `batch` for `p`. -/
def Decides (p : PhaseId) (batch : CommandBatch) (input : Env × Event) : Prop :=
  ∃ sender message m, input.2 = .message sender message ∧
    Received input.1 sender message (.decision m) ∧ m.phaseId = p ∧ m.decision = .v1 ∧
      m.batch = some batch

/-- If the input is a decision for `p`, then handling it does not run `batch`. -/
def NotReapplied (p : PhaseId) (batch : CommandBatch) (r : Run SM) (input : Env × Event) :
    Prop :=
  ∀ sender message m, input.2 = .message sender message → message.messageType = .decision m →
    m.phaseId = p → .applyBatch p batch ∉ (handle input.1 input.2 r.engine).effects

/-- The first decision that accepts `batch` for `p` finds the commit mark at `p`
or above. -/
def FirstMarked (p : PhaseId) (batch : CommandBatch) : Run SM → List (Env × Event) → Prop
  | _, [] => True
  | r, input :: inputs =>
    (Decides p batch input → p ≤ r.engine.engineState.lastCommittedPhase) ∧
      (¬ Decides p batch input → FirstMarked p batch (r.step input) inputs)

/-- Handling a decision runs a batch when, and only when, the mark lies below. -/
theorem notReapplied_iff (p : PhaseId) (batch : CommandBatch) (r : Run SM)
    (input : Env × Event) :
    NotReapplied p batch r input ↔
      (Decides p batch input → p ≤ r.engine.engineState.lastCommittedPhase) := by
  obtain ⟨env, event⟩ := input
  constructor
  · rintro spared ⟨sender, message, m, rfl, received, rfl, accepted, carried⟩
    -- below the phase the guard lets the batch through
    by_contra below
    refine spared sender message m rfl received.payload rfl ?_
    have runs := decisionBatch_eq_some.mpr ⟨⟨accepted, Nat.not_le.mp below⟩, carried⟩
    rw [handle_of_received received]
    show _ ∈ (handleDecision env sender m r.engine).effects
    rw [handleDecision_apply, runs]
    dsimp only
    rw [(lands_applyAndCommit _ _ _ _).1]
    exact List.mem_singleton.mpr rfl
  · rintro covered sender message m rfl payload rfl applied
    by_cases received : Received env sender message message.messageType
    · rw [payload] at received
      rw [handle_of_received received] at applied
      change _ ∈ (handleDecision env sender m r.engine).effects at applied
      rw [handleDecision_apply] at applied
      cases runs : decisionBatch r.engine m with
      | none =>
          rw [runs] at applied
          cases applied
      | some other =>
          rw [runs] at applied
          dsimp only at applied
          rw [(lands_applyAndCommit _ _ _ _).1] at applied
          cases List.mem_singleton.mp applied
          obtain ⟨⟨accepted, above⟩, carried⟩ := decisionBatch_eq_some.mp runs
          have behind := covered ⟨sender, message, m, rfl, received, rfl, accepted, carried⟩
          exact absurd above (Nat.not_lt.mpr behind)
    · rw [(handle_of_not_received received r.engine).2] at applied
      cases applied

/-- Once the mark covers `p`, no decision for `p` runs its batch. -/
theorem along_of_marked {p : PhaseId} {batch : CommandBatch} {r : Run SM}
    {inputs : List (Env × Event)} (marked : p ≤ r.engine.engineState.lastCommittedPhase) :
    Along step (NotReapplied p batch) r inputs := by
  induction inputs generalizing r with
  | nil => trivial
  | cons input inputs ih =>
      refine ⟨(notReapplied_iff p batch r input).mpr fun _ => marked, ih ?_⟩
      exact Nat.le_trans marked (mark_le_handle input.1 input.2 r.engine)

theorem along_iff_firstMarked {p : PhaseId} {batch : CommandBatch} {r : Run SM}
    {inputs : List (Env × Event)} :
    Along step (NotReapplied p batch) r inputs ↔ FirstMarked p batch r inputs := by
  induction inputs generalizing r with
  | nil => exact Iff.rfl
  | cons input inputs ih =>
      constructor
      · rintro ⟨first, rest⟩
        exact ⟨(notReapplied_iff p batch r input).mp first, fun _ => ih.mp rest⟩
      · rintro ⟨first, rest⟩
        refine ⟨(notReapplied_iff p batch r input).mpr first, ?_⟩
        by_cases decides : Decides p batch input
        · -- the mark covers `p` already, and it never falls
          exact along_of_marked
            (Nat.le_trans (first decides) (mark_le_handle input.1 input.2 r.engine))
        · exact ih.mpr (rest decides)

/-- The input completes a sync round that installs a snapshot of a state machine
which had run `batch`. -/
def Installs {ε : Type} (view : LogView SM ε) (e : RabiaEngine SM) (input : Env × Event)
    (batch : CommandBatch) : Prop :=
  ∃ sender message response snapshot, ∃ source : SM,
    input.2 = .message sender message ∧
    Received input.1 sender message (.syncResponse response) ∧
    e.engineState.quorumSize ≤
      Table.size (e.engineState.syncResponses.insert sender response) ∧
    adoptedSnapshot input.1 e (e.engineState.syncResponses.insert sender response) =
      some snapshot ∧
    StateMachine.createSnapshot source = .ok snapshot ∧
    view.batchEntries batch ⊆ view.log source

/-- An installed batch is in the log, and the mark is where it was. -/
theorem installs_spec {ε : Type} {view : LogView SM ε} {r : Run SM} {input : Env × Event}
    {batch : CommandBatch} (installs : Installs view r.engine input batch) :
    view.batchEntries batch ⊆ view.log (r.step input).engine.stateMachine ∧
      SameMark r.engine (r.step input).engine := by
  obtain ⟨sender, message, response, snapshot, source, event, received, quorum, adopted, taken,
    included⟩ := installs
  obtain ⟨env, event'⟩ := input
  cases event
  have handled : (r.step (env, .message sender message)).engine =
      (handleSyncResponse env sender response r.engine).state := by
    rw [step_engine]
    dsimp only
    rw [handle_of_received received]
    rfl
  rw [handled]
  refine ⟨?_, (within_handleSyncResponse env sender response r.engine).state.lastCommittedPhase⟩
  have installed := resolveSync_stateMachine env
    (r.engine.mapState (EngineState.addSyncResponse sender response))
    (r.engine.engineState.syncResponses.insert sender response)
  have chosen : adoptedSnapshot env
      (r.engine.mapState (EngineState.addSyncResponse sender response))
      (r.engine.engineState.syncResponses.insert sender response) = some snapshot := adopted
  rw [chosen] at installed
  rw [handleSyncResponse_of_quorum env sender response quorum, installed]
  dsimp only
  rw [(view.restored taken _).2]
  exact included

/-- A sync that installs a batch leaves the commit mark where it is. The batch is
not run again by a later decision for its phase exactly when the first of these
finds the mark at that phase or above. -/
theorem not_reapplied_after_sync_iff {ε : Type} (view : LogView SM ε) (e : RabiaEngine SM)
    (before : List (Env × Event)) (sync : Env × Event) (after : List (Env × Event))
    (p : PhaseId) (batch : CommandBatch)
    (installs : Installs view (run step (start e) before).engine sync batch) :
    (view.batchEntries batch ⊆
        view.log (run step (start e) (before ++ [sync])).engine.stateMachine ∧
      SameMark (run step (start e) before).engine
        (run step (start e) (before ++ [sync])).engine) ∧
    (Along step (NotReapplied p batch) (run step (start e) (before ++ [sync])) after ↔
      FirstMarked p batch (run step (start e) (before ++ [sync])) after) := by
  rw [run_append]
  exact ⟨installs_spec installs, along_iff_firstMarked⟩

section Reexecuted

/-- Node 1, which proposed a batch for phase 1 and committed it. -/
def ahead : RabiaEngine ByteLog :=
  (run step (start (threeNodes 1))
    [({}, .command (.processBatch ⟨writing 65, 0⟩)),
      ({}, .message ⟨2⟩ (ProtocolMessage.decision ⟨2⟩ 0 (accepting 1 65)))]).engine

/-- A response that reaches node 0. -/
def responding (node : Nat) (response : SyncResponseMessage) : Env × Event :=
  ({}, .message ⟨node⟩ (ProtocolMessage.syncResponse ⟨node⟩ ⟨0⟩ 0 response))

/-- Node 2 has seen nothing and answers first; node 1 completes the quorum. -/
def firstResponse : Env × Event := responding 2 (syncResponseOf (threeNodes 2) none)

def lastResponse : Env × Event := responding 1 (syncResponseOf ahead (some ⟨1, [65], 0⟩))

/-- The decision for phase 1 comes late. -/
def lateDecision : Env × Event :=
  ({}, .message ⟨1⟩ (ProtocolMessage.decision ⟨1⟩ 0 (accepting 1 65)))

theorem lastResponse_installs :
    Installs ByteLog.view (run step (start (threeNodes 0)) [firstResponse]).engine lastResponse
      (writing 65) := by
  refine ⟨⟨1⟩, _, syncResponseOf ahead (some ⟨1, [65], 0⟩), ⟨1, [65], 0⟩, ahead.stateMachine, rfl,
    ⟨by decide +kernel, rfl, rfl⟩, by decide +kernel, by decide +kernel, by decide +kernel,
    by decide +kernel⟩

theorem not_reapplied_after_sync_iff_late :
    (ByteLog.view.batchEntries (writing 65) ⊆ ByteLog.view.log
        (run step (start (threeNodes 0)) ([firstResponse] ++ [lastResponse])).engine.stateMachine ∧
      SameMark (run step (start (threeNodes 0)) [firstResponse]).engine
        (run step (start (threeNodes 0)) ([firstResponse] ++ [lastResponse])).engine) ∧
    (Along step (NotReapplied 1 (writing 65))
        (run step (start (threeNodes 0)) ([firstResponse] ++ [lastResponse])) [lateDecision] ↔
      FirstMarked 1 (writing 65)
        (run step (start (threeNodes 0)) ([firstResponse] ++ [lastResponse])) [lateDecision]) :=
  not_reapplied_after_sync_iff ByteLog.view (threeNodes 0) [firstResponse] lastResponse
    [lateDecision] 1 (writing 65) lastResponse_installs

/-- The installed batch runs a second time. -/
theorem reapplied_after_sync :
    Installs ByteLog.view (run step (start (threeNodes 0)) [firstResponse]).engine lastResponse
        (writing 65) ∧
      ¬ Along step (NotReapplied 1 (writing 65))
        (run step (start (threeNodes 0)) ([firstResponse] ++ [lastResponse])) [lateDecision] := by
  refine ⟨lastResponse_installs, fun spared => ?_⟩
  rw [along_iff_firstMarked] at spared
  have covered := spared.1
    ⟨⟨1⟩, _, accepting 1 65, rfl, ⟨by decide +kernel, rfl, rfl⟩, rfl, rfl, rfl⟩
  revert covered
  decide +kernel

end Reexecuted

end Rabia.Run
