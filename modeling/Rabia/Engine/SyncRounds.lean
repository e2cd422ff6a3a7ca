import Rabia.Engine.Mutators
import Rabia.Engine.Sync

/-!
# Rounds of synchronisation

`resolve_sync` moves the phase before the snapshot is tried, and the phase stays moved when
the state machine refuses it (`failsUnchanged_iff`).

A response does not name the round whose request it answers, and starting a round does not
clear what is stored of the last one. A round resolves on answers to its own requests as
long as no answer comes late and no round starts before the last one is resolved
(`rounds_resolve_fresh`).
-/

namespace Rabia

open Rabia.Lib Rabia.Lib.Proc

namespace Engine

variable {SM : Type} [StateMachine SM]

/-! ## Failed rounds -/

/-- If `resolve_sync` fails, the counters and the state machine are as before it. -/
def FailsUnchanged (env : Env) (e : RabiaEngine SM)
    (responses : Table NodeId SyncResponseMessage) : Prop :=
  ∀ err, (resolveSync env responses e).result = .error err →
    (resolveSync env responses e).state.engineState.currentPhase = e.engineState.currentPhase ∧
      (resolveSync env responses e).state.engineState.lastCommittedPhase =
        e.engineState.lastCommittedPhase ∧
      (resolveSync env responses e).state.stateMachine = e.stateMachine

/-- A failed `resolve_sync` leaves the counters and the state machine alone exactly when it
does not fail at all: when the state machine accepts the snapshot of the chosen response. -/
theorem failsUnchanged_iff (env : Env) (e : RabiaEngine SM)
    (responses : Table NodeId SyncResponseMessage) :
    FailsUnchanged env e responses ↔
      ∀ latest snapshot, latestResponse env responses = some latest →
        e.engineState.currentPhase < latest.responderPhase →
          latest.stateSnapshot = some snapshot →
            (StateMachine.restoreSnapshot e.stateMachine snapshot).1 = .ok () := by
  have resolution := resolveSync_cases env responses e
  unfold FailsUnchanged
  generalize resolveSync env responses e = outcome at resolution ⊢
  constructor
  · intro unchanged latest snapshot chosen ahead attached
    have found := aheadResponse_eq_some.mpr ⟨chosen, ahead⟩
    cases resolution with
    | level none => rw [none] at found; cases found
    | moved found' bare =>
        cases Option.some.inj (found'.symm.trans found)
        rw [bare] at attached
        cases attached
    | restored found' attached' tried =>
        cases Option.some.inj (found'.symm.trans found)
        cases Option.some.inj (attached'.symm.trans attached)
        rw [tried]
    | refused found' attached' tried =>
        cases Option.some.inj (found'.symm.trans found)
        -- the phase was stored before the snapshot was tried
        have same : latest.responderPhase = e.engineState.currentPhase := (unchanged _ rfl).1
        exact absurd same (Nat.ne_of_gt ahead)
  · intro accepted err failed
    cases resolution with
    | level | moved | restored => cases failed
    | refused found attached tried =>
        obtain ⟨chosen, ahead⟩ := aheadResponse_eq_some.mp found
        have accepts := accepted _ _ chosen ahead attached
        rw [tried] at accepts
        cases accepts

section Refused

/-- A log whose snapshots carry a checksum, which restoring one verifies. -/
structure CheckedLog where
  bytes : Bytes
deriving DecidableEq, Repr

/-- A checksum of 32 bits. -/
def checksum (data : Bytes) : Nat :=
  data.foldl (fun sum byte => (sum + byte.toNat) % 2 ^ 32) 0

instance : StateMachine CheckedLog where
  applyCommand sm command := (.ok command.data, ⟨sm.bytes ++ command.data⟩)
  createSnapshot sm := .ok ⟨sm.bytes.length, sm.bytes, checksum sm.bytes⟩
  restoreSnapshot sm snapshot :=
    if snapshot.checksum = checksum snapshot.data then (.ok (), ⟨snapshot.data⟩)
    else (.error (.checksumMismatch snapshot.checksum (checksum snapshot.data)), sm)

/-- Node 0, new. -/
def newcomer : RabiaEngine CheckedLog :=
  RabiaEngine.new ⟨0⟩ ⟨10⟩ (ClusterConfig.new ⟨0⟩ {⟨0⟩, ⟨1⟩, ⟨2⟩}) ⟨[]⟩ none

/-- A round of two answers. Node `ahead` is in phase 1 and sends `snapshot`, the other node
is new as well. -/
def answersOf (ahead level : NodeId) (snapshot : Snapshot) : Table NodeId SyncResponseMessage :=
  Finmap.insert level ⟨0, 1, none, [], []⟩
    (Finmap.singleton ahead ⟨1, 4, some snapshot, [], []⟩)

/-- The snapshot of node 1 has lost its checksum. The phase is moved all the same, and the
intact snapshot that node 2 sends in the next round is not adopted any more. -/
theorem damaged_snapshot_moves_phase :
    ¬ FailsUnchanged {} newcomer (answersOf ⟨1⟩ ⟨2⟩ ⟨1, [65], 0⟩) ∧
      adoptedSnapshot {} newcomer (answersOf ⟨2⟩ ⟨1⟩ ⟨1, [65], 65⟩) = some ⟨1, [65], 65⟩ ∧
      adoptedSnapshot {} (resolveSync {} (answersOf ⟨1⟩ ⟨2⟩ ⟨1, [65], 0⟩) newcomer).state
        (answersOf ⟨2⟩ ⟨1⟩ ⟨1, [65], 65⟩) = none := by
  refine ⟨fun unchanged => ?_, by decide +kernel, by decide +kernel⟩
  have same := (unchanged (.checksumMismatch 0 65) (by decide +kernel)).1
  revert same
  decide +kernel

end Refused

/-- After a failure the phase is that of the refused response, and a later round adopts
nothing from responders that are at that phase or below. -/
theorem failed_round_blocks {env : Env} {e : RabiaEngine SM}
    {responses : Table NodeId SyncResponseMessage} {err : RabiaError}
    (failed : (resolveSync env responses e).result = .error err) :
    ∃ latest, latestResponse env responses = some latest ∧
      e.engineState.currentPhase < latest.responderPhase ∧
      ∀ env' responses',
        (∀ node response, responses'.lookup node = some response →
          response.responderPhase ≤ latest.responderPhase) →
        adoptedSnapshot env' (resolveSync env responses e).state responses' = none := by
  have resolution := resolveSync_cases env responses e
  generalize resolveSync env responses e = outcome at resolution failed ⊢
  cases resolution with
  | level | moved | restored => cases failed
  | @refused latest snapshot err sm found attached tried =>
      obtain ⟨chosen, ahead⟩ := aheadResponse_eq_some.mp found
      refine ⟨latest, chosen, ahead, ?_⟩
      intro env' responses' level
      cases adopted : adoptedSnapshot env' (movedTo latest.responderPhase sm e) responses' with
      | none => rfl
      | some snapshot =>
          obtain ⟨latest', chosen', ahead', -⟩ := adoptedSnapshot_eq_some adopted
          obtain ⟨node, present⟩ := latestResponse_lookup chosen'
          have below := level node latest' present
          exact absurd below (Nat.not_le.mpr ahead')

/-! ## What becomes of the stored responses -/

/-- A received response is stored, or all responses are cleared. -/
theorem handleSyncResponse_syncResponses (env : Env) (sender : NodeId)
    (response : SyncResponseMessage) (e : RabiaEngine SM) :
    (handleSyncResponse env sender response e).state.engineState.syncResponses =
        e.engineState.syncResponses.insert sender response ∨
      (handleSyncResponse env sender response e).state.engineState.syncResponses = ∅ := by
  let stored := e.mapState (EngineState.addSyncResponse sender response)
  by_cases quorum : e.engineState.quorumSize ≤
      Table.size (e.engineState.syncResponses.insert sender response)
  · rw [handleSyncResponse_of_quorum env sender response quorum]
    have resolution := resolveSync_cases env
      (e.engineState.syncResponses.insert sender response) stored
    generalize resolveSync env _ stored = outcome at resolution ⊢
    cases resolution with
    | level | moved | restored => exact Or.inr rfl
    | refused => exact Or.inl rfl
  · rw [handleSyncResponse_of_no_quorum env sender response quorum]
    exact Or.inl rfl

/-- The responses stay, whatever is done to the rest of the state. -/
def SameResponses (_ : Nat) (st st' : EngineState) : Prop :=
  st'.syncResponses = st.syncResponses

theorem respected_sameResponses : Respected SameResponses where
  nil _ := rfl
  append h h' := h'.trans h
  mono _ h := h
  advancePhase _ := rfl
  commitPhase p st := by
    unfold EngineState.commitPhase
    split_ifs <;> rfl
  setActive active st := by
    unfold EngineState.setActive
    split_ifs <;> rfl
  updateActiveNodes nodes st := by
    unfold EngineState.updateActiveNodes EngineState.setQuorum EngineState.setActive
    dsimp only
    split_ifs <;> rfl
  addPendingBatch _ _ _ _ := rfl
  removePendingBatch batchId st := by
    unfold EngineState.removePendingBatch
    split <;> rfl
  getOrCreatePhase p now st := by
    unfold EngineState.getOrCreatePhase
    split <;> rfl
  updatePhase p f st := by
    unfold EngineState.updatePhase
    split <;> rfl
  cleanupOldPhases maxPhaseHistory now st := by
    unfold EngineState.cleanupOldPhases
    dsimp only
    split_ifs <;> rfl
  cleanupOldPendingBatches maxAgeSecs now st := by
    unfold EngineState.cleanupOldPendingBatches
    dsimp only
    split_ifs <;> rfl

end Engine

/-! ## Runs of rounds -/

/-- An engine with the number of rounds it initiated, and for every node the round whose
request its last response answered. -/
structure SyncRun (SM : Type) where
  engine : RabiaEngine SM
  round : Nat
  repliesTo : NodeId → Nat

/-- An input of the run loop. If it is a sync response, it answers the request of a round,
which the message itself does not say. -/
structure SyncInput where
  env : Env
  event : Event
  replyTo : Nat

namespace SyncRun

open Engine

variable {SM : Type} [StateMachine SM]

/-- An engine that has not initiated any round. -/
def start (e : RabiaEngine SM) : SyncRun SM := ⟨e, 0, fun _ => 0⟩

/-- One input. -/
def step (s : SyncRun SM) (input : SyncInput) : SyncRun SM where
  engine := (handle input.env input.event s.engine).state
  round := if input.event = .command .triggerSync then s.round + 1 else s.round
  repliesTo :=
    match arrival input.env input.event with
    | some (sender, .syncResponse _) => Function.update s.repliesTo sender input.replyTo
    | _ => s.repliesTo

/-- If the input makes `handle_sync_response` call `resolve_sync`, then a quorum of nodes
answered the latest round, and no response is left over from an earlier one. -/
def ResolvesFresh (s : SyncRun SM) (input : SyncInput) : Prop :=
  ∀ sender response, arrival input.env input.event = some (sender, .syncResponse response) →
    let responses := s.engine.engineState.syncResponses.insert sender response
    s.engine.engineState.quorumSize ≤ Table.size responses →
      s.engine.engineState.quorumSize ≤
          (responses.keys.filter fun node => (s.step input).repliesTo node = s.round).card ∧
        ∀ node ∈ responses, (s.step input).repliesTo node = s.round

/-- A response that arrives answers the latest round, and a round is initiated only when no
response is stored. -/
def Prompt (s : SyncRun SM) (input : SyncInput) : Prop :=
  (∀ sender response, arrival input.env input.event = some (sender, .syncResponse response) →
    input.replyTo = s.round) ∧
  (input.event = .command .triggerSync → s.engine.engineState.syncResponses = ∅)

/-- Every stored response answers the latest round. -/
def Fresh (s : SyncRun SM) : Prop :=
  ∀ node ∈ s.engine.engineState.syncResponses, s.repliesTo node = s.round

theorem step_repliesTo {s : SyncRun SM} {input : SyncInput} {sender : NodeId}
    {response : SyncResponseMessage}
    (arrived : arrival input.env input.event = some (sender, .syncResponse response)) :
    (s.step input).repliesTo = Function.update s.repliesTo sender input.replyTo := by
  unfold step
  simp only [arrived]

/-- With what arrives, every response answers the latest round. -/
theorem fresh_insert {s : SyncRun SM} {input : SyncInput} (fresh : Fresh s)
    (prompt : Prompt s input) {sender : NodeId} {response : SyncResponseMessage}
    (arrived : arrival input.env input.event = some (sender, .syncResponse response)) :
    ∀ node ∈ s.engine.engineState.syncResponses.insert sender response,
      (s.step input).repliesTo node = s.round := by
  intro node stored
  rw [step_repliesTo arrived]
  by_cases same : node = sender
  · rw [same, Function.update_self]
    exact prompt.1 sender response arrived
  · rw [Function.update_of_ne same]
    rcases Finmap.mem_insert.mp stored with equal | present
    · exact absurd equal same
    · exact fresh node present

theorem step_fresh (s : SyncRun SM) (input : SyncInput) (fresh : Fresh s)
    (prompt : Prompt s input) : Fresh (s.step input) := by
  by_cases arrives : ∃ (sender : NodeId) (response : SyncResponseMessage),
      arrival input.env input.event = some (sender, .syncResponse response)
  · obtain ⟨sender, response, arrived⟩ := arrives
    obtain ⟨message, isMessage, received⟩ := received_of_arrival arrived
    have notTrigger : input.event ≠ .command .triggerSync := by
      rw [isMessage]
      rintro ⟨⟩
    have round : (s.step input).round = s.round := if_neg notTrigger
    have engine : (s.step input).engine =
        (handleSyncResponse input.env sender response s.engine).state := by
      unfold step
      rw [isMessage, handle_of_received received]
      rfl
    intro node stored
    rw [engine] at stored
    rw [round]
    rcases handleSyncResponse_syncResponses input.env sender response s.engine with kept | cleared
    · rw [kept] at stored
      exact fresh_insert fresh prompt arrived node stored
    · rw [cleared] at stored
      exact absurd stored Finmap.notMem_empty
  · have other : ∀ sender m, arrival input.env input.event ≠ some (sender, .syncResponse m) :=
      fun sender m arrived => arrives ⟨sender, m, arrived⟩
    have same : (s.step input).engine.engineState.syncResponses =
        s.engine.engineState.syncResponses :=
      respected_handle respected_sameResponses input.env other s.engine
    have tags : (s.step input).repliesTo = s.repliesTo := by
      unfold step
      dsimp only
      split
      · next arrived => exact absurd arrived (other _ _)
      · rfl
    intro node stored
    rw [same] at stored
    rw [tags]
    by_cases initiates : input.event = .command .triggerSync
    · rw [prompt.2 initiates] at stored
      exact absurd stored Finmap.notMem_empty
    · have round : (s.step input).round = s.round := if_neg initiates
      rw [round]
      exact fresh node stored

theorem resolvesFresh_of_fresh {s : SyncRun SM} (fresh : Fresh s) (input : SyncInput)
    (prompt : Prompt s input) : ResolvesFresh s input := by
  intro sender response arrived responses quorum
  have all := fresh_insert fresh prompt arrived
  refine ⟨?_, all⟩
  rw [Finset.filter_true_of_mem fun node stored => all node (Finmap.mem_keys.mp stored)]
  exact quorum

/-- Every round resolves on answers to its own requests, as long as no answer comes late and
no round starts while responses are stored. -/
theorem rounds_resolve_fresh {e : RabiaEngine SM} (empty : e.engineState.syncResponses = ∅)
    {inputs : List SyncInput} (prompt : Along step Prompt (start e) inputs) :
    Along step ResolvesFresh (start e) inputs := by
  have fresh : Fresh (start e) := by
    intro node stored
    rw [show (start e).engine.engineState.syncResponses = ∅ from empty] at stored
    exact absurd stored Finmap.notMem_empty
  exact along_of_invariant step_fresh (fun s input fresh prompt =>
    resolvesFresh_of_fresh fresh input prompt) fresh prompt

section Overlap

/-- The answer of a node in phase 0. -/
def answer (node replyTo : Nat) : SyncInput where
  env := {}
  event := .message ⟨node⟩ (ProtocolMessage.syncResponse ⟨node⟩ ⟨0⟩ 0 ⟨0, 1, none, [], []⟩)
  replyTo := replyTo

/-- Node 0 initiates a round. -/
def initiate : SyncInput := ⟨{}, .command .triggerSync, 0⟩

/-- Node 0, connected to the nodes 1 and 2. -/
def connected : RabiaEngine ByteLog :=
  (threeNodes 0).mapState (EngineState.updateActiveNodes {⟨0⟩, ⟨1⟩, ⟨2⟩})

theorem prompt_initiate {s : SyncRun ByteLog} (empty : s.engine.engineState.syncResponses = ∅) :
    Prompt s initiate := by
  refine ⟨fun sender response arrived => ?_, fun _ => empty⟩
  cases arrived

theorem prompt_answer {s : SyncRun ByteLog} (node : Nat) {replyTo : Nat}
    (latest : replyTo = s.round) : Prompt s (answer node replyTo) := by
  refine ⟨fun _ _ _ => latest, ?_⟩
  rintro ⟨⟩

/-- Two rounds, the second initiated when the first is resolved. -/
def twoRounds : List SyncInput :=
  [initiate, answer 1 1, answer 2 1, initiate, answer 1 2, answer 2 2]

theorem rounds_resolve_fresh_twoRounds :
    Along step ResolvesFresh (start connected) twoRounds :=
  rounds_resolve_fresh (by decide +kernel)
    ⟨prompt_initiate (by decide +kernel), prompt_answer 1 rfl, prompt_answer 2 rfl,
      prompt_initiate (by decide +kernel), prompt_answer 1 rfl, prompt_answer 2 rfl, trivial⟩

/-- Node 1 answers the first round; node 2 does so only when asked again. The second round
resolves on the old answer of node 1. -/
theorem overlapping_rounds :
    ¬ Along step ResolvesFresh (start connected) [initiate, answer 1 1, initiate, answer 2 2] := by
  rintro ⟨-, -, -, stale, -⟩
  have bad := (stale ⟨2⟩ ⟨0, 1, none, [], []⟩ (by decide +kernel) (by decide +kernel)).2 ⟨1⟩
    (by decide +kernel)
  revert bad
  decide +kernel

end Overlap

end SyncRun

end Rabia
