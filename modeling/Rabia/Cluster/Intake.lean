import Rabia.Cluster.Integrity

/-!
# What an engine takes in

An engine passes on what it took in: batches that clients submitted or that messages brought,
snapshots of state machines. `Stocked` says that all it holds is good, in its state machine,
in its records, in the responses that it keeps and in what it has persisted. A good event leaves
it so, and what the engine then sends is good (`Stocked.handle`).

The result is about one engine and one event. It does not ask what the engine did before, and
so holds of an engine that was started again as of any other.
-/

namespace Rabia

open Rabia.Lib Rabia.Lib.Proc Engine

variable {SM : Type} [StateMachine SM] {C : CommandBatch → Prop} {J : SM → Prop}

/-- The batch that an utterance brings. -/
def Utterance.batch : Utterance → Option CommandBatch
  | .proposal _ _ batch | .decision _ _ batch => batch
  | .applied _ batch => some batch
  | .round1 _ _ | .round2 _ _ | .decided _ _ => none

/-- The snapshot is one of a state machine with `J`. -/
def Snapshot.From (J : SM → Prop) (snapshot : Snapshot) : Prop :=
  ∃ source, J source ∧ StateMachine.createSnapshot source = .ok snapshot

/-- A message brings batches that meet `C` and snapshots of machines with `J`. -/
structure MessageType.Good (C : CommandBatch → Prop) (J : SM → Prop) (payload : MessageType) :
    Prop where
  batch : ∀ u batch, payload.utterance = some u → u.batch = some batch → C batch
  response : ∀ response, payload.response = some response → response.From J

/-- What an effect runs or sends is good. -/
structure Effect.Good (C : CommandBatch → Prop) (J : SM → Prop) (x : Effect) : Prop where
  batch : ∀ u batch, x.utterance = some u → u.batch = some batch → C batch
  response : ∀ response, x.syncResponse = some response → response.From J

/-- What an event brings is good. -/
structure Event.Good (C : CommandBatch → Prop) (J : SM → Prop) (event : Event) : Prop where
  message : ∀ sender message, event = .message sender message → message.messageType.Good C J
  submits : event.Submits C

/-- A message in flight brings what its sender sent. -/
theorem Effect.Good.packet {x : Effect} (good : x.Good C J) {members : List NodeId}
    {node : NodeId} {packet : Packet} (among : packet ∈ x.packets members node) :
    packet.message.messageType.Good C J := by
  cases x with
  | sendTo target message =>
      cases List.mem_singleton.mp among
      exact ⟨good.batch, good.response⟩
  | broadcast message =>
      obtain ⟨other, -, rfl⟩ := List.mem_map.mp among
      exact ⟨good.batch, good.response⟩
  | decide _ _ | applyBatch _ _ | respond _ _ | statistics _ _ => cases among

/-! ## The state machine and what is persisted -/

/-- The state machine has `J`, and a persisted snapshot is one of a machine with `J`. -/
structure RabiaEngine.Restorable (J : SM → Prop) (e : RabiaEngine SM) : Prop where
  machine : J e.stateMachine
  saved : ∀ persisted snapshot, e.persistence = some persisted →
    persisted.snapshot = some snapshot → snapshot.From J

theorem Upheld.restorable_copied (upheld : Upheld C J) :
    Copied (RabiaEngine.Restorable J) (SyncResponseMessage.From J) where
  apart _ _ ok := ⟨ok.machine, ok.saved⟩
  answer e _ ok taken snapshot attached := ⟨e.stateMachine, ok.machine, taken snapshot attached⟩
  moved _ _ ok _ _ := ⟨ok.machine, ok.saved⟩
  restored e latest snapshot ok good attached := by
    obtain ⟨source, held, made⟩ := good snapshot attached
    exact ⟨upheld.restores _ source snapshot ok.machine held made, ok.saved⟩

namespace Engine

/-- An engine that could be restored still can be, if the batches that it ran meet `C`. -/
def StaysRestorable (C : CommandBatch → Prop) (J : SM → Prop) (e : RabiaEngine SM)
    (w : List Effect) (e' : RabiaEngine SM) : Prop :=
  e.Restorable J → (∀ x ∈ w, ∀ batch, x.batch = some batch → C batch) → e'.Restorable J

theorem steps_staysRestorable (upheld : Upheld C J) : Steps (StaysRestorable C J) where
  nil _ ok _ := ok
  append h h' ok ran :=
    h' (h ok fun x hx => ran x (List.mem_append_left _ hx))
      fun x hx => ran x (List.mem_append_right _ hx)
  mutate _ _ ok _ := ⟨ok.machine, ok.saved⟩
  run p batch e ok ran :=
    ⟨upheld.runs e.stateMachine batch ok.machine (ran _ List.mem_cons_self batch rfl), ok.saved⟩
  commit _ _ ok _ := ⟨ok.machine, ok.saved⟩
  save persisted e saves ok _ := by
    refine ⟨ok.machine, fun persisted' snapshot written attached => ?_⟩
    obtain ⟨taken, made, rfl⟩ := saves
    cases written
    cases attached
    exact ⟨e.stateMachine, ok.machine, made⟩
  follow _ _ ok _ := ⟨ok.machine, ok.saved⟩
  emit _ _ _ ok _ := ok

end Engine

/-! ## All that an engine holds -/

/-- All that the engine holds is good. -/
structure Stocked (C : CommandBatch → Prop) (J : SM → Prop) (e : RabiaEngine SM) : Prop
    extends e.Restorable J where
  recorded : ∀ p phase batch, e.getPhase p = some phase → phase.batch = some batch → C batch
  stored : ∀ j response, e.engineState.syncResponses.lookup j = some response → response.From J

section Handle

variable {e : RabiaEngine SM} {env : Env} {event : Event}

/-- A batch in a received message is good. -/
theorem Event.Good.received (good : event.Good C J) {sender : NodeId} {message : ProtocolMessage}
    {payload : MessageType} (same : event = .message sender message)
    (received : Received env sender message payload) : payload.Good C J :=
  received.payload ▸ good.message sender message same

/-- Every batch that the engine proposes, announces or runs is good. -/
theorem Stocked.said (stocked : Stocked C J e) (good : event.Good C J) {u : Utterance}
    (reason : Reason env e event u) {batch : CommandBatch} (brings : u.batch = some batch) :
    C batch := by
  cases reason with
  | proposal quorum =>
      cases brings
      exact good.submits _ rfl
  | round1 received quorum | round2 received present reached
  | decided received present majority => cases brings
  | decision received present majority => exact stocked.recorded _ _ batch present brings
  | executed received present majority attached =>
      cases brings
      exact stocked.recorded _ _ batch present attached
  | adopted received accepted carried above =>
      cases brings
      exact (good.received rfl received).batch _ batch rfl carried

/-- Every batch on record is good. -/
theorem Stocked.revised (stocked : Stocked C J e) (good : event.Good C J) {p : PhaseId}
    {phase : PhaseData} {batch : CommandBatch}
    (present : (handle env event e).state.getPhase p = some phase)
    (recorded : phase.batch = some batch) : C batch := by
  have deed := deed_of_handle env event e
  rcases (revision_of_deed deed present).batch recorded with
    ⟨phase', before, held⟩ | ⟨sender, message, m, same, received, -, carried⟩ |
      ⟨sender, message, m, same, received, -, carried⟩ | ⟨x, hx, uttered⟩
  · exact stocked.recorded p phase' batch before held
  · exact (good.received same received).batch _ batch rfl carried
  · exact (good.received same received).batch _ batch rfl carried
  · exact stocked.said good (reason_of_deed deed hx uttered) rfl

/-- After a good event all that the engine holds is good, and so is what it ran and sent. -/
theorem Stocked.handle (upheld : Upheld C J) (stocked : Stocked C J e) (env : Env)
    (good : event.Good C J) : Stocked C J (handle env event e).state ∧
      ∀ x ∈ (handle env event e).effects, x.Good C J := by
  have said : ∀ x ∈ (Engine.handle env event e).effects, ∀ u batch, x.utterance = some u →
      u.batch = some batch → C batch := fun x hx u batch uttered brings =>
    stocked.said good (reason_of_deed (deed_of_handle env event e) hx uttered) brings
  have rest : (Engine.handle env event e).state.Restorable J ∧
      (∀ j response, (Engine.handle env event e).state.engineState.syncResponses.lookup j =
        some response → response.From J) ∧
      ∀ x ∈ (Engine.handle env event e).effects, ∀ response,
        x.syncResponse = some response → response.From J := by
    by_cases syncs : event.Syncs env
    · exact upheld.restorable_copied.synced stocked.toRestorable stocked.stored
        (fun sender message m same received => (good.received same received).response m rfl)
        (synced_handle env syncs e)
    · have quiet := quiet_handle env syncs e
      refine ⟨?_, fun j response found => ?_, fun x hx response sent => ?_⟩
      · refine (steps_staysRestorable upheld).handle env syncs (fun _ _ ok _ => ⟨ok.1, ok.2⟩)
          stocked.toRestorable fun x hx batch ran => ?_
        cases x with
        | applyBatch p batch' =>
            cases ran
            exact said _ hx _ batch rfl rfl
        | sendTo _ _ | broadcast _ | decide _ _ | respond _ _ | statistics _ _ => cases ran
      · rw [quiet.stored] at found
        exact stocked.stored j response found
      · cases (quiet.silent x hx).symm.trans sent
  refine ⟨⟨rest.1, fun p phase batch => stocked.revised good, rest.2.1⟩, fun x hx => ?_⟩
  exact ⟨said x hx, rest.2.2 x hx⟩

end Handle

end Rabia
