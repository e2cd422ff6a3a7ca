import Rabia.Cluster.Traced
import Rabia.Engine.Sync
import Rabia.Engine.Walk

/-!
# What synchronisations carry around

A synchronisation copies a phase and a snapshot from one engine to another. A property `Ok`
of engines that the copying keeps, with a property `Good` of the responses that carry the
copies (`Carried`), is a property of the whole cluster as soon as the other events keep it
(`circulating_act`).
-/

namespace Rabia

open Rabia.Lib Rabia.Lib.Proc Engine

variable {SM : Type} [StateMachine SM]

/-- The engine with these sync responses stored. -/
def RabiaEngine.withResponses (responses : Table NodeId SyncResponseMessage)
    (e : RabiaEngine SM) : RabiaEngine SM :=
  e.mapState fun st => { st with syncResponses := responses }

/-- `Good` responses come from engines that are `Ok`, and keep an engine `Ok` that takes
over what they bring. -/
structure Copied (Ok : RabiaEngine SM → Prop) (Good : SyncResponseMessage → Prop) : Prop where
  apart : ∀ responses e, Ok e → Ok (e.withResponses responses)
  answer : ∀ e snapshot, Ok e →
    (∀ taken, snapshot = some taken → StateMachine.createSnapshot e.stateMachine = .ok taken) →
    Good (syncResponseOf e snapshot)
  moved : ∀ e latest, Ok e → Good latest → latest.stateSnapshot = none →
    Ok (movedTo latest.responderPhase e.stateMachine e)
  restored : ∀ e latest snapshot, Ok e → Good latest → latest.stateSnapshot = some snapshot →
    Ok (movedTo latest.responderPhase (StateMachine.restoreSnapshot e.stateMachine snapshot).2 e)

/-! ## Events that are not about a synchronisation -/

namespace Engine

/-- No response was sent, and the stored ones stayed. -/
structure Quiet (e : RabiaEngine SM) (w : List Effect) (e' : RabiaEngine SM) : Prop where
  stored : e'.engineState.syncResponses = e.engineState.syncResponses
  silent : ∀ x ∈ w, x.syncResponse = none

omit [StateMachine SM] in
theorem syncResponses_of_mutator {f : EngineState → EngineState} (mutator : EngineState.Mutator f)
    (st : EngineState) : (f st).syncResponses = st.syncResponses := by
  cases mutator with
  | setActive active =>
      unfold EngineState.setActive
      split_ifs <;> rfl
  | updateActiveNodes nodes =>
      unfold EngineState.updateActiveNodes EngineState.setQuorum EngineState.setActive
      dsimp only
      split_ifs <;> rfl
  | addPendingBatch batch originator now => rfl
  | removePendingBatch batchId =>
      unfold EngineState.removePendingBatch
      split <;> rfl
  | getOrCreatePhase p now =>
      unfold EngineState.getOrCreatePhase
      split <;> rfl
  | updatePhase p updateFn =>
      unfold EngineState.updatePhase
      split <;> rfl
  | cleanupOldPhases maxPhaseHistory now =>
      unfold EngineState.cleanupOldPhases
      dsimp only
      split_ifs <;> rfl
  | cleanupOldPendingBatches maxAgeSecs now =>
      unfold EngineState.cleanupOldPendingBatches
      dsimp only
      split_ifs <;> rfl

theorem steps_quiet : Steps (@Quiet SM) where
  nil e := ⟨rfl, fun _ hx => absurd hx List.not_mem_nil⟩
  append h h' := by
    refine ⟨h'.stored.trans h.stored, fun x hx => ?_⟩
    rcases List.mem_append.mp hx with hx | hx
    · exact h.silent x hx
    · exact h'.silent x hx
  mutate mutator e :=
    ⟨syncResponses_of_mutator mutator e.engineState, fun _ hx => absurd hx List.not_mem_nil⟩
  run p batch e := ⟨rfl, fun x hx => by rw [List.mem_singleton.mp hx]; rfl⟩
  commit p e := by
    refine ⟨?_, fun _ hx => absurd hx List.not_mem_nil⟩
    show (e.engineState.commitPhase p).2.syncResponses = _
    unfold EngineState.commitPhase
    split_ifs <;> rfl
  save persisted e _ := ⟨rfl, fun _ hx => absurd hx List.not_mem_nil⟩
  follow selector e := ⟨rfl, fun _ hx => absurd hx List.not_mem_nil⟩
  emit x ordinary e :=
    ⟨rfl, fun y hy => by rw [List.mem_singleton.mp hy]; exact ordinary.syncResponse⟩

theorem quiet_handle (env : Env) {event : Event} (noSync : ¬ event.Syncs env)
    (e : RabiaEngine SM) : Quiet e (handle env event e).effects (handle env event e).state :=
  steps_quiet.handle env noSync fun _ _ => ⟨rfl, fun _ hx => absurd hx List.not_mem_nil⟩

/-! ## Events that are -/

/-- What an event about a synchronisation does. -/
inductive Synced (env : Env) (e : RabiaEngine SM) :
    Event → RabiaEngine SM → List Effect → Prop where
  | answered {sender message m w} (received : Received env sender message (.syncRequest m))
      (answers : ∀ x ∈ w, ∃ snapshot, x = syncAnswer env sender e snapshot ∧
        ∀ taken, snapshot = some taken → StateMachine.createSnapshot e.stateMachine = .ok taken) :
      Synced env e (.message sender message) e w
  | stored {sender message m} (received : Received env sender message (.syncResponse m)) :
      Synced env e (.message sender message)
        (e.withResponses (e.engineState.syncResponses.insert sender m)) []
  | resolved {sender message m outcome}
      (received : Received env sender message (.syncResponse m))
      (resolution : Resolution env (e.engineState.syncResponses.insert sender m)
        (e.withResponses (e.engineState.syncResponses.insert sender m)) outcome) :
      Synced env e (.message sender message) outcome.state outcome.effects

theorem synced_handle (env : Env) {event : Event} (syncs : event.Syncs env)
    (e : RabiaEngine SM) :
    Synced env e event (handle env event e).state (handle env event e).effects := by
  obtain ⟨sender, payload, arrived, about⟩ := syncs
  obtain ⟨message, rfl, received⟩ := received_of_arrival arrived
  rw [handle_of_received received]
  rcases about with ⟨m, rfl⟩ | ⟨m, rfl⟩
  · -- the engine only reads itself
    have same : (handleSyncRequest env sender m e).state = e := by
      unfold handleSyncRequest snapshotIfAhead
      rw [readState, read_bind, readState, read_bind]
      by_cases ahead : m.requesterPhase < e.engineState.currentPhase
      · rw [if_pos ahead]
        have taken : createSnapshot e =
            (⟨StateMachine.createSnapshot e.stateMachine, e, []⟩ :
              Outcome RabiaError (RabiaEngine SM) Effect Snapshot) := rfl
        cases made : StateMachine.createSnapshot e.stateMachine with
        | error err =>
            rw [made] at taken
            rw [bind_error (bind_error taken)]
        | ok snapshot =>
            rw [made] at taken
            rw [bind_ok (bind_ok taken)]
            rfl
      · rw [if_neg ahead]
        rfl
    have answered : Synced env e (.message sender message) e
        (handleSyncRequest env sender m e).effects := by
      refine Synced.answered received fun x hx => ?_
      rcases Nat.lt_or_ge m.requesterPhase e.engineState.currentPhase with ahead | level
      · rw [handleSyncRequest_of_lt ahead] at hx
        cases made : StateMachine.createSnapshot e.stateMachine with
        | error err =>
            rw [made] at hx
            cases hx
        | ok snapshot =>
            rw [made] at hx
            refine ⟨some snapshot, List.mem_singleton.mp hx, fun taken same => ?_⟩
            rw [Option.some.inj same]
      · rw [handleSyncRequest_of_le level] at hx
        exact ⟨none, List.mem_singleton.mp hx, fun _ impossible => by cases impossible⟩
    show Synced env e _ (handleSyncRequest env sender m e).state _
    rw [same]
    exact answered
  · show Synced env e _ (handleSyncResponse env sender m e).state
      (handleSyncResponse env sender m e).effects
    by_cases quorum : e.engineState.quorumSize ≤
        Table.size (e.engineState.syncResponses.insert sender m)
    · rw [handleSyncResponse_of_quorum env sender m quorum]
      exact Synced.resolved received (resolveSync_cases env _ _)
    · rw [handleSyncResponse_of_no_quorum env sender m quorum]
      exact Synced.stored received

end Engine

/-! ## The cluster -/

/-- The engines are `Ok`, the responses that they sent or stored are `Good`. -/
structure Circulating (Ok : RabiaEngine SM → Prop) (Good : SyncResponseMessage → Prop)
    (w : World SM) : Prop where
  engine : ∀ i, Ok (w.engines i)
  stored : ∀ i j response,
    (w.engines i).engineState.syncResponses.lookup j = some response → Good response
  sent : ∀ i x response, (i, x) ∈ w.history → x.syncResponse = some response → Good response

section Act

variable {members : List NodeId} {w : World SM} {node : NodeId} {env : Env} {event : Event}
  {Ok : RabiaEngine SM → Prop} {Good : SyncResponseMessage → Prop}

omit [StateMachine SM] in
/-- A received response is one that was sent. -/
theorem Circulating.received (circulating : Circulating Ok Good w) {sender : NodeId}
    {message : ProtocolMessage} {m : SyncResponseMessage}
    (genuine : w.Genuine members node (.message sender message))
    (received : Received env sender message (.syncResponse m)) : Good m := by
  obtain ⟨x, member, among⟩ := genuine sender message rfl
  cases x with
  | sendTo target sent =>
      cases List.mem_singleton.mp among
      refine circulating.sent sender _ m member ?_
      show message.messageType.response = some m
      rw [received.payload]
      rfl
  | broadcast sent =>
      obtain ⟨other, -, same⟩ := List.mem_map.mp among
      cases same
      refine circulating.sent sender _ m member ?_
      show message.messageType.response = some m
      rw [received.payload]
      rfl
  | decide _ _ | applyBatch _ _ | respond _ _ | statistics _ _ => cases among

/-- What an event about a synchronisation leaves of an engine, if the response that arrives is
good. -/
theorem Copied.synced (copied : Copied Ok Good) {e e' : RabiaEngine SM} {effects : List Effect}
    (ok : Ok e)
    (stored : ∀ j response, e.engineState.syncResponses.lookup j = some response → Good response)
    (arrives : ∀ sender message m, event = .message sender message →
      Received env sender message (.syncResponse m) → Good m)
    (synced : Synced env e event e' effects) :
    Ok e' ∧ (∀ j response, e'.engineState.syncResponses.lookup j = some response → Good response) ∧
      ∀ x ∈ effects, ∀ response, x.syncResponse = some response → Good response := by
  -- with what arrives, every stored response is good
  have inserted : ∀ {sender message m}, event = .message sender message →
      Received env sender message (.syncResponse m) → ∀ j response,
        (e.engineState.syncResponses.insert sender m).lookup j = some response →
          Good response := by
    intro sender message m same received j response found
    rw [Table.lookup_insert] at found
    by_cases here : j = sender
    · rw [if_pos here] at found
      cases found
      exact arrives _ _ _ same received
    · rw [if_neg here] at found
      exact stored j response found
  cases synced with
  | answered received answers =>
      refine ⟨ok, stored, fun x hx response sent => ?_⟩
      obtain ⟨snapshot, rfl, taken⟩ := answers x hx
      cases sent
      exact copied.answer _ snapshot ok taken
  | stored received =>
      refine ⟨copied.apart _ _ ok, inserted rfl received, fun x hx => ?_⟩
      cases hx
  | @resolved sender message m outcome received resolution =>
      have good := inserted rfl received
      generalize e.engineState.syncResponses.insert sender m = responses at *
      have ok' := copied.apart responses _ ok
      have chosen : ∀ {latest}, aheadResponse env (e.withResponses responses)
          responses = some latest → Good latest := by
        intro latest found
        obtain ⟨j, present⟩ := latestResponse_lookup (aheadResponse_eq_some.mp found).1
        exact good j latest present
      have cleared : ∀ e : RabiaEngine SM, Ok e → Ok (e.mapState EngineState.clearSyncResponses) :=
        fun e held => copied.apart ∅ e held
      cases resolution with
      | level found =>
          refine ⟨cleared _ ok', fun j response present => ?_, fun x hx => ?_⟩
          · exact nomatch present
          · cases hx
      | moved found bare =>
          refine ⟨cleared _ (copied.moved _ _ ok' (chosen found) bare),
            fun j response present => ?_, fun x hx => ?_⟩
          · exact nomatch present
          · cases hx
      | restored found attached tried =>
          have held := copied.restored _ _ _ ok' (chosen found) attached
          rw [tried] at held
          refine ⟨cleared _ held, fun j response present => ?_, fun x hx => ?_⟩
          · exact nomatch present
          · cases hx
      | refused found attached tried =>
          have held := copied.restored _ _ _ ok' (chosen found) attached
          rw [tried] at held
          refine ⟨held, good, fun x hx => ?_⟩
          cases hx

/-- An event keeps what circulates, if it leaves the acting engine `Ok` where it is not
about a synchronisation. -/
theorem circulating_act (copied : Copied Ok Good) (circulating : Circulating Ok Good w)
    (genuine : w.Genuine members node event)
    (other : ¬ event.Syncs env → Ok (handle env event (w.engines node)).state) :
    Circulating Ok Good (w.act node env event) := by
  have here : Ok (handle env event (w.engines node)).state ∧
      (∀ j response, (handle env event (w.engines node)).state.engineState.syncResponses.lookup j =
        some response → Good response) ∧
      ∀ x ∈ (handle env event (w.engines node)).effects, ∀ response,
        x.syncResponse = some response → Good response := by
    by_cases syncs : event.Syncs env
    · exact copied.synced (circulating.engine node) (circulating.stored node)
        (fun sender message m same received => circulating.received (same ▸ genuine) received)
        (synced_handle env syncs (w.engines node))
    · have quiet := quiet_handle env syncs (w.engines node)
      refine ⟨other syncs, fun j response found => ?_, fun x hx response sent => ?_⟩
      · rw [quiet.stored] at found
        exact circulating.stored node j response found
      · cases (quiet.silent x hx).symm.trans sent
  refine ⟨fun i => ?_, fun i j response found => ?_, fun i x response sent carries => ?_⟩
  · by_cases same : i = node
    · rw [same, World.act_engines_self]
      exact here.1
    · rw [World.act_engines_of_ne w env event same]
      exact circulating.engine i
  · by_cases same : i = node
    · rw [same, World.act_engines_self] at found
      exact here.2.1 j response found
    · rw [World.act_engines_of_ne w env event same] at found
      exact circulating.stored i j response found
  · rcases List.mem_append.mp sent with old | new
    · exact circulating.sent i x response old carries
    · obtain ⟨x', member, same⟩ := List.mem_map.mp new
      cases same
      exact here.2.2 x member response carries

end Act

omit [StateMachine SM] in
theorem circulating_start {Ok : RabiaEngine SM → Prop} {Good : SyncResponseMessage → Prop}
    (members : List NodeId) (config : NodeId → RabiaConfig) (stateMachine : NodeId → SM)
    (ok : ∀ i, Ok ((Cluster.start members config stateMachine).engines i)) :
    Circulating Ok Good (Cluster.start members config stateMachine).toWorld where
  engine := ok
  stored _ _ _ found := nomatch found
  sent _ _ _ sent := absurd sent List.not_mem_nil

end Rabia
