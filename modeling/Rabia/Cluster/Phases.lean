import Rabia.Cluster.Circulation

/-!
# Phases are counted

A phase number comes from an engine that advances to it, and synchronisations only copy it.
So no engine is in a phase, and nobody speaks of one, above the number of advances that
clients and operators asked for (`phases_counted`).
-/

namespace Rabia

open Rabia.Lib Engine

variable {SM : Type} [StateMachine SM]

/-- An action that may advance an engine advances it by one phase. -/
def Action.cost : Action → Nat
  | .atNode _ _ (.command (.processBatch _)) | .atNode _ _ (.command .forcePhaseAdvance) => 1
  | _ => 0

namespace Engine

/-- The engine is in the same phase. -/
def SamePhase (e : RabiaEngine SM) (_ : List Effect) (e' : RabiaEngine SM) : Prop :=
  e'.engineState.currentPhase = e.engineState.currentPhase

theorem steps_samePhase : Steps (@SamePhase SM) where
  nil _ := rfl
  append h h' := h'.trans h
  mutate mutator e := (mutator.sameCounters e.engineState).1
  run _ _ _ := rfl
  commit p e := EngineState.commitPhase_currentPhase p e.engineState
  save _ _ _ := rfl
  follow _ _ := rfl
  emit _ _ _ := rfl

/-- An event outside the synchronisation moves its engine by one phase if it advances it,
and otherwise not at all. -/
theorem currentPhase_handle (env : Env) {event : Event} (noSync : ¬ event.Syncs env)
    (e : RabiaEngine SM) :
    (handle env event e).state.engineState.currentPhase ≤
      e.engineState.currentPhase + if Advances e event then 1 else 0 := by
  by_cases advances : Advances e event
  · rw [if_pos advances, currentPhase_of_advances advances]
    exact Nat.mod_le _ _
  · rw [if_neg advances]
    exact (steps_samePhase.handle env noSync fun does => absurd does advances).le

omit [StateMachine SM] in
/-- An utterance is about the next phase, or about the phase of the message that led
to it. -/
theorem phase_of_reason {env : Env} {e : RabiaEngine SM} {event : Event} {u : Utterance}
    (reason : Reason env e event u) :
    Advances e event ∧ u.phase = nextPhase e ∨
      ∃ sender message payload u', event = .message sender message ∧
        Received env sender message payload ∧ payload.utterance = some u' ∧
          u'.phase = u.phase := by
  cases reason with
  | proposal quorum => exact Or.inl ⟨quorum, rfl⟩
  | round1 received | round2 received | decided received | decision received
  | executed received | adopted received =>
      exact Or.inr ⟨_, _, _, _, rfl, received, rfl, rfl⟩

end Engine

/-! ## The bound -/

/-- No engine is in a phase above `n`, and nobody speaks of one. -/
structure World.UpTo (n : Nat) (w : World SM) : Prop where
  circulating : Circulating (fun e : RabiaEngine SM => e.engineState.currentPhase ≤ n)
    (fun response => response.responderPhase ≤ n) w
  said : ∀ i u, w.Said i u → u.phase ≤ n

theorem copied_upTo (n : Nat) :
    Copied (fun e : RabiaEngine SM => e.engineState.currentPhase ≤ n)
      (fun response => response.responderPhase ≤ n) where
  apart _ _ below := below
  answer _ _ below _ := below
  moved _ _ _ good _ := good
  restored _ _ _ _ good _ := good

omit [StateMachine SM] in
theorem World.UpTo.mono {n m : Nat} {w : World SM} (upTo : w.UpTo n) (le : n ≤ m) : w.UpTo m where
  circulating :=
    ⟨fun i => (upTo.circulating.engine i).trans le,
      fun i j response found => (upTo.circulating.stored i j response found).trans le,
      fun i x response sent carries => (upTo.circulating.sent i x response sent carries).trans le⟩
  said i u uttered := (upTo.said i u uttered).trans le

theorem upTo_act {members : List NodeId} {w : World SM} {node : NodeId} {env : Env}
    {event : Event} {n : Nat} (genuine : w.Genuine members node event) (upTo : w.UpTo n) :
    (w.act node env event).UpTo (n + if Advances (w.engines node) event then 1 else 0) := by
  generalize added : (if Advances (w.engines node) event then 1 else 0) = cost
  have more := upTo.mono (Nat.le_add_right n cost)
  refine ⟨circulating_act (copied_upTo _) more.circulating genuine fun noSync => ?_, ?_⟩
  · have moved := currentPhase_handle env noSync (w.engines node)
    rw [added] at moved
    exact moved.trans (Nat.add_le_add_right (upTo.circulating.engine node) cost)
  · intro i u said
    rcases reason_of_said said with old | ⟨rfl, reason⟩
    · exact more.said i u old
    · rcases phase_of_reason reason with
        ⟨advances, about⟩ | ⟨sender, message, payload, u', rfl, received, uttered, about⟩
      · rw [if_pos advances] at added
        rw [about, ← added]
        exact (Nat.mod_le _ _).trans (Nat.succ_le_succ (upTo.circulating.engine i))
      · rw [← about]
        exact more.said sender u' (said_of_received genuine received uttered)

omit [StateMachine SM] in
theorem cost_of_occurrence {members : List NodeId} {c : Cluster SM} {action : Action}
    {node : NodeId} {env : Env} {event : Event}
    (occurs : c.occurrence members action = some (node, env, event)) :
    (if Advances (c.engines node) event then 1 else 0) ≤ action.cost := by
  by_cases advances : Advances (c.engines node) event
  · rw [if_pos advances]
    cases action with
    | atNode node' env' event' =>
        unfold Cluster.occurrence at occurs
        dsimp only at occurs
        split_ifs at occurs
        cases occurs
        rcases advances_cases advances with ⟨request, rfl, -⟩ | rfl
        · exact Nat.le_refl 1
        · exact Nat.le_refl 1
    | deliver index env' =>
        unfold Cluster.occurrence at occurs
        dsimp only at occurs
        split at occurs
        · split_ifs at occurs
          cases occurs
          cases advances
        · cases occurs
    | duplicate index => cases occurs
    | lose index => cases occurs
  · rw [if_neg advances]
    exact Nat.zero_le _

theorem upTo_step {members : List NodeId} {n : Nat} {c : Cluster SM} (action : Action)
    (holds : c.Carried members ∧ c.toWorld.UpTo n) :
    (c.step members action).Carried members ∧
      (c.step members action).toWorld.UpTo (n + action.cost) := by
  refine ⟨Cluster.carried_step holds.1 action, ?_⟩
  unfold Cluster.step
  cases occurs : c.occurrence members action with
  | none => exact holds.2.mono (Nat.le_add_right n _)
  | some o =>
      obtain ⟨-, genuine⟩ := Cluster.genuine_occurrence holds.1 occurs
      have acted : (c.toWorld.act o.1 o.2.1 o.2.2).UpTo _ := upTo_act genuine holds.2
      exact acted.mono (Nat.add_le_add_left (cost_of_occurrence occurs) n)

/-- In every run, the phases that engines are in, and the phases of all proposals, votes,
decisions and applications, are at most the number of batches submitted and advances
forced. -/
theorem phases_counted (members : List NodeId) (config : NodeId → RabiaConfig)
    (stateMachine : NodeId → SM) (actions : List Action) :
    (Cluster.world members config stateMachine actions).UpTo (actions.map Action.cost).sum := by
  have start : (Cluster.start members config stateMachine).Carried members ∧
      (Cluster.start members config stateMachine).toWorld.UpTo 0 :=
    ⟨(fun packet inFlight => nomatch inFlight),
      circulating_start members config stateMachine fun _ => Nat.le_refl 0,
      fun _ _ said => absurd said List.not_mem_nil⟩
  have counted := run_graded (I := fun n (c : Cluster SM) => c.Carried members ∧ c.toWorld.UpTo n)
    (fun n c action holds => upTo_step action holds) start actions
  rw [Nat.zero_add] at counted
  exact counted.2

end Rabia
