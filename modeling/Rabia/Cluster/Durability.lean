import Rabia.Cluster.Recovery

/-!
# What was announced is kept

`make_decision` calls `save_state` before it announces the batch of a phase. If saves succeed,
the commit mark that is persisted is that of the running engine after every event
(`writesThrough_handle`), and whatever a node announced stays at or below the mark, in all the
lives of its process (`announced_kept`). What an engine applies without committing it, or takes
over in a synchronisation, is not saved.
-/

namespace Rabia

open Rabia.Lib Rabia.Lib.Proc Engine Life

/-- The phase whose batch an effect announces. -/
def Effect.announced (x : Effect) : Option PhaseId :=
  match x.utterance with
  | some (.decision p .v1 (some _)) => some p
  | _ => none

theorem Effect.announced_eq_some {x : Effect} {p : PhaseId} (announced : x.announced = some p) :
    ∃ batch, x.utterance = some (.decision p .v1 (some batch)) := by
  unfold Effect.announced at announced
  split at announced
  · next batch uttered =>
      cases announced
      exact ⟨batch, uttered⟩
  · cases announced

variable {SM : Type} [StateMachine SM]

/-! ## One event -/

namespace Engine

/-- The commit mark did not fall, and if it was the persisted one, it still is. -/
structure WritesThrough (e : RabiaEngine SM) (_ : List Effect) (e' : RabiaEngine SM) : Prop where
  rises : e.engineState.lastCommittedPhase ≤ e'.engineState.lastCommittedPhase
  saved : restoredMark e.persistence = e.engineState.lastCommittedPhase →
    restoredMark e'.persistence = e'.engineState.lastCommittedPhase

omit [StateMachine SM] in
theorem writesThrough_of_same {e e' : RabiaEngine SM} {w : List Effect}
    (mark : e'.engineState.lastCommittedPhase = e.engineState.lastCommittedPhase)
    (persistence : e'.persistence = e.persistence) : WritesThrough e w e' := by
  refine ⟨mark.ge, fun saved => ?_⟩
  rw [persistence, mark]
  exact saved

/-- How the block that applies and commits a batch leaves the engine. -/
theorem applyAndCommit_state (env : Env) (p : PhaseId) (batch : CommandBatch)
    (e : RabiaEngine SM) :
    (applyAndCommit env p batch e).state = withCommands batch e ∨
      (applyAndCommit env p batch e).state = withBatch batch e ∨
        p ≤ e.engineState.currentPhase ∧ (applyAndCommit env p batch e).state =
          (saveState env ((withBatch batch e).mapState fun st => (st.commitPhase p).2)).state := by
  rcases applyAndCommit_cases env p batch e with
    ⟨err, failed, same⟩ | ⟨succeed, ahead, err, same⟩ | ⟨succeed, behind, persisted, same⟩
  · exact Or.inl (by rw [same])
  · exact Or.inr (Or.inl (by rw [same]))
  · refine Or.inr (Or.inr ⟨behind, ?_⟩)
    have within : p ≤ (withBatch batch e).engineState.currentPhase := by
      rw [withBatch_currentPhase]
      exact behind
    obtain ⟨⟨raised, accepted⟩, -⟩ := EngineState.commitPhase_of_le within
    have commit : commitPhase p (withBatch batch e) =
        (⟨.ok raised, (withBatch batch e).mapState (fun st => (st.commitPhase p).2), []⟩ :
          Outcome RabiaError _ Effect _) := by
      rw [commitPhase_apply, accepted]
    unfold applyAndCommit
    rw [bind_ok (applyBatch_of_ok succeed p), bind_ok commit, attempt_bind]
    rfl

section Saves

variable {env : Env} (saves : env.save = .ok ())
  (snapshots : ∀ sm : SM, ∃ snapshot, StateMachine.createSnapshot sm = .ok snapshot)
include saves snapshots

/-- A save that succeeds persists the commit mark. -/
theorem saveState_mark (e : RabiaEngine SM) :
    restoredMark (saveState env e).state.persistence = e.engineState.lastCommittedPhase ∧
      (saveState env e).state.engineState = e.engineState := by
  obtain ⟨snapshot, made⟩ := snapshots e.stateMachine
  have taken : createSnapshot e =
      (⟨.ok snapshot, e, []⟩ : Outcome RabiaError (RabiaEngine SM) Effect Snapshot) := by
    rw [← made]
    rfl
  unfold saveState readState
  rw [read_bind, read_bind, bind_ok taken, saves, bind_ok (ofExcept_apply _ _)]
  exact ⟨rfl, rfl⟩

theorem strides_writesThrough : Strides env (@WritesThrough SM) where
  nil _ := ⟨Nat.le_refl _, id⟩
  append h h' := ⟨h.rises.trans h'.rises, fun saved => h'.saved (h.saved saved)⟩
  mutate mutator e := writesThrough_of_same (mutator.sameCounters e.engineState).2 rfl
  block p batch e := by
    have removed : (withBatch batch e).engineState.lastCommittedPhase =
        e.engineState.lastCommittedPhase :=
      (sameCounters_removePendingBatch batch.id e.engineState).2
    rcases applyAndCommit_state env p batch e with state | state | ⟨behind, state⟩
    · rw [state]
      exact writesThrough_of_same rfl rfl
    · rw [state]
      exact writesThrough_of_same removed rfl
    · obtain ⟨mark, same⟩ := saveState_mark saves snapshots
        ((withBatch batch e).mapState fun st => (st.commitPhase p).2)
      have within : p ≤ (withBatch batch e).engineState.currentPhase := by
        rw [withBatch_currentPhase]
        exact behind
      have raised := (EngineState.commitPhase_of_le within).2
      rw [state]
      refine ⟨?_, fun _ => ?_⟩
      · rw [same]
        show _ ≤ ((withBatch batch e).engineState.commitPhase p).2.lastCommittedPhase
        rw [raised, removed]
        exact le_max_left _ _
      · rw [mark, same]
  follow _ _ := writesThrough_of_same rfl rfl
  emit _ _ _ := writesThrough_of_same rfl rfl

omit saves snapshots in
/-- A synchronisation moves neither the mark nor what is persisted. -/
theorem writesThrough_synced {e e' : RabiaEngine SM} {event : Event} {w : List Effect}
    (synced : Synced env e event e' w) : WritesThrough e w e' := by
  cases synced with
  | answered received answers => exact writesThrough_of_same rfl rfl
  | stored received => exact writesThrough_of_same rfl rfl
  | resolved received resolution =>
      cases resolution with
      | level found => exact writesThrough_of_same rfl rfl
      | moved found bare => exact writesThrough_of_same rfl rfl
      | restored found attached tried => exact writesThrough_of_same rfl rfl
      | refused found attached tried => exact writesThrough_of_same rfl rfl

theorem writesThrough_handle (event : Event) (e : RabiaEngine SM) :
    WritesThrough e (handle env event e).effects (handle env event e).state := by
  by_cases syncs : event.Syncs env
  · exact writesThrough_synced (synced_handle env syncs e)
  · exact (strides_writesThrough saves snapshots).handle syncs fun _ _ =>
      writesThrough_of_same rfl rfl

end Saves

/-- A decision on a phase at or below the mark runs no batch. -/
theorem unrun_of_mark {env : Env} {e : RabiaEngine SM} {sender : NodeId}
    {message : ProtocolMessage} {m : DecisionMessage}
    (received : Received env sender message (.decision m))
    (below : m.phaseId ≤ e.engineState.lastCommittedPhase) :
    ∀ x ∈ (handle env (.message sender message) e).effects, x.batch = none := by
  intro x hx
  cases x with
  | applyBatch p batch =>
      have reason := reason_of_deed (deed_of_handle env _ e) hx rfl
      cases reason with
      | executed received' present majority stored =>
          cases received.payload.symm.trans received'.payload
      | adopted received' accepted carried above =>
          cases received.payload.symm.trans received'.payload
          exact absurd above (Nat.not_lt.mpr below)
  | sendTo _ _ | broadcast _ | decide _ _ | respond _ _ | statistics _ _ => rfl

end Engine

/-! ## One life -/

namespace Life

/-- Saves succeed, and a process that ends after an announcement has saved: the announcement comes
after the save. -/
def Steady (l : Life SM) : Occurrence SM → Prop
  | .launch _ _ => True
  | .happens env _ => env.save = .ok ()
  | .crash env event sent saved => env.save = .ok () ∧
      ((∃ x ∈ (handle env event l.engine).effects.take sent, x.announced.isSome = true) →
        saved = true)

instance (l : Life SM) : ∀ o, Decidable (l.Steady o)
  | .launch _ _ => inferInstanceAs (Decidable True)
  | .happens env _ => inferInstanceAs (Decidable (env.save = .ok ()))
  | .crash _ _ _ _ => inferInstanceAs (Decidable (_ ∧ (_ → _)))

/-- What the node announced is at or below the persisted mark, which is the mark of the process
while it runs. -/
structure Durable (l : Life SM) : Prop where
  announced : ∀ x ∈ l.trace, ∀ p, x.announced = some p → p ≤ restoredMark l.engine.persistence
  marked : l.up = true →
    restoredMark l.engine.persistence = l.engine.engineState.lastCommittedPhase

theorem durable_step
    (snapshots : ∀ sm : SM, ∃ snapshot, StateMachine.createSnapshot sm = .ok snapshot)
    {l : Life SM} (durable : l.Durable) {o : Occurrence SM} (steady : l.Steady o) :
    (l.step o).Durable := by
  cases o with
  | launch env stateMachine =>
      obtain ⟨effects, persistence, counters⟩ := launch_spec env l.engine stateMachine
      refine ⟨fun x hx p announced => ?_, fun up => ?_⟩
      · have among : x ∈ l.trace ++ (initializeEngine env
          (relaunched l.engine stateMachine)).effects := hx
        rw [effects, List.append_nil] at among
        refine (durable.announced x among p announced).trans_eq ?_
        exact congrArg restoredMark persistence.symm
      · rcases counters with ⟨failed, -, -⟩ | ⟨-, mark⟩
        · exact absurd (failed.symm.trans up) Bool.false_ne_true
        · exact (congrArg restoredMark persistence).trans mark.symm
  | happens env event =>
      by_cases up : l.up = true
      · have through := writesThrough_handle steady snapshots event l.engine
        have saved := through.saved (durable.marked up)
        rw [step_happens env event up]
        refine ⟨fun x hx p announced => ?_, fun _ => saved⟩
        show p ≤ restoredMark (handle env event l.engine).state.persistence
        rw [saved]
        rcases List.mem_append.mp hx with old | new
        · have before := durable.announced x old p announced
          rw [durable.marked up] at before
          exact before.trans through.rises
        · obtain ⟨batch, uttered⟩ := Effect.announced_eq_some announced
          exact (applied_of_announced new uttered).2
      · rw [step_happens_down env event up]
        exact durable
  | crash env event sent saved =>
      by_cases up : l.up = true
      · have through := writesThrough_handle steady.1 snapshots event l.engine
        have written := through.saved (durable.marked up)
        rw [step_crash env event up]
        refine ⟨fun x hx p announced => ?_, fun down => absurd down Bool.false_ne_true⟩
        rcases List.mem_append.mp hx with old | new
        · have before := durable.announced x old p announced
          -- the process ended after the save or before it
          cases saved with
          | true =>
              show p ≤ restoredMark (handle env event l.engine).state.persistence
              rw [durable.marked up] at before
              rw [written]
              exact before.trans through.rises
          | false => exact before
        · have after := steady.2 ⟨x, new, by rw [announced]; rfl⟩
          subst after
          show p ≤ restoredMark (handle env event l.engine).state.persistence
          obtain ⟨batch, uttered⟩ := Effect.announced_eq_some announced
          rw [written]
          exact (applied_of_announced (List.mem_of_mem_take new) uttered).2
      · rw [step_crash_down env event up]
        exact durable

end Life

/-! ## The fleet -/

namespace Fleet

/-- What an action makes occur, if anything, meets `ok` at its node. -/
def Each (members : List NodeId) (ok : Life SM → Occurrence SM → Prop) (f : Fleet SM)
    (action : Action SM) : Prop :=
  ∀ o ∈ f.occurrence members action, ok (f.lives o.1) o.2

instance (members : List NodeId) (ok : Life SM → Occurrence SM → Prop)
    [∀ l o, Decidable (ok l o)] (f : Fleet SM) (action : Action SM) :
    Decidable (Each members ok f action) :=
  inferInstanceAs (Decidable (∀ o ∈ f.occurrence members action, _))

/-- A property of lives that their occurrences keep is kept by every step of the fleet. -/
theorem lives_step {members : List NodeId} {ok : Life SM → Occurrence SM → Prop}
    {I : Life SM → Prop} (kept : ∀ l o, I l → ok l o → I (l.step o)) (f : Fleet SM)
    (action : Action SM) (holds : ∀ i, I (f.lives i)) (admissible : Each members ok f action) :
    ∀ i, I ((f.step members action).lives i) := by
  unfold Fleet.step
  cases occurs : f.occurrence members action with
  | none => exact holds
  | some o =>
      intro i
      show I (Function.update f.lives o.1 ((f.lives o.1).step o.2) i)
      by_cases same : i = o.1
      · subst same
        rw [Function.update_self]
        exact kept _ _ (holds o.1) (admissible o occurs)
      · rw [Function.update_of_ne same]
        exact holds i

/-- What was announced is kept. If saves succeed, then in every run, whatever a node announced
in any life of its process is at or below the commit mark that it has persisted, and when its
process runs, no decision of another node makes it run the batch of such a phase again. -/
theorem announced_kept
    (snapshots : ∀ sm : SM, ∃ snapshot, StateMachine.createSnapshot sm = .ok snapshot)
    (members : List NodeId) (config : NodeId → RabiaConfig) (stateMachine : NodeId → SM)
    {actions : List (Action SM)}
    (steady : Along (step members) (Each members Life.Steady) (start members config stateMachine)
      actions) (i : NodeId) :
    let l := (run (step members) (start members config stateMachine) actions).lives i
    ∀ x ∈ l.trace, ∀ p, x.announced = some p →
      p ≤ restoredMark l.engine.persistence ∧
        (l.up = true → ∀ env sender message m, Received env sender message (.decision m) →
          m.phaseId = p →
            ∀ y ∈ (handle env (.message sender message) l.engine).effects, y.batch = none) := by
  intro l x hx p announced
  have begins : ∀ i, ((start members config stateMachine).lives i).Durable := fun i =>
    ⟨fun x hx => absurd hx List.not_mem_nil, fun down => absurd down Bool.false_ne_true⟩
  have all := run_invariant (I := fun f : Fleet SM => ∀ i, (f.lives i).Durable)
    (lives_step fun l o durable steady => durable_step snapshots durable steady) begins steady
  have durable : l.Durable := all i
  have below := durable.announced x hx p announced
  refine ⟨below, fun up env sender message m received about => ?_⟩
  rw [durable.marked up, ← about] at below
  exact unrun_of_mark received below

/-- The process of a node is started on an empty log. -/
def starting (node : Nat) : Action ByteLog :=
  .atNode ⟨node⟩ (.launch { connectedNodes := .ok (nodesBelow 3).toFinset } ⟨[]⟩)

/-- Node 0 decides phase 1 and announces it, and ends. It is started again. -/
def endsAfterAnnouncing : List (Action ByteLog) :=
  (List.range 3).map starting ++
    (((List.range 3).map creating ++ [submitting 0 65, submitting 1 65]) ++
      List.replicate 10 (delivering 0 true)).map .plain ++
    [.deliver 0 { draw := true } (some (3, true))] ++ [starting 0]

/-- Node 0 announced phase 1. Its next process has the mark, and no decision on the phase makes
it run a batch. -/
theorem announced_kept_ends_after_announcing :
    let l := (run (step (nodesBelow 3)) (start (nodesBelow 3) newConfig emptyLog)
      endsAfterAnnouncing).lives ⟨0⟩
    l.up = true ∧ (∃ x ∈ l.trace, x.announced = some 1) ∧
      ∀ x ∈ l.trace, ∀ p, x.announced = some p →
        p ≤ restoredMark l.engine.persistence ∧
          (l.up = true → ∀ env sender message m, Received env sender message (.decision m) →
            m.phaseId = p →
              ∀ y ∈ (handle env (.message sender message) l.engine).effects, y.batch = none) := by
  intro l
  refine ⟨by decide +kernel, by decide +kernel, ?_⟩
  exact announced_kept (fun _ => ⟨_, rfl⟩) (nodesBelow 3) newConfig emptyLog (by decide +kernel) ⟨0⟩

end Fleet

end Rabia
