import Rabia.Engine.Order
import Rabia.Lib.HighWater

/-!
# Replicas that receive the same decisions

The guard of `handle_decision` makes an engine a receiver behind a high-water
mark: `deliver_spec` shows that the accepted phases it runs are those that
`accept` takes. Two replicas that get the same decisions in different orders
therefore end alike, with nothing left out, exactly when the first copies come
in ascending order at both.
-/

namespace Rabia

open Rabia.Lib Engine

/-- A set of decisions, one for a phase, the accepted ones with their batches. -/
structure Decisions where
  messages : Finset DecisionMessage
  single : ∀ m ∈ messages, ∀ m' ∈ messages, m.phaseId = m'.phaseId → m = m'
  attached : ∀ m ∈ messages, m.decision = .v1 → m.batch ≠ none

/-- One call of `handle_decision`. -/
structure Delivery where
  env : Env
  sender : NodeId
  decision : DecisionMessage

/-- The accepted phases in the order of their delivery, with repetitions. -/
def acceptedPhases (ds : List Delivery) : List PhaseId :=
  ds.filterMap fun d => if d.decision.decision = .v1 then some d.decision.phaseId else none

/-- The deliveries are those of the decisions, each at least once. -/
def Decisions.Delivered (decisions : Decisions) (ds : List Delivery) : Prop :=
  (ds.map Delivery.decision).toFinset = decisions.messages

instance (decisions : Decisions) (ds : List Delivery) : Decidable (decisions.Delivered ds) :=
  inferInstanceAs (Decidable (_ = _))

theorem mem_acceptedPhases {decisions : Decisions} {ds : List Delivery}
    (delivered : decisions.Delivered ds) {p : PhaseId} :
    p ∈ acceptedPhases ds ↔
      ∃ m ∈ decisions.messages, m.decision = .v1 ∧ m.phaseId = p := by
  unfold acceptedPhases
  rw [List.mem_filterMap, ← delivered]
  constructor
  · rintro ⟨d, hd, h⟩
    by_cases accepted : d.decision.decision = .v1
    · rw [if_pos accepted] at h
      cases h
      exact ⟨d.decision, List.mem_toFinset.mpr (List.mem_map_of_mem hd), accepted, rfl⟩
    · rw [if_neg accepted] at h
      cases h
  · rintro ⟨m, hm, accepted, rfl⟩
    obtain ⟨d, hd, rfl⟩ := List.mem_map.mp (List.mem_toFinset.mp hm)
    exact ⟨d, hd, if_pos accepted⟩

namespace Run

variable {SM : Type} [StateMachine SM]

/-- `handle_decision` processes a delivery. -/
def deliver (r : Run SM) (d : Delivery) : Run SM :=
  let o := handleDecision d.env d.sender d.decision r.engine
  ⟨o.state, r.trace ++ o.effects⟩

/-! ## One delivery -/

theorem deliver_skips {r : Run SM} {d : Delivery}
    (skips : decisionBatch r.engine d.decision = none) :
    (r.deliver d).engine.stateMachine = r.engine.stateMachine ∧
      SameMark r.engine (r.deliver d).engine ∧
      (r.deliver d).engine.engineState.currentPhase = r.engine.engineState.currentPhase ∧
      appliedPhases (r.deliver d).trace = appliedPhases r.trace := by
  unfold deliver
  rw [handleDecision_apply, skips]
  refine ⟨rfl, sameMark_updatePhase _ _ _, EngineState.updatePhase_currentPhase _ _ _, ?_⟩
  rw [appliedPhases_append]
  exact List.append_nil _

theorem deliver_runs {r : Run SM} {d : Delivery} {batch : CommandBatch}
    (runs : decisionBatch r.engine d.decision = some batch)
    (succeed : CommandsSucceed r.engine batch)
    (current : d.decision.phaseId ≤ r.engine.engineState.currentPhase) :
    (r.deliver d).engine.stateMachine = execute r.engine.stateMachine batch ∧
      (r.deliver d).engine.engineState.lastCommittedPhase = d.decision.phaseId ∧
      (r.deliver d).engine.engineState.currentPhase = r.engine.engineState.currentPhase ∧
      appliedPhases (r.deliver d).trace = appliedPhases r.trace ++ [d.decision.phaseId] := by
  obtain ⟨said, -, landed⟩ := lands_applyAndCommit d.env d.decision.phaseId batch
    (r.engine.mapState (EngineState.updatePhase d.decision.phaseId (receivedDecision d.decision)))
  have lands := landed.of_updatePhase
  have above := (decisionBatch_eq_some.mp runs).1.2
  unfold deliver
  rw [handleDecision_apply, runs]
  refine ⟨lands.stateMachine, ?_, lands.currentPhase, ?_⟩
  · rw [lands.committed succeed current]
    exact max_eq_right above.le
  · rw [appliedPhases_append]
    dsimp only
    rw [said]
    rfl

/-! ## A sequence of deliveries -/

/-- The accepted decisions carry the batches that `batchOf` names. -/
def Carries (batchOf : PhaseId → CommandBatch) (ds : List Delivery) : Prop :=
  ∀ d ∈ ds, d.decision.decision = .v1 → d.decision.batch = some (batchOf d.decision.phaseId)

/-- Every command succeeds in every state. -/
def Reliable (SM : Type) [StateMachine SM] : Prop :=
  ∀ (sm : SM) (commands : List Command),
    ∃ responses, (StateMachine.applyCommands sm commands).1 = .ok responses

/-- An engine that processes decisions is a receiver behind its commit mark. -/
theorem deliver_spec (reliable : Reliable SM) {batchOf : PhaseId → CommandBatch}
    {ds : List Delivery} {r : Run SM} (carries : Carries batchOf ds)
    (current : ∀ d ∈ ds, d.decision.phaseId ≤ r.engine.engineState.currentPhase) :
    (run deliver r ds).engine.stateMachine =
        (accept r.engine.engineState.lastCommittedPhase (acceptedPhases ds)).foldl
          (fun sm p => execute sm (batchOf p)) r.engine.stateMachine ∧
      (run deliver r ds).engine.engineState.lastCommittedPhase =
        highWater r.engine.engineState.lastCommittedPhase (acceptedPhases ds) ∧
      appliedPhases (run deliver r ds).trace = appliedPhases r.trace ++
        accept r.engine.engineState.lastCommittedPhase (acceptedPhases ds) := by
  -- the mark of `r` moves with the deliveries, so `r` is general
  induction ds generalizing r with
  | nil => exact ⟨rfl, rfl, (List.append_nil _).symm⟩
  | cons d ds ih =>
      have rest : Carries batchOf ds := fun d' hd' => carries d' (List.mem_cons_of_mem _ hd')
      have first := current d List.mem_cons_self
      have later : ∀ d' ∈ ds, d'.decision.phaseId ≤ r.engine.engineState.currentPhase :=
        fun d' hd' => current d' (List.mem_cons_of_mem _ hd')
      rw [run_cons]
      by_cases accepted : d.decision.decision = .v1
      · have phases : acceptedPhases (d :: ds) = d.decision.phaseId :: acceptedPhases ds :=
          List.filterMap_cons_some (if_pos accepted)
        have carried := carries d List.mem_cons_self accepted
        rw [phases]
        rcases Nat.lt_or_ge r.engine.engineState.lastCommittedPhase d.decision.phaseId with
          above | below
        · -- the guard lets the phase through, and the mark moves up to it
          have runs := decisionBatch_eq_some.mpr ⟨⟨accepted, above⟩, carried⟩
          obtain ⟨stateMachine, mark, phase, applied⟩ :=
            deliver_runs runs (reliable _ _) first
          obtain ⟨stateMachine', mark', applied'⟩ := ih rest (phase ▸ later)
          rw [stateMachine', mark', applied', stateMachine, mark, applied, accept_of_lt above]
          refine ⟨rfl, ?_, List.append_assoc _ _ _⟩
          show _ = highWater (max _ _) _
          rw [max_eq_right above.le]
        · -- the guard takes it for applied, whether it was or was overtaken
          have skips : decisionBatch r.engine d.decision = none :=
            if_neg fun h => absurd h.2 (Nat.not_lt.mpr below)
          obtain ⟨stateMachine, mark, phase, applied⟩ := deliver_skips skips
          obtain ⟨stateMachine', mark', applied'⟩ := ih rest (phase ▸ later)
          rw [stateMachine', mark', applied', stateMachine, mark, applied, accept_of_le below]
          refine ⟨rfl, ?_, rfl⟩
          show _ = highWater (max _ _) _
          rw [max_eq_left below]
      · have phases : acceptedPhases (d :: ds) = acceptedPhases ds :=
          List.filterMap_cons_none (if_neg accepted)
        have skips : decisionBatch r.engine d.decision = none :=
          if_neg fun h => accepted h.1
        obtain ⟨stateMachine, mark, phase, applied⟩ := deliver_skips skips
        obtain ⟨stateMachine', mark', applied'⟩ := ih rest (phase ▸ later)
        rw [phases, stateMachine', mark', applied', stateMachine, mark, applied]
        exact ⟨rfl, rfl, rfl⟩

/-! ## Two orders of one set -/

/-- The batches of a set of decisions, by phase. -/
theorem exists_carries (decisions : Decisions) :
    ∃ batchOf, ∀ ds, decisions.Delivered ds → Carries batchOf ds := by
  classical
  have chosen : ∀ p, ∃ batch, ∀ m ∈ decisions.messages, m.phaseId = p → m.decision = .v1 →
      m.batch = some batch := by
    intro p
    by_cases named : ∃ m ∈ decisions.messages, m.phaseId = p ∧ m.decision = .v1
    · obtain ⟨m, hm, phase, accepted⟩ := named
      obtain ⟨batch, carried⟩ := Option.ne_none_iff_exists'.mp (decisions.attached m hm accepted)
      refine ⟨batch, fun m' hm' phase' _ => ?_⟩
      rw [decisions.single m' hm' m hm (phase'.trans phase.symm)]
      exact carried
    · -- no decision accepts in `p`: any batch will do
      refine ⟨⟨⟨0⟩, [], 0⟩, fun m hm phase accepted => ?_⟩
      exact absurd ⟨m, hm, phase, accepted⟩ named
  choose batchOf named using chosen
  refine ⟨batchOf, fun ds delivered d hd accepted => ?_⟩
  have member : d.decision ∈ decisions.messages := by
    rw [← delivered]
    exact List.mem_toFinset.mpr (List.mem_map_of_mem hd)
  exact named d.decision.phaseId d.decision member rfl accepted

/-- Two engines that started alike are alike, and ran every accepted phase above `mark`. -/
structure Converged (mark : PhaseId) (decisions : Decisions) (r r' : Run SM) : Prop where
  stateMachine : r.engine.stateMachine = r'.engine.stateMachine
  lastCommittedPhase :
    r.engine.engineState.lastCommittedPhase = r'.engine.engineState.lastCommittedPhase
  applied : ∀ m ∈ decisions.messages, m.decision = .v1 → mark < m.phaseId →
    m.phaseId ∈ appliedPhases r.trace ∧ m.phaseId ∈ appliedPhases r'.trace

/-- What an engine runs of a set of decisions is what its mark lets through. -/
theorem deliver_decisions (reliable : Reliable SM) {decisions : Decisions}
    {batchOf : PhaseId → CommandBatch}
    (named : ∀ ds, decisions.Delivered ds → Carries batchOf ds) {e : RabiaEngine SM}
    (current : ∀ m ∈ decisions.messages, m.phaseId ≤ e.engineState.currentPhase)
    {ds : List Delivery} (delivered : decisions.Delivered ds) :
    (run deliver (start e) ds).engine.stateMachine =
        (accept e.engineState.lastCommittedPhase (acceptedPhases ds)).foldl
          (fun sm p => execute sm (batchOf p)) e.stateMachine ∧
      (run deliver (start e) ds).engine.engineState.lastCommittedPhase =
        highWater e.engineState.lastCommittedPhase (acceptedPhases ds) ∧
      appliedPhases (run deliver (start e) ds).trace =
        accept e.engineState.lastCommittedPhase (acceptedPhases ds) := by
  refine deliver_spec reliable (named ds delivered) fun d hd => current d.decision ?_
  rw [← delivered]
  exact List.mem_toFinset.mpr (List.mem_map_of_mem hd)

/-- An order is taken completely when every accepted phase above the mark is taken. -/
theorem complete_of_delivered {decisions : Decisions} {ds : List Delivery} {mark : PhaseId}
    (delivered : decisions.Delivered ds) :
    Complete mark (acceptedPhases ds) ↔
      ∀ m ∈ decisions.messages, m.decision = .v1 → mark < m.phaseId →
        m.phaseId ∈ accept mark (acceptedPhases ds) := by
  constructor
  · intro complete m hm accepted above
    exact complete _ ((mem_acceptedPhases delivered).mpr ⟨m, hm, accepted, rfl⟩) above
  · intro taken p hp above
    obtain ⟨m, hm, accepted, rfl⟩ := (mem_acceptedPhases delivered).mp hp
    exact taken m hm accepted above

/-- Two replicas in the same state that process the same decisions, each in an
order of its own and with repetitions, end alike and with everything applied
exactly when at both the first copies of the accepted phases above the common
mark come in ascending order. -/
theorem converged_iff_ascending (reliable : Reliable SM) (decisions : Decisions)
    (e e' : RabiaEngine SM) (sameState : e'.engineState = e.engineState)
    (sameMachine : e'.stateMachine = e.stateMachine)
    (current : ∀ m ∈ decisions.messages, m.phaseId ≤ e.engineState.currentPhase)
    (ds ds' : List Delivery) (delivered : decisions.Delivered ds)
    (delivered' : decisions.Delivered ds') :
    Converged e.engineState.lastCommittedPhase decisions (run deliver (start e) ds)
        (run deliver (start e') ds') ↔
      FirstCopiesAscend e.engineState.lastCommittedPhase (acceptedPhases ds) ∧
        FirstCopiesAscend e.engineState.lastCommittedPhase (acceptedPhases ds') := by
  obtain ⟨batchOf, named⟩ := exists_carries decisions
  obtain ⟨stateMachine, mark, applied⟩ := deliver_decisions reliable named current delivered
  obtain ⟨stateMachine', mark', applied'⟩ :=
    deliver_decisions reliable named (sameState ▸ current) delivered'
  rw [sameState] at stateMachine' mark' applied'
  rw [sameMachine] at stateMachine'
  rw [← complete_iff, ← complete_iff]
  constructor
  · intro converged
    rw [complete_of_delivered delivered, complete_of_delivered delivered']
    have taken := converged.applied
    rw [applied, applied'] at taken
    exact ⟨fun m hm accepted above => (taken m hm accepted above).1,
      fun m hm accepted above => (taken m hm accepted above).2⟩
  · -- complete orders of one set of phases are taken in the same order
    rintro ⟨complete, complete'⟩
    have same : ∀ p, p ∈ acceptedPhases ds ↔ p ∈ acceptedPhases ds' := by
      intro p
      rw [mem_acceptedPhases delivered, mem_acceptedPhases delivered']
    have alike := accept_eq_of_complete same complete complete'
    refine ⟨?_, ?_, fun m hm accepted above => ?_⟩
    · rw [stateMachine, stateMachine', alike]
    · rw [mark, mark', ← highWater_accept, alike, highWater_accept]
    · rw [applied, applied']
      exact ⟨(complete_of_delivered delivered).mp complete m hm accepted above,
        (complete_of_delivered delivered').mp complete' m hm accepted above⟩

section TwoPhases

theorem reliable_byteLog : Reliable ByteLog := fun sm commands =>
  defaultApplyCommands_succeeds (fun _ command => ⟨command.data, rfl⟩) sm commands

def phasesOneAndTwo : Decisions where
  messages := {accepting 1 65, accepting 2 66}
  single := by decide
  attached := by decide

/-- The delivery of a decision by node 1. -/
def delivery (m : DecisionMessage) : Delivery := ⟨{}, ⟨1⟩, m⟩

/-- Node 0 after two proposals of its own, with nothing committed. -/
def afterTwoProposals : RabiaEngine ByteLog :=
  (run step (start (threeNodes 0)) [({}, .command .forcePhaseAdvance),
    ({}, .command .forcePhaseAdvance)]).engine

def inOrder : List Delivery := [delivery (accepting 1 65), delivery (accepting 2 66)]

def swapped : List Delivery := [delivery (accepting 2 66), delivery (accepting 1 65)]

def repeated : List Delivery := delivery (accepting 1 65) :: inOrder

theorem converged_iff_ascending_two :
    Converged 0 phasesOneAndTwo (run deliver (start afterTwoProposals) inOrder)
        (run deliver (start afterTwoProposals) repeated) ↔
      FirstCopiesAscend 0 (acceptedPhases inOrder) ∧
        FirstCopiesAscend 0 (acceptedPhases repeated) :=
  converged_iff_ascending reliable_byteLog phasesOneAndTwo afterTwoProposals afterTwoProposals
    rfl rfl (by decide +kernel) _ _ (by decide +kernel) (by decide +kernel)

/-- When the later phase comes first, the earlier one is never applied. -/
theorem diverged_two :
    (Reliable ByteLog ∧
      (∀ m ∈ phasesOneAndTwo.messages,
        m.phaseId ≤ afterTwoProposals.engineState.currentPhase) ∧
      phasesOneAndTwo.Delivered inOrder ∧ phasesOneAndTwo.Delivered swapped) ∧
    ¬ Converged 0 phasesOneAndTwo (run deliver (start afterTwoProposals) inOrder)
      (run deliver (start afterTwoProposals) swapped) := by
  refine ⟨⟨reliable_byteLog, by decide +kernel, by decide +kernel, by decide +kernel⟩, ?_⟩
  intro converged
  have same := converged.stateMachine
  revert same
  decide +kernel

end TwoPhases

end Run

end Rabia
