import Rabia.Testing.NetworkSim

/-!
# Fault injection

`inject_fault` of `rabia-testing/src/fault_injection.rs`. A fault that changes the
conditions of the network replaces all of them, and spawns a task that sleeps for the
duration of the fault and then replaces all of them again, by the defaults.
-/

namespace Rabia

open Rabia.Lib

inductive FaultType where
  | nodeCrash (nodeId : NodeId) (duration : Nat)
  | networkPartition (nodes : Finset NodeId) (duration : Nat)
  | packetLoss (rate : ℚ) (duration : Nat)
  | highLatency (min max : Nat) (duration : Nat)
  | slowNode (nodeId : NodeId) (delayFactor : ℚ) (duration : Nat)
  | messageReordering (probability : ℚ) (maxDelay : Nat)
deriving DecidableEq

namespace FaultType

def lossRate : FaultType → Option ℚ
  | .packetLoss rate _ => some rate
  | _ => none

def latencyRange : FaultType → Option (Nat × Nat)
  | .highLatency min max _ => some (min, max)
  | _ => none

/-- What the task of a fault puts back. -/
def restoreConditions : FaultType → NetworkConditions
  | .packetLoss _ _ => { NetworkConditions.default with packetLossRate := 0 }
  | _ => .default

@[simp] theorem restoreConditions_eq (fault : FaultType) :
    fault.restoreConditions = .default := by
  cases fault <;> rfl

end FaultType

/-- A task that was spawned for a fault, with the end of its sleep. -/
structure Restore where
  fault : FaultType
  deadline : Nat
deriving DecidableEq

/-- The harness as far as its faults go, at a time. -/
structure ConsensusTestHarness where
  clock : Nat
  simulator : NetworkSimulator
  restores : List Restore

namespace ConsensusTestHarness

def start (now : Nat) : ConsensusTestHarness := ⟨now, .new, []⟩

/-- The conditions are put in force, and the task that will take them back is spawned. -/
def impose (conditions : NetworkConditions) (fault : FaultType) (duration : Nat)
    (h : ConsensusTestHarness) : ConsensusTestHarness :=
  { h with
    simulator := h.simulator.updateConditions conditions
    restores := h.restores ++ [⟨fault, h.clock + duration⟩] }

def injectFault (fault : FaultType) (h : ConsensusTestHarness) : ConsensusTestHarness :=
  match fault with
  -- The task of a crash only logs, and the last two faults do nothing else either.
  | .nodeCrash nodeId _ => { h with simulator := h.simulator.removeNode nodeId }
  | .networkPartition nodes duration =>
    { h with simulator := h.simulator.createPartition h.clock nodes duration }
  | .packetLoss rate duration =>
    h.impose { NetworkConditions.default with packetLossRate := rate } fault duration
  | .highLatency min max duration =>
    h.impose { NetworkConditions.default with latencyMin := min, latencyMax := max } fault duration
  | .slowNode _ _ _ => h
  | .messageReordering _ _ => h

def elapse (duration : Nat) (h : ConsensusTestHarness) : ConsensusTestHarness :=
  { h with clock := h.clock + duration }

/-- A task whose sleep is over restores the conditions. -/
def wake (task : Nat) (h : ConsensusTestHarness) : ConsensusTestHarness :=
  match h.restores[task]? with
  | none => h
  | some restore =>
    if restore.deadline ≤ h.clock then
      { h with
        simulator := h.simulator.updateConditions restore.fault.restoreConditions
        restores := h.restores.eraseIdx task }
    else h

/-- The faults of the two kinds that have begun and are not over. -/
def active (h : ConsensusTestHarness) : List FaultType :=
  (h.restores.filter fun restore => decide (h.clock < restore.deadline)).map Restore.fault

/-- No fault is over whose task has still to run. -/
def Settled (h : ConsensusTestHarness) : Prop :=
  ∀ restore ∈ h.restores, h.clock < restore.deadline

instance (h : ConsensusTestHarness) : Decidable h.Settled :=
  inferInstanceAs (Decidable (∀ restore ∈ h.restores, _))

theorem active_of_settled {h : ConsensusTestHarness} (settled : h.Settled) :
    h.active = h.restores.map Restore.fault := by
  unfold active
  rw [List.filter_eq_self.mpr]
  intro restore member
  exact decide_eq_true (settled restore member)

theorem wake_of_over {h : ConsensusTestHarness} {task : Nat}
    (isOver : ∃ restore ∈ h.restores[task]?, restore.deadline ≤ h.clock) :
    h.wake task =
      { h with
        simulator := h.simulator.updateConditions .default
        restores := h.restores.eraseIdx task } := by
  obtain ⟨restore, found, ended⟩ := isOver
  unfold wake
  rw [Option.mem_def.mp found]
  dsimp only
  rw [if_pos ended, FaultType.restoreConditions_eq]

theorem wake_of_not_over {h : ConsensusTestHarness} {task : Nat}
    (sleeping : ¬ ∃ restore ∈ h.restores[task]?, restore.deadline ≤ h.clock) :
    h.wake task = h := by
  unfold wake
  split
  · rfl
  · rename_i restore found
    exact if_neg fun ended => sleeping ⟨restore, found, ended⟩

theorem settled_impose_iff (conditions : NetworkConditions) (fault : FaultType) (duration : Nat)
    (h : ConsensusTestHarness) :
    (h.impose conditions fault duration).Settled ↔ h.Settled ∧ 0 < duration := by
  show (∀ restore ∈ h.restores ++ [_], h.clock < restore.deadline) ↔ _
  rw [List.forall_mem_append, List.forall_mem_singleton]
  exact and_congr_right fun _ => Nat.lt_add_right_iff_pos

theorem active_impose (conditions : NetworkConditions) (fault : FaultType) {duration : Nat}
    {h : ConsensusTestHarness} (settled : h.Settled) (lasts : 0 < duration) :
    (h.impose conditions fault duration).active = h.active ++ [fault] := by
  have after := (settled_impose_iff conditions fault duration h).mpr ⟨settled, lasts⟩
  rw [active_of_settled settled, active_of_settled after]
  exact List.map_append

end ConsensusTestHarness

/-! ## Faults that compose -/

/-- One of the values is in force, if there are any. -/
def InForce {α : Type} (value : α) (values : List α) : Prop := values ≠ [] → value ∈ values

instance {α : Type} [DecidableEq α] (value : α) (values : List α) :
    Decidable (InForce value values) := inferInstanceAs (Decidable (_ → _))

theorem inForce_append_self {α : Type} (value : α) (values : List α) :
    InForce value (values ++ [value]) := fun _ => by simp

/-- The conditions show a fault of each kind of which some are active, and are the defaults
when none is. -/
structure Composes (conditions : NetworkConditions) (active : List FaultType) : Prop where
  loss : InForce conditions.packetLossRate (active.filterMap FaultType.lossRate)
  latency : InForce (conditions.latencyMin, conditions.latencyMax)
    (active.filterMap FaultType.latencyRange)
  none : active = [] → conditions = .default

/-- The loss rate, and the range of latencies, when no fault is injected: what a fault of
the other kind puts in force, and what every task restores. -/
def LossIdle (active : List FaultType) : Prop :=
  InForce NetworkConditions.default.packetLossRate (active.filterMap FaultType.lossRate)

def LatencyIdle (active : List FaultType) : Prop :=
  InForce (NetworkConditions.default.latencyMin, NetworkConditions.default.latencyMax)
    (active.filterMap FaultType.latencyRange)

theorem composes_default_iff (active : List FaultType) :
    Composes .default active ↔ LossIdle active ∧ LatencyIdle active :=
  ⟨fun composes => ⟨composes.loss, composes.latency⟩,
    fun idle => ⟨idle.1, idle.2, fun _ => rfl⟩⟩

/-- One more active fault. -/
theorem composes_concat_iff (conditions : NetworkConditions) (active : List FaultType)
    (fault : FaultType) :
    Composes conditions (active ++ [fault]) ↔
      InForce conditions.packetLossRate
          (active.filterMap FaultType.lossRate ++ fault.lossRate.toList) ∧
        InForce (conditions.latencyMin, conditions.latencyMax)
          (active.filterMap FaultType.latencyRange ++ fault.latencyRange.toList) := by
  have values : ∀ {α : Type} (value : FaultType → Option α),
      (active ++ [fault]).filterMap value = active.filterMap value ++ (value fault).toList := by
    intro α value
    rw [List.filterMap_append]
    cases found : value fault <;> simp [found]
  rw [← values, ← values]
  constructor
  · intro composes
    exact ⟨composes.loss, composes.latency⟩
  · rintro ⟨loss, latency⟩
    exact ⟨loss, latency, by simp⟩

theorem composes_packetLoss_iff (rate : ℚ) (duration : Nat) (active : List FaultType) :
    Composes { NetworkConditions.default with packetLossRate := rate }
        (active ++ [.packetLoss rate duration]) ↔ LatencyIdle active := by
  rw [composes_concat_iff]
  show InForce rate (_ ++ [rate]) ∧ InForce _ (_ ++ []) ↔ _
  rw [and_iff_right (inForce_append_self rate _), List.append_nil]
  exact Iff.rfl

theorem composes_highLatency_iff (min max duration : Nat) (active : List FaultType) :
    Composes { NetworkConditions.default with latencyMin := min, latencyMax := max }
        (active ++ [.highLatency min max duration]) ↔ LossIdle active := by
  rw [composes_concat_iff]
  show InForce _ (_ ++ []) ∧ InForce (min, max) (_ ++ [(min, max)]) ↔ _
  rw [and_iff_left (inForce_append_self (min, max) _), List.append_nil]
  exact Iff.rfl

/-- What happens to a harness. -/
inductive HarnessEvent where
  | elapse (duration : Nat)
  | inject (fault : FaultType)
  | wake (task : Nat)
deriving DecidableEq

namespace ConsensusTestHarness

def step (h : ConsensusTestHarness) : HarnessEvent → ConsensusTestHarness
  | .elapse duration => h.elapse duration
  | .inject fault => h.injectFault fault
  | .wake task => h.wake task

/-- At a moment when every fault that is over has been restored, the faults compose. -/
def FaultsCompose (h : ConsensusTestHarness) : Prop :=
  h.Settled → Composes h.simulator.conditions h.active

/-- The event replaces no conditions that an active fault needs: a fault of one kind begins
when none of the other is active, and when the last fault that is over is restored none is
active at all. A fault that asks for the defaults themselves needs nothing. -/
def Spares (h : ConsensusTestHarness) : HarnessEvent → Prop
  | .inject (.packetLoss _ duration) => h.Settled → 0 < duration → LatencyIdle h.active
  | .inject (.highLatency _ _ duration) => h.Settled → 0 < duration → LossIdle h.active
  | .wake task =>
    (∃ restore ∈ h.restores[task]?, restore.deadline ≤ h.clock) →
      (∀ restore ∈ h.restores.eraseIdx task, h.clock < restore.deadline) →
        LossIdle ((h.restores.eraseIdx task).map Restore.fault) ∧
          LatencyIdle ((h.restores.eraseIdx task).map Restore.fault)
  | _ => True

theorem faultsCompose_elapse {h : ConsensusTestHarness} (composed : h.FaultsCompose)
    (duration : Nat) : (h.elapse duration).FaultsCompose := by
  intro later
  -- what is not over later was not over before
  have settled : h.Settled := fun restore member =>
    (Nat.le_add_right _ _).trans_lt (later restore member)
  have same : (h.elapse duration).active = h.active := by
    rw [active_of_settled settled, active_of_settled later]
    rfl
  rw [same]
  exact composed settled

theorem faultsCompose_inject_iff {h : ConsensusTestHarness} (composed : h.FaultsCompose)
    (fault : FaultType) : (h.injectFault fault).FaultsCompose ↔ h.Spares (.inject fault) := by
  cases fault with
  | packetLoss rate duration =>
      show ((h.impose _ _ duration).Settled → _) ↔ (h.Settled → 0 < duration → _)
      rw [settled_impose_iff, and_imp]
      refine imp_congr_right fun settled => imp_congr_right fun lasts => ?_
      show Composes _ (h.impose _ _ duration).active ↔ _
      rw [active_impose _ _ settled lasts]
      exact composes_packetLoss_iff rate duration h.active
  | highLatency min max duration =>
      show ((h.impose _ _ duration).Settled → _) ↔ (h.Settled → 0 < duration → _)
      rw [settled_impose_iff, and_imp]
      refine imp_congr_right fun settled => imp_congr_right fun lasts => ?_
      show Composes _ (h.impose _ _ duration).active ↔ _
      rw [active_impose _ _ settled lasts]
      exact composes_highLatency_iff min max duration h.active
  | nodeCrash nodeId duration => exact iff_of_true composed trivial
  | networkPartition nodes duration => exact iff_of_true composed trivial
  | slowNode nodeId delayFactor duration => exact iff_of_true composed trivial
  | messageReordering probability maxDelay => exact iff_of_true composed trivial

theorem faultsCompose_wake_iff {h : ConsensusTestHarness} (composed : h.FaultsCompose)
    (task : Nat) : (h.wake task).FaultsCompose ↔ h.Spares (.wake task) := by
  by_cases isOver : ∃ restore ∈ h.restores[task]?, restore.deadline ≤ h.clock
  · show _ ↔ (_ → _ → _)
    rw [wake_of_over isOver, forall_prop_of_true isOver]
    refine imp_congr_right fun settled => ?_
    rw [active_of_settled settled]
    exact composes_default_iff _
  · rw [wake_of_not_over isOver]
    exact iff_of_true composed fun ended => absurd ended isOver

theorem faultsCompose_step_iff {h : ConsensusTestHarness} (composed : h.FaultsCompose)
    (event : HarnessEvent) : (h.step event).FaultsCompose ↔ h.Spares event := by
  cases event with
  | elapse duration => exact iff_of_true (faultsCompose_elapse composed duration) trivial
  | inject fault => exact faultsCompose_inject_iff composed fault
  | wake task => exact faultsCompose_wake_iff composed task

/-- Whatever faults are injected, and whenever, those of the two kinds compose at every
moment exactly when no fault begins or ends while another needs what it replaces. -/
theorem faults_compose_iff (now : Nat) (events : List HarnessEvent) :
    (∀ served, served <+: events → (run step (start now) served).FaultsCompose) ↔
      Along step Spares (start now) events := by
  have composed : (start now).FaultsCompose := fun _ =>
    (composes_default_iff []).mpr ⟨fun some => absurd rfl some, fun some => absurd rfl some⟩
  rw [forall_reached_iff (I := FaultsCompose), and_iff_right composed]
  apply along_congr_of_kept (I := FaultsCompose) _ _ composed events
  · intro h event composed
    exact faultsCompose_step_iff composed event
  · intro h event _ composed
    exact composed

/-- A second into ten seconds in which every message is lost the latency is raised: from
then on none is. -/
theorem latency_ends_loss :
    ¬ ∀ (now : Nat) (events served : List HarnessEvent), served <+: events →
      (run step (start now) served).FaultsCompose := by
  intro composed
  let events : List HarnessEvent := [.inject (.packetLoss 1 (fromMillis 10000)),
    .elapse (fromMillis 1000),
    .inject (.highLatency (fromMillis 100) (fromMillis 200) (fromMillis 10000))]
  have settled : (run step (start 0) events).Settled := by decide
  have loss := (composed 0 events events (List.prefix_refl events) settled).loss
  exact absurd (loss (by decide)) (by decide)

end ConsensusTestHarness

end Rabia
