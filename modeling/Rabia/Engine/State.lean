import Rabia.Core.Messages

/-!
# Engine state

`rabia-engine/src/state.rs`. One engine task owns the state, so the atomics and
concurrent maps are plain fields here and each method is a function on the
record. `compare_exchange_weak` in `commit_phase` meets no competitor and ends
in its first branch.
-/

namespace Rabia

open Rabia.Lib

structure EngineState where
  currentPhase : PhaseId
  lastCommittedPhase : PhaseId
  isActive : Bool
  hasQuorum : Bool
  pendingBatches : Table BatchId PendingBatch
  phases : Table PhaseId PhaseData
  syncResponses : Table NodeId SyncResponseMessage
  activeNodes : Finset NodeId
  quorumSize : Nat
  stateVersion : Nat
  lastCleanup : Nat

/-- `EngineStatistics`. -/
structure EngineStatistics where
  currentPhase : PhaseId
  lastCommittedPhase : PhaseId
  pendingBatchesCount : Nat
  phasesCount : Nat
  activeNodesCount : Nat
  hasQuorum : Bool
  isActive : Bool
  stateVersion : Nat
deriving DecidableEq

namespace EngineState

/-- `EngineState::new`. -/
def new (quorumSize : Nat) : EngineState where
  currentPhase := 0
  lastCommittedPhase := 0
  isActive := true
  hasQuorum := true
  pendingBatches := ∅
  phases := ∅
  syncResponses := ∅
  activeNodes := ∅
  quorumSize := quorumSize
  stateVersion := 1
  lastCleanup := 0

/-! ## The methods -/

def incrementVersion (st : EngineState) : EngineState :=
  { st with stateVersion := (st.stateVersion + 1) % u64Size }

/-- `advance_phase`: the new phase and the state that has it. -/
def advancePhase (st : EngineState) : PhaseId × EngineState :=
  let newPhase := (st.currentPhase + 1) % u64Size
  (newPhase, { st with currentPhase := newPhase }.incrementVersion)

/-- `commit_phase`: refuses a phase ahead of the current one, and otherwise
raises the mark of the last committed phase. -/
def commitPhase (phaseId : PhaseId) (st : EngineState) : Except RabiaError Bool × EngineState :=
  if st.currentPhase < phaseId then
    (.error (.invalidStateTransition s!"current_phase={st.currentPhase}"
      s!"commit_phase={phaseId}"), st)
  else if st.lastCommittedPhase < phaseId then
    (.ok true, { st with lastCommittedPhase := phaseId }.incrementVersion)
  else (.ok false, st)

def setActive (active : Bool) (st : EngineState) : EngineState :=
  if st.isActive ≠ active then { st with isActive := active }.incrementVersion else st

def setQuorum (hasQuorum : Bool) (st : EngineState) : EngineState :=
  if st.hasQuorum ≠ hasQuorum then { st with hasQuorum := hasQuorum }.incrementVersion else st

def updateActiveNodes (nodes : Finset NodeId) (st : EngineState) : EngineState :=
  let hasQuorum := decide (st.quorumSize ≤ nodes.card)
  let st' := if st.activeNodes ≠ nodes then { st with activeNodes := nodes }.incrementVersion
    else st
  (st'.setQuorum hasQuorum).setActive hasQuorum

/-- `add_pending_batch` at clock reading `now`. -/
def addPendingBatch (batch : CommandBatch) (originator : NodeId) (now : Nat)
    (st : EngineState) : EngineState :=
  { st with
    pendingBatches := st.pendingBatches.insert batch.id (PendingBatch.new batch originator now)
    }.incrementVersion

def removePendingBatch (batchId : BatchId) (st : EngineState) : EngineState :=
  match st.pendingBatches.lookup batchId with
  | some _ => { st with pendingBatches := st.pendingBatches.erase batchId }.incrementVersion
  | none => st

/-- `get_or_create_phase` at clock reading `now`. -/
def getOrCreatePhase (phaseId : PhaseId) (now : Nat) (st : EngineState) : EngineState :=
  match st.phases.lookup phaseId with
  | some _ => st
  | none =>
    { st with phases := st.phases.insert phaseId (PhaseData.new phaseId now) }.incrementVersion

/-- `update_phase`: does nothing when there is no record. -/
def updatePhase (phaseId : PhaseId) (updateFn : PhaseData → PhaseData)
    (st : EngineState) : EngineState :=
  match st.phases.lookup phaseId with
  | some _ => { st with phases := Table.update phaseId updateFn st.phases }.incrementVersion
  | none => st

def getPhase (phaseId : PhaseId) (st : EngineState) : Option PhaseData :=
  st.phases.lookup phaseId

/-- The lowest phase `cleanup_old_phases` keeps. -/
def cutoffPhase (maxPhaseHistory : Nat) (st : EngineState) : PhaseId :=
  if maxPhaseHistory < st.currentPhase then st.currentPhase - maxPhaseHistory else 0

/-- `cleanup_old_phases` at clock reading `now` (milliseconds). -/
def cleanupOldPhases (maxPhaseHistory now : Nat) (st : EngineState) : EngineState :=
  let kept := Table.retain (fun phaseId _ => decide (st.cutoffPhase maxPhaseHistory ≤ phaseId))
    st.phases
  if 0 < Table.size st.phases - Table.size kept then
    { st with phases := kept, lastCleanup := now / 1000 }.incrementVersion
  else { st with phases := kept }

/-- `cleanup_old_pending_batches` at clock reading `now` (milliseconds). -/
def cleanupOldPendingBatches (maxAgeSecs now : Nat) (st : EngineState) : EngineState :=
  let cutoff := now - maxAgeSecs * 1000
  let kept := Table.retain (fun _ pending => decide (cutoff ≤ pending.receivedTimestamp))
    st.pendingBatches
  if 0 < Table.size st.pendingBatches - Table.size kept then
    { st with pendingBatches := kept }.incrementVersion
  else { st with pendingBatches := kept }

def addSyncResponse (nodeId : NodeId) (response : SyncResponseMessage)
    (st : EngineState) : EngineState :=
  { st with syncResponses := st.syncResponses.insert nodeId response }

def clearSyncResponses (st : EngineState) : EngineState :=
  { st with syncResponses := ∅ }

/-- The store to `current_phase` in `resolve_sync`. -/
def syncPhase (phaseId : PhaseId) (st : EngineState) : EngineState :=
  { st with currentPhase := phaseId }

def getStatistics (st : EngineState) : EngineStatistics where
  currentPhase := st.currentPhase
  lastCommittedPhase := st.lastCommittedPhase
  pendingBatchesCount := Table.size st.pendingBatches
  phasesCount := Table.size st.phases
  activeNodesCount := st.activeNodes.card
  hasQuorum := st.hasQuorum
  isActive := st.isActive
  stateVersion := st.stateVersion

/-! ## What the methods change -/

/-- Nothing that a round of voting reads or writes changed. -/
structure Keeps (st st' : EngineState) : Prop where
  phases : st'.phases = st.phases
  quorumSize : st'.quorumSize = st.quorumSize
  lastCommittedPhase : st'.lastCommittedPhase = st.lastCommittedPhase

theorem Keeps.refl (st : EngineState) : Keeps st st := ⟨rfl, rfl, rfl⟩

theorem Keeps.trans {st st' st'' : EngineState} (h : Keeps st st') (h' : Keeps st' st'') :
    Keeps st st'' :=
  ⟨h'.phases.trans h.phases, h'.quorumSize.trans h.quorumSize,
    h'.lastCommittedPhase.trans h.lastCommittedPhase⟩

theorem Keeps.getPhase {st st' : EngineState} (h : Keeps st st') (p : PhaseId) :
    st'.getPhase p = st.getPhase p := by
  unfold EngineState.getPhase
  rw [h.phases]

theorem keeps_advancePhase (st : EngineState) : Keeps st st.advancePhase.2 := ⟨rfl, rfl, rfl⟩

theorem keeps_setActive (active : Bool) (st : EngineState) : Keeps st (st.setActive active) := by
  unfold setActive
  split
  · exact ⟨rfl, rfl, rfl⟩
  · exact Keeps.refl st

theorem keeps_setQuorum (hasQuorum : Bool) (st : EngineState) :
    Keeps st (st.setQuorum hasQuorum) := by
  unfold setQuorum
  split
  · exact ⟨rfl, rfl, rfl⟩
  · exact Keeps.refl st

theorem keeps_updateActiveNodes (nodes : Finset NodeId) (st : EngineState) :
    Keeps st (st.updateActiveNodes nodes) := by
  refine Keeps.trans ?_ ((keeps_setQuorum _ _).trans (keeps_setActive _ _))
  split
  · exact ⟨rfl, rfl, rfl⟩
  · exact Keeps.refl st

theorem keeps_addPendingBatch (batch : CommandBatch) (originator : NodeId) (now : Nat)
    (st : EngineState) : Keeps st (st.addPendingBatch batch originator now) := ⟨rfl, rfl, rfl⟩

theorem keeps_removePendingBatch (batchId : BatchId) (st : EngineState) :
    Keeps st (st.removePendingBatch batchId) := by
  unfold removePendingBatch
  split
  · exact ⟨rfl, rfl, rfl⟩
  · exact Keeps.refl st

theorem keeps_cleanupOldPendingBatches (maxAgeSecs now : Nat) (st : EngineState) :
    Keeps st (st.cleanupOldPendingBatches maxAgeSecs now) := by
  unfold cleanupOldPendingBatches
  dsimp only
  split <;> exact ⟨rfl, rfl, rfl⟩

theorem keeps_addSyncResponse (nodeId : NodeId) (response : SyncResponseMessage)
    (st : EngineState) : Keeps st (st.addSyncResponse nodeId response) := ⟨rfl, rfl, rfl⟩

theorem keeps_clearSyncResponses (st : EngineState) : Keeps st st.clearSyncResponses :=
  ⟨rfl, rfl, rfl⟩

theorem keeps_syncPhase (phaseId : PhaseId) (st : EngineState) :
    Keeps st (st.syncPhase phaseId) := ⟨rfl, rfl, rfl⟩

/-! ### Phase records -/

theorem getPhase_updatePhase (p q : PhaseId) (f : PhaseData → PhaseData) (st : EngineState) :
    (st.updatePhase p f).getPhase q =
      if q = p then (st.getPhase p).map f else st.getPhase q := by
  have updated : (st.updatePhase p f).phases = Table.update p f st.phases := by
    unfold updatePhase
    split
    · rfl
    · next absent =>
      unfold Table.update
      rw [absent]
  unfold getPhase
  rw [updated]
  exact Table.lookup_update p q f st.phases

@[simp] theorem updatePhase_quorumSize (p : PhaseId) (f : PhaseData → PhaseData)
    (st : EngineState) : (st.updatePhase p f).quorumSize = st.quorumSize := by
  unfold updatePhase
  split <;> rfl

@[simp] theorem updatePhase_lastCommittedPhase (p : PhaseId) (f : PhaseData → PhaseData)
    (st : EngineState) :
    (st.updatePhase p f).lastCommittedPhase = st.lastCommittedPhase := by
  unfold updatePhase
  split <;> rfl

@[simp] theorem updatePhase_currentPhase (p : PhaseId) (f : PhaseData → PhaseData)
    (st : EngineState) : (st.updatePhase p f).currentPhase = st.currentPhase := by
  unfold updatePhase
  split <;> rfl

@[simp] theorem updatePhase_pendingBatches (p : PhaseId) (f : PhaseData → PhaseData)
    (st : EngineState) : (st.updatePhase p f).pendingBatches = st.pendingBatches := by
  unfold updatePhase
  split <;> rfl

theorem getPhase_getOrCreatePhase (p q : PhaseId) (now : Nat) (st : EngineState) :
    (st.getOrCreatePhase p now).getPhase q =
      if q = p then some ((st.getPhase p).getD (PhaseData.new p now)) else st.getPhase q := by
  unfold getOrCreatePhase getPhase
  cases h : st.phases.lookup p with
  | none =>
      show (st.phases.insert p _).lookup q = _
      rw [Table.lookup_insert]
      rfl
  | some phase =>
      by_cases hq : q = p
      · rw [if_pos hq, hq, h]
        rfl
      · rw [if_neg hq]

theorem getPhase_cleanupOldPhases (maxPhaseHistory now : Nat) (st : EngineState)
    (q : PhaseId) :
    (st.cleanupOldPhases maxPhaseHistory now).getPhase q =
      if st.cutoffPhase maxPhaseHistory ≤ q then st.getPhase q else none := by
  have kept : (st.cleanupOldPhases maxPhaseHistory now).phases =
      Table.retain (fun p _ => decide (st.cutoffPhase maxPhaseHistory ≤ p)) st.phases := by
    unfold cleanupOldPhases
    dsimp only
    split <;> rfl
  unfold getPhase
  rw [kept, Table.lookup_retain]
  by_cases h : st.cutoffPhase maxPhaseHistory ≤ q
  · rw [if_pos h]
    cases st.phases.lookup q <;> simp [h]
  · rw [if_neg h]
    cases st.phases.lookup q <;> simp [h]

@[simp] theorem getOrCreatePhase_quorumSize (p : PhaseId) (now : Nat) (st : EngineState) :
    (st.getOrCreatePhase p now).quorumSize = st.quorumSize := by
  unfold getOrCreatePhase
  split <;> rfl

@[simp] theorem getOrCreatePhase_lastCommittedPhase (p : PhaseId) (now : Nat)
    (st : EngineState) :
    (st.getOrCreatePhase p now).lastCommittedPhase = st.lastCommittedPhase := by
  unfold getOrCreatePhase
  split <;> rfl

@[simp] theorem cleanupOldPhases_quorumSize (maxPhaseHistory now : Nat) (st : EngineState) :
    (st.cleanupOldPhases maxPhaseHistory now).quorumSize = st.quorumSize := by
  unfold cleanupOldPhases
  dsimp only
  split <;> rfl

@[simp] theorem cleanupOldPhases_lastCommittedPhase (maxPhaseHistory now : Nat)
    (st : EngineState) :
    (st.cleanupOldPhases maxPhaseHistory now).lastCommittedPhase = st.lastCommittedPhase := by
  unfold cleanupOldPhases
  dsimp only
  split <;> rfl

/-! ### The commit mark -/

@[simp] theorem removePendingBatch_currentPhase (batchId : BatchId) (st : EngineState) :
    (st.removePendingBatch batchId).currentPhase = st.currentPhase := by
  unfold removePendingBatch
  split <;> rfl

@[simp] theorem removePendingBatch_pendingBatches (batchId : BatchId) (st : EngineState) :
    (st.removePendingBatch batchId).pendingBatches = st.pendingBatches.erase batchId := by
  unfold removePendingBatch
  split
  · rfl
  · next absent =>
    refine Finmap.ext_lookup fun other => ?_
    rw [Table.lookup_erase]
    by_cases h : other = batchId
    · rw [if_pos h, h, absent]
    · rw [if_neg h]

@[simp] theorem commitPhase_phases (p : PhaseId) (st : EngineState) :
    (st.commitPhase p).2.phases = st.phases := by
  unfold commitPhase
  split
  · rfl
  · split <;> rfl

@[simp] theorem commitPhase_quorumSize (p : PhaseId) (st : EngineState) :
    (st.commitPhase p).2.quorumSize = st.quorumSize := by
  unfold commitPhase
  split
  · rfl
  · split <;> rfl

@[simp] theorem commitPhase_currentPhase (p : PhaseId) (st : EngineState) :
    (st.commitPhase p).2.currentPhase = st.currentPhase := by
  unfold commitPhase
  split
  · rfl
  · split <;> rfl

/-- A commit that is not refused leaves the larger of the two marks. -/
theorem commitPhase_of_le {p : PhaseId} {st : EngineState} (h : p ≤ st.currentPhase) :
    (∃ b, (st.commitPhase p).1 = .ok b) ∧
      (st.commitPhase p).2.lastCommittedPhase = max st.lastCommittedPhase p := by
  unfold commitPhase
  rw [if_neg (Nat.not_lt.mpr h)]
  by_cases above : st.lastCommittedPhase < p
  · rw [if_pos above, Nat.max_eq_right (Nat.le_of_lt above)]
    exact ⟨⟨true, rfl⟩, rfl⟩
  · rw [if_neg above, Nat.max_eq_left (Nat.not_lt.mp above)]
    exact ⟨⟨false, rfl⟩, rfl⟩

theorem commitPhase_of_lt {p : PhaseId} {st : EngineState} (h : st.currentPhase < p) :
    (∃ err, (st.commitPhase p).1 = .error err) ∧ (st.commitPhase p).2 = st := by
  unfold commitPhase
  rw [if_pos h]
  exact ⟨⟨_, rfl⟩, rfl⟩

end EngineState

end Rabia
