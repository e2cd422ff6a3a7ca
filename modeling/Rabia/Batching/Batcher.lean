import Rabia.Core.Types
import Rabia.Lib.Conservation
import Mathlib.Data.Rat.Defs
import Mathlib.Algebra.Order.Field.Rat
import Mathlib.Tactic.Linarith

/-!
# The command batcher

`BatchConfig`, `BatchStats` and `CommandBatcher` of `rabia-core/src/batching.rs`. Times are
in nanoseconds. The ratio that steers the adaptive size is compared as a rational; the
average of the statistics is written only and left out.

Whatever the configuration and the calls, the batcher is a first-in first-out buffer
(`conserves_commands`). The size in force is always the configured maximum (`Settled`), so
no batch exceeds it.

The counters of the statistics are `usize` in the source and natural numbers here: they are
the same in every run of fewer than `2 ^ 64` calls (`stats_fit`).
-/

namespace Rabia

open Rabia.Lib

/-- `BatchConfig`. -/
structure BatchConfig where
  maxBatchSize : Nat
  maxBatchDelay : Nat
  bufferCapacity : Nat
  adaptive : Bool
deriving DecidableEq, Repr

/-- `BatchConfig::default`. -/
def BatchConfig.default : BatchConfig := ⟨100, 10000000, 1000, true⟩

/-- `BatchStats`. -/
structure BatchStats where
  totalCommands : Nat
  totalBatches : Nat
  commandsDropped : Nat
  flushTimeouts : Nat
  adaptiveAdjustments : Nat
deriving DecidableEq, Repr

/-- `BatchStats::default`. -/
def BatchStats.default : BatchStats := ⟨0, 0, 0, 0, 0⟩

/-- Every counter is one that a `usize` holds. -/
structure BatchStats.Fits (stats : BatchStats) : Prop where
  totalCommands : stats.totalCommands < u64Size
  totalBatches : stats.totalBatches < u64Size
  commandsDropped : stats.commandsDropped < u64Size
  flushTimeouts : stats.flushTimeouts < u64Size
  adaptiveAdjustments : stats.adaptiveAdjustments < u64Size

/-- `record_batch`. -/
def BatchStats.recordBatch (batchSize : Nat) (stats : BatchStats) : BatchStats :=
  { stats with
    totalCommands := stats.totalCommands + batchSize
    totalBatches := stats.totalBatches + 1 }

/-- What one call reads of the clocks and of the source of identifiers. -/
structure Reading where
  /-- The instant at which `last_flush.elapsed()` is taken. -/
  checkedAt : Nat
  /-- The instant of the flush. -/
  flushedAt : Nat
  /-- The identifier and the time of the batch, by `CommandBatch::new`. -/
  batchId : BatchId
  timestamp : Nat
deriving DecidableEq, Repr

/-- `CommandBatcher`. -/
structure CommandBatcher where
  config : BatchConfig
  buffer : List Command
  stats : BatchStats
  lastFlush : Nat
  adaptiveBatchSize : Nat
deriving DecidableEq, Repr

namespace CommandBatcher

/-- `CommandBatcher::new`, at an instant. -/
def new (config : BatchConfig) (now : Nat) : CommandBatcher :=
  ⟨config, [], .default, now, config.maxBatchSize⟩

/-- `current_batch_size`. -/
def currentBatchSize (s : CommandBatcher) : Nat :=
  if s.config.adaptive then s.adaptiveBatchSize else s.config.maxBatchSize

/-- `size_ratio` of `adjust_adaptive_batch_size`. -/
def sizeRatio (stats : BatchStats) : Rat :=
  (stats.totalBatches : Rat) / (stats.flushTimeouts + 1 : Nat)

/-- `adjust_adaptive_batch_size`. -/
def adjustAdaptiveBatchSize (s : CommandBatcher) : CommandBatcher :=
  if sizeRatio s.stats > 2 ∧ s.adaptiveBatchSize < s.config.maxBatchSize then
    { s with
      adaptiveBatchSize := min (s.adaptiveBatchSize * 11 / 10) s.config.maxBatchSize
      stats := { s.stats with adaptiveAdjustments := s.stats.adaptiveAdjustments + 1 } }
  else if sizeRatio s.stats < 1 / 2 ∧ s.adaptiveBatchSize > 10 then
    { s with
      adaptiveBatchSize := max (s.adaptiveBatchSize * 9 / 10) 10
      stats := { s.stats with adaptiveAdjustments := s.stats.adaptiveAdjustments + 1 } }
  else s

/-- `flush_batch`. -/
def flushBatch (at' : Reading) (s : CommandBatcher) : CommandBatch × CommandBatcher :=
  let batchSize := min s.currentBatchSize s.buffer.length
  let batch : CommandBatch := ⟨at'.batchId, s.buffer.take batchSize, at'.timestamp⟩
  let s' := { s with
    buffer := s.buffer.drop batchSize
    stats := s.stats.recordBatch batch.commands.length
    lastFlush := at'.flushedAt }
  (batch, if s.config.adaptive then s'.adjustAdaptiveBatchSize else s')

/-- `buffer.push_back`. -/
def pushBack (command : Command) (s : CommandBatcher) : CommandBatcher :=
  { s with buffer := s.buffer ++ [command] }

/-- Count a command that was dropped. -/
def countDropped (s : CommandBatcher) : CommandBatcher :=
  { s with stats := { s.stats with commandsDropped := s.stats.commandsDropped + 1 } }

/-- Count a flush for the time that went by. -/
def countTimeout (s : CommandBatcher) : CommandBatcher :=
  { s with stats := { s.stats with flushTimeouts := s.stats.flushTimeouts + 1 } }

/-- `add_command`. -/
def addCommand (at' : Reading) (command : Command) (s : CommandBatcher) :
    Except RabiaError (Option CommandBatch) × CommandBatcher :=
  if s.buffer.length ≥ s.config.bufferCapacity then
    (.error (.internal "Command buffer overflow"), s.countDropped)
  else
    let s := s.pushBack command
    if s.buffer.length ≥ s.currentBatchSize then
      let (batch, s) := s.flushBatch at'
      (.ok (some batch), s)
    else if at'.checkedAt - s.lastFlush ≥ s.config.maxBatchDelay ∧ s.buffer ≠ [] then
      let (batch, s) := s.countTimeout.flushBatch at'
      (.ok (some batch), s)
    else (.ok none, s)

/-- `flush`. -/
def flush (at' : Reading) (s : CommandBatcher) : Option CommandBatch × CommandBatcher :=
  if s.buffer = [] then (none, s)
  else
    let (batch, s) := s.flushBatch at'
    (some batch, s)

/-- `update_config`. -/
def updateConfig (config : BatchConfig) (s : CommandBatcher) : CommandBatcher :=
  { s with adaptiveBatchSize := config.maxBatchSize, config := config }

/-- `buffer_len`. -/
def bufferLen (s : CommandBatcher) : Nat := s.buffer.length

end CommandBatcher

/-! ## Runs -/

/-- A call of the batcher. -/
inductive BatcherCall where
  | addCommand (at' : Reading) (command : Command)
  | flush (at' : Reading)
  | updateConfig (config : BatchConfig)
deriving DecidableEq, Repr

namespace CommandBatcher

/-- The batcher after a call. -/
def step (s : CommandBatcher) : BatcherCall → CommandBatcher
  | .addCommand at' command => (s.addCommand at' command).2
  | .flush at' => (s.flush at').2
  | .updateConfig config => s.updateConfig config

/-- The batch that a call returns. -/
def emitted (s : CommandBatcher) : BatcherCall → List CommandBatch
  | .addCommand at' command =>
    match (s.addCommand at' command).1 with
    | .ok batch => batch.toList
    | .error _ => []
  | .flush at' => (s.flush at').1.toList
  | .updateConfig _ => []

/-- The command for which a call of `add_command` returns `Ok`. -/
def accepted (s : CommandBatcher) : BatcherCall → List Command
  | .addCommand at' command =>
    match (s.addCommand at' command).1 with
    | .ok _ => [command]
    | .error _ => []
  | .flush _ | .updateConfig _ => []

/-! ## What each operation does -/

@[simp] theorem currentBatchSize_pushBack (command : Command) (s : CommandBatcher) :
    (s.pushBack command).currentBatchSize = s.currentBatchSize := rfl

@[simp] theorem currentBatchSize_countTimeout (s : CommandBatcher) :
    s.countTimeout.currentBatchSize = s.currentBatchSize := rfl

@[simp] theorem adjust_buffer (s : CommandBatcher) :
    s.adjustAdaptiveBatchSize.buffer = s.buffer := by
  unfold adjustAdaptiveBatchSize
  split_ifs <;> rfl

@[simp] theorem adjust_totalCommands (s : CommandBatcher) :
    s.adjustAdaptiveBatchSize.stats.totalCommands = s.stats.totalCommands := by
  unfold adjustAdaptiveBatchSize
  split_ifs <;> rfl

@[simp] theorem adjust_commandsDropped (s : CommandBatcher) :
    s.adjustAdaptiveBatchSize.stats.commandsDropped = s.stats.commandsDropped := by
  unfold adjustAdaptiveBatchSize
  split_ifs <;> rfl

@[simp] theorem adjust_config (s : CommandBatcher) :
    s.adjustAdaptiveBatchSize.config = s.config := by
  unfold adjustAdaptiveBatchSize
  split_ifs <;> rfl

theorem flushBatch_config (at' : Reading) (s : CommandBatcher) :
    (s.flushBatch at').2.config = s.config := by
  unfold flushBatch
  split <;> simp

theorem flushBatch_length (at' : Reading) (s : CommandBatcher) :
    (s.flushBatch at').1.commands.length = min s.currentBatchSize s.buffer.length := by
  simp [flushBatch]

/-- A flush parts the buffer in two. -/
theorem flushBatch_parts (at' : Reading) (s : CommandBatcher) :
    (s.flushBatch at').1.commands ++ (s.flushBatch at').2.buffer = s.buffer := by
  unfold flushBatch
  split <;> simp

theorem flushBatch_totalCommands (at' : Reading) (s : CommandBatcher) :
    (s.flushBatch at').2.stats.totalCommands =
      s.stats.totalCommands + (s.flushBatch at').1.commands.length := by
  unfold flushBatch
  split <;> simp [BatchStats.recordBatch]

theorem flushBatch_commandsDropped (at' : Reading) (s : CommandBatcher) :
    (s.flushBatch at').2.stats.commandsDropped = s.stats.commandsDropped := by
  unfold flushBatch
  split <;> simp [BatchStats.recordBatch]

section AddCommand

variable {s : CommandBatcher} {at' : Reading} {command : Command}

theorem addCommand_full (full : s.config.bufferCapacity ≤ s.buffer.length) :
    s.addCommand at' command =
      (.error (.internal "Command buffer overflow"), s.countDropped) := by
  simp [addCommand, full]

theorem pushBack_length : (s.pushBack command).buffer.length = s.buffer.length + 1 := by
  simp [pushBack]

theorem addCommand_sized (room : s.buffer.length < s.config.bufferCapacity)
    (reached : s.currentBatchSize ≤ s.buffer.length + 1) :
    s.addCommand at' command =
      (.ok (some ((s.pushBack command).flushBatch at').1),
        ((s.pushBack command).flushBatch at').2) := by
  simp [addCommand, Nat.not_le.mpr room, pushBack_length, reached]

theorem addCommand_timed (room : s.buffer.length < s.config.bufferCapacity)
    (short : s.buffer.length + 1 < s.currentBatchSize)
    (late : s.config.maxBatchDelay ≤ at'.checkedAt - s.lastFlush) :
    s.addCommand at' command =
      (.ok (some ((s.pushBack command).countTimeout.flushBatch at').1),
        ((s.pushBack command).countTimeout.flushBatch at').2) := by
  have due : (s.pushBack command).config.maxBatchDelay ≤
      at'.checkedAt - (s.pushBack command).lastFlush := late
  have filled : (s.pushBack command).buffer ≠ [] := by simp [pushBack]
  simp [addCommand, Nat.not_le.mpr room, pushBack_length, Nat.not_le.mpr short, due, filled]

theorem addCommand_held (room : s.buffer.length < s.config.bufferCapacity)
    (short : s.buffer.length + 1 < s.currentBatchSize)
    (early : at'.checkedAt - s.lastFlush < s.config.maxBatchDelay) :
    s.addCommand at' command = (.ok none, s.pushBack command) := by
  have due : ¬ (s.pushBack command).config.maxBatchDelay ≤
      at'.checkedAt - (s.pushBack command).lastFlush := Nat.not_le.mpr early
  simp [addCommand, Nat.not_le.mpr room, pushBack_length, Nat.not_le.mpr short, due]

end AddCommand

/-- What a call does: the commands it accepts, the batches it returns, and the batcher it
leaves. -/
inductive Course (s : CommandBatcher) :
    BatcherCall → List Command → List CommandBatch → CommandBatcher → Prop
  | refused {at' command} : s.config.bufferCapacity ≤ s.buffer.length →
      Course s (.addCommand at' command) [] [] s.countDropped
  | held {at' command} : s.buffer.length < s.config.bufferCapacity →
      s.buffer.length + 1 < s.currentBatchSize →
      at'.checkedAt - s.lastFlush < s.config.maxBatchDelay →
      Course s (.addCommand at' command) [command] [] (s.pushBack command)
  | sized {at' command} : s.buffer.length < s.config.bufferCapacity →
      s.currentBatchSize ≤ s.buffer.length + 1 →
      Course s (.addCommand at' command) [command] [((s.pushBack command).flushBatch at').1]
        ((s.pushBack command).flushBatch at').2
  | timed {at' command} : s.buffer.length < s.config.bufferCapacity →
      s.buffer.length + 1 < s.currentBatchSize →
      s.config.maxBatchDelay ≤ at'.checkedAt - s.lastFlush →
      Course s (.addCommand at' command) [command]
        [((s.pushBack command).countTimeout.flushBatch at').1]
        ((s.pushBack command).countTimeout.flushBatch at').2
  | idle {at'} : s.buffer = [] → Course s (.flush at') [] [] s
  | forced {at'} : s.buffer ≠ [] →
      Course s (.flush at') [] [(s.flushBatch at').1] (s.flushBatch at').2
  | configured {config} : Course s (.updateConfig config) [] [] (s.updateConfig config)

theorem course (s : CommandBatcher) (call : BatcherCall) :
    Course s call (s.accepted call) (s.emitted call) (s.step call) := by
  cases call with
  | addCommand at' command =>
      simp only [accepted, emitted, step]
      rcases Nat.lt_or_ge s.buffer.length s.config.bufferCapacity with room | full
      · rcases Nat.lt_or_ge (s.buffer.length + 1) s.currentBatchSize with short | reached
        · rcases Nat.lt_or_ge (at'.checkedAt - s.lastFlush) s.config.maxBatchDelay with
            early | late
          · rw [addCommand_held room short early]
            exact .held room short early
          · rw [addCommand_timed room short late]
            exact .timed room short late
        · rw [addCommand_sized room reached]
          exact .sized room reached
      · rw [addCommand_full full]
        exact .refused full
  | flush at' =>
      simp only [accepted, emitted, step, flush]
      by_cases empty : s.buffer = []
      · simp only [if_pos empty]
        exact .idle empty
      · simp only [if_neg empty]
        exact .forced empty
  | updateConfig config => exact .configured

/-- A command is accepted when there is room for it. -/
theorem accepted_addCommand (s : CommandBatcher) (at' : Reading) (command : Command) :
    s.accepted (.addCommand at' command) =
      if s.buffer.length < s.config.bufferCapacity then [command] else [] := by
  have course := s.course (.addCommand at' command)
  generalize s.accepted _ = taken, s.emitted _ = batches, s.step _ = s' at course ⊢
  cases course with
  | refused full => exact (if_neg (Nat.not_lt.mpr full)).symm
  | held room | sized room | timed room => exact (if_pos room).symm

/-! ## The size in force

Every flush for the time that went by is a flush, so the timeouts never outnumber the
batches: the ratio stays at one half or above, and the adaptive size where it started. -/

/-- The adaptive size is the maximum, and the timeouts do not outnumber the batches. -/
structure Settled (s : CommandBatcher) : Prop where
  size : s.adaptiveBatchSize = s.config.maxBatchSize
  timeouts : s.stats.flushTimeouts ≤ s.stats.totalBatches

theorem settled_new (config : BatchConfig) (now : Nat) : Settled (new config now) :=
  ⟨rfl, Nat.le_refl 0⟩

theorem Settled.currentBatchSize {s : CommandBatcher} (settled : Settled s) :
    s.currentBatchSize = s.config.maxBatchSize := by
  simp [CommandBatcher.currentBatchSize, settled.size]

theorem half_le_sizeRatio {stats : BatchStats} (some : 0 < stats.totalBatches)
    (timeouts : stats.flushTimeouts ≤ stats.totalBatches) : 1 / 2 ≤ sizeRatio stats := by
  have positive : (0 : Rat) < (stats.flushTimeouts + 1 : Nat) := by
    exact_mod_cast Nat.succ_pos _
  have twice : ((stats.flushTimeouts + 1 : Nat) : Rat) ≤ 2 * stats.totalBatches := by
    exact_mod_cast (by omega : stats.flushTimeouts + 1 ≤ 2 * stats.totalBatches)
  unfold sizeRatio
  rw [div_le_div_iff₀ two_pos positive]
  linarith

theorem adjust_of_settled {s : CommandBatcher} (settled : Settled s)
    (some : 0 < s.stats.totalBatches) : s.adjustAdaptiveBatchSize = s := by
  have half := half_le_sizeRatio some settled.timeouts
  unfold adjustAdaptiveBatchSize
  rw [if_neg, if_neg]
  · intro below
    exact absurd below.1 (not_lt.mpr half)
  · intro above
    exact absurd above.2 (by rw [settled.size]; exact Nat.lt_irrefl _)

/-- A flush from a settled size leaves the size. Its own timeout may be counted. -/
theorem flushBatch_of_settled (at' : Reading) (s : CommandBatcher)
    (size : s.adaptiveBatchSize = s.config.maxBatchSize)
    (timeouts : s.stats.flushTimeouts ≤ s.stats.totalBatches + 1) :
    (s.flushBatch at').2 = { s with
      buffer := s.buffer.drop s.config.maxBatchSize
      stats := s.stats.recordBatch (s.flushBatch at').1.commands.length
      lastFlush := at'.flushedAt } := by
  have current : s.currentBatchSize = s.config.maxBatchSize := by
    simp [currentBatchSize, size]
  have dropped : s.buffer.drop (min s.config.maxBatchSize s.buffer.length) =
      s.buffer.drop s.config.maxBatchSize := by
    rcases Nat.le_total s.config.maxBatchSize s.buffer.length with below | above
    · rw [Nat.min_eq_left below]
    · rw [Nat.min_eq_right above, List.drop_length, List.drop_eq_nil_of_le above]
  unfold flushBatch
  simp only [current, dropped]
  split
  · exact adjust_of_settled ⟨size, timeouts⟩ (Nat.succ_pos _)
  · rfl

theorem flushBatch_settled {at' : Reading} {s : CommandBatcher}
    (size : s.adaptiveBatchSize = s.config.maxBatchSize)
    (timeouts : s.stats.flushTimeouts ≤ s.stats.totalBatches + 1) :
    Settled (s.flushBatch at').2 := by
  rw [flushBatch_of_settled at' s size timeouts]
  exact ⟨size, timeouts⟩

theorem step_settled (s : CommandBatcher) (call : BatcherCall) (settled : Settled s) :
    Settled (s.step call) := by
  have timeouts := settled.timeouts
  have course := s.course call
  generalize s.accepted call = taken, s.emitted call = batches, s.step call = s' at course ⊢
  cases course with
  | refused | held => exact ⟨settled.size, timeouts⟩
  | idle => exact settled
  | sized | forced => exact flushBatch_settled settled.size (Nat.le_succ_of_le timeouts)
  | timed => exact flushBatch_settled settled.size (Nat.succ_le_succ timeouts)
  | configured => exact ⟨rfl, timeouts⟩

/-! ## Conservation -/

/-- What a call lets out, then what stays, is what was there, then what it accepts. -/
theorem step_conserves (s : CommandBatcher) (call : BatcherCall) :
    (s.emitted call).flatMap CommandBatch.commands ++ (s.step call).buffer =
      s.buffer ++ s.accepted call := by
  have course := s.course call
  generalize s.accepted call = taken, s.emitted call = batches, s.step call = s' at course ⊢
  cases course with
  | refused | idle | configured => exact (List.append_nil _).symm
  | held => rfl
  | sized | timed | forced =>
      rw [List.flatMap_singleton, flushBatch_parts]
      simp [pushBack, countTimeout]

/-- No batch is larger than the size in force. -/
theorem emitted_length_le (s : CommandBatcher) (call : BatcherCall) :
    ∀ batch ∈ s.emitted call, batch.commands.length ≤ s.currentBatchSize := by
  have course := s.course call
  generalize s.accepted call = taken, s.emitted call = batches, s.step call = s' at course ⊢
  intro batch hbatch
  cases course with
  | refused | held | idle | configured => cases hbatch
  | sized | timed | forced =>
      rw [List.mem_singleton.mp hbatch, flushBatch_length]
      exact Nat.min_le_left _ _

/-- One for a call of `add_command`. -/
def adds : BatcherCall → Nat
  | .addCommand _ _ => 1
  | .flush _ | .updateConfig _ => 0

/-- The commands that went into batches, that wait, and that were dropped. -/
def account (s : CommandBatcher) : Nat :=
  s.stats.totalCommands + s.bufferLen + s.stats.commandsDropped

theorem flushBatch_account (at' : Reading) (s : CommandBatcher) :
    (s.flushBatch at').2.account = s.account := by
  have parts := congrArg List.length (flushBatch_parts at' s)
  rw [List.length_append] at parts
  unfold account bufferLen
  rw [flushBatch_totalCommands, flushBatch_commandsDropped]
  omega

theorem pushBack_account (command : Command) (s : CommandBatcher) :
    (s.pushBack command).account = s.account + 1 := by
  show s.stats.totalCommands + (s.buffer ++ [command]).length + s.stats.commandsDropped = _
  simp only [List.length_append, List.length_singleton, account, bufferLen]
  omega

theorem step_account (s : CommandBatcher) (call : BatcherCall) :
    (s.step call).account = s.account + adds call := by
  have course := s.course call
  generalize s.accepted call = taken, s.emitted call = batches, s.step call = s' at course ⊢
  cases course with
  | refused | idle | configured => rfl
  | held => exact pushBack_account _ s
  | sized => rw [flushBatch_account, pushBack_account, adds]
  | @timed at' command =>
      rw [flushBatch_account]
      show (s.pushBack command).account = _
      rw [pushBack_account, adds]
  | forced => rw [flushBatch_account, adds, Nat.add_zero]

theorem adds_le_one (call : BatcherCall) : adds call ≤ 1 := by
  cases call with
  | addCommand at' command => exact Nat.le_refl 1
  | flush at' | updateConfig config => exact Nat.zero_le 1

/-! ## The range of the counters -/

/-- A settled batcher none of whose counters exceeds `n`. -/
structure CountsTo (n : Nat) (s : CommandBatcher) : Prop extends Settled s where
  account : s.account ≤ n
  totalBatches : s.stats.totalBatches ≤ n
  adaptiveAdjustments : s.stats.adaptiveAdjustments ≤ n

/-- A flush counts one batch, and no adjustment. -/
theorem flushBatch_counts (at' : Reading) (s : CommandBatcher)
    (size : s.adaptiveBatchSize = s.config.maxBatchSize)
    (timeouts : s.stats.flushTimeouts ≤ s.stats.totalBatches + 1) :
    (s.flushBatch at').2.stats.totalBatches = s.stats.totalBatches + 1 ∧
      (s.flushBatch at').2.stats.adaptiveAdjustments = s.stats.adaptiveAdjustments := by
  rw [flushBatch_of_settled at' s size timeouts]
  exact ⟨rfl, rfl⟩

/-- With one call more the counters have one more to go to. -/
theorem step_countsTo (n : Nat) (s : CommandBatcher) (call : BatcherCall)
    (counts : CountsTo n s) : CountsTo (n + 1) (s.step call) := by
  have settled := step_settled s call counts.toSettled
  have account : (s.step call).account ≤ n + 1 := by
    rw [step_account]
    exact Nat.add_le_add counts.account (adds_le_one call)
  have timeouts := counts.timeouts
  have flushed := counts.totalBatches
  have adjustments := Nat.le_succ_of_le counts.adaptiveAdjustments
  -- the other two move with a flush only, and a call makes at most one
  suffices tallies : (s.step call).stats.totalBatches ≤ n + 1 ∧
      (s.step call).stats.adaptiveAdjustments ≤ n + 1 from
    ⟨settled, account, tallies.1, tallies.2⟩
  have course := s.course call
  generalize s.accepted call = taken, s.emitted call = batches, s.step call = s' at course ⊢
  cases course with
  | refused | held | idle | configured => exact ⟨Nat.le_succ_of_le flushed, adjustments⟩
  | @sized at' command =>
      obtain ⟨counted, same⟩ := flushBatch_counts at' (s.pushBack command) counts.size
        (Nat.le_succ_of_le timeouts)
      exact ⟨counted.trans_le (Nat.succ_le_succ flushed), same.trans_le adjustments⟩
  | @timed at' command =>
      obtain ⟨counted, same⟩ := flushBatch_counts at' (s.pushBack command).countTimeout counts.size
        (Nat.succ_le_succ timeouts)
      exact ⟨counted.trans_le (Nat.succ_le_succ flushed), same.trans_le adjustments⟩
  | @forced at' =>
      obtain ⟨counted, same⟩ := flushBatch_counts at' s counts.size (Nat.le_succ_of_le timeouts)
      exact ⟨counted.trans_le (Nat.succ_le_succ flushed), same.trans_le adjustments⟩

theorem CountsTo.fits {n : Nat} {s : CommandBatcher} (counts : CountsTo n s) (few : n < u64Size) :
    s.stats.Fits := by
  have account : s.stats.totalCommands + s.bufferLen + s.stats.commandsDropped ≤ n :=
    counts.account
  refine ⟨?_, counts.totalBatches.trans_lt few, ?_,
    (counts.timeouts.trans counts.totalBatches).trans_lt few,
    counts.adaptiveAdjustments.trans_lt few⟩
  · omega
  · omega

/-- In a run of fewer than `2 ^ 64` calls no counter of the source wraps around. -/
theorem stats_fit (config : BatchConfig) (now : Nat) {calls : List BatcherCall}
    (few : calls.length < u64Size) : (run step (new config now) calls).stats.Fits := by
  have start : CountsTo 0 (new config now) :=
    ⟨settled_new config now, Nat.le_refl 0, Nat.le_refl 0, Nat.le_refl 0⟩
  have counts := run_counted (I := CountsTo) step_countsTo start calls
  exact counts.fits ((Nat.zero_add _).trans_lt few)

/-! ## Whole runs -/

/-- Whatever the configuration and the calls: the emitted batches and then the buffer are
the accepted commands, in order; every batch is within the maximum then configured; and
every call of `add_command` is accounted for, by counters that a `usize` holds when there
are fewer than `2 ^ 64` calls. -/
theorem conserves_commands (config : BatchConfig) (now : Nat) (calls : List BatcherCall) :
    let final := run step (new config now) calls
    (collect step emitted (new config now) calls).flatMap CommandBatch.commands ++ final.buffer =
        collect step accepted (new config now) calls ∧
      Along step (fun s call => ∀ batch ∈ s.emitted call,
        batch.commands.length ≤ s.config.maxBatchSize) (new config now) calls ∧
      final.stats.totalCommands + final.bufferLen + final.stats.commandsDropped =
        (calls.map adds).sum ∧
      (calls.length < u64Size → final.stats.Fits) := by
  refine ⟨?_, ?_, ?_, stats_fit config now⟩
  · rw [flatMap_collect]
    exact collect_conserved buffer (fun s call _ => step_conserves s call)
      (along_of_forall (fun _ _ => True.intro) _ calls)
  · refine along_of_kept step_settled ?_ (settled_new config now) calls
    intro s call settled batch hbatch
    rw [← settled.currentBatchSize]
    exact emitted_length_le s call batch hbatch
  · have total := account_run step_account (new config now) calls
    exact total.trans (Nat.zero_add _)

end CommandBatcher
end Rabia
