import Rabia.Batching.Batcher

/-!
# The batch size and the buffer

What the size in force, which is always the configured maximum, means for the batcher: it
never adapts (`adapts_iff`), and a flush drains the buffer exactly when no more commands
wait than that maximum (`drains_along_iff`), which only `update_config` can upset
(`roomy_of_configured`).
-/

namespace Rabia

open Rabia.Lib

/-- A maximum of at least one command, for which there is room. -/
def BatchConfig.WellSized (config : BatchConfig) : Prop :=
  1 ≤ config.maxBatchSize ∧ config.maxBatchSize ≤ config.bufferCapacity

instance (config : BatchConfig) : Decidable config.WellSized :=
  inferInstanceAs (Decidable (_ ∧ _))

/-- A call that brings in no configuration but well-sized ones. -/
def BatcherCall.WellSized : BatcherCall → Prop
  | .addCommand _ _ | .flush _ => True
  | .updateConfig config => config.WellSized

namespace CommandBatcher

/-! ## Adaptation -/

/-- The flush of a call, if it makes one, and whether it is counted as one for the time
that went by. -/
def flushes (s : CommandBatcher) (call : BatcherCall) : List Bool :=
  (s.emitted call).map fun _ => decide (s.stats.flushTimeouts < (s.step call).stats.flushTimeouts)

/-- After some number of flushes, all of them for the time that went by, the size in force
is below the maximum, in every run of the admitted calls. -/
def Adapts (admitted : BatcherCall → Prop) (config : BatchConfig) : Prop :=
  ∃ n, ∀ now calls, (∀ call ∈ calls, admitted call) →
    collect step flushes (new config now) calls = List.replicate n true →
    (run step (new config now) calls).currentBatchSize < config.maxBatchSize

/-- Not a call of `update_config`. -/
def KeepsConfig : BatcherCall → Prop
  | .addCommand _ _ | .flush _ => True
  | .updateConfig _ => False

/-- `n` calls of `add_command`, each a whole delay after the one before. -/
def lateCalls (delay : Nat) (command : Command) (batchId : BatchId) : Nat → Nat → List BatcherCall
  | _, 0 => []
  | now, n + 1 =>
    .addCommand ⟨now + delay, now + delay, batchId, 0⟩ command ::
      lateCalls delay command batchId (now + delay) n

theorem keepsConfig_lateCalls (delay : Nat) (command : Command) (batchId : BatchId)
    (now n : Nat) : ∀ call ∈ lateCalls delay command batchId now n, KeepsConfig call := by
  induction n generalizing now with
  | zero =>
      intro call hcall
      cases hcall
  | succ n ih =>
      intro call hcall
      rcases List.mem_cons.mp hcall with rfl | later
      · trivial
      · exact ih (now + delay) call later

/-- A late command on an empty buffer is a batch of its own. -/
theorem addCommand_late {s : CommandBatcher} (settled : Settled s) (empty : s.buffer = [])
    (room : 0 < s.config.bufferCapacity) (large : 1 < s.config.maxBatchSize) (at' : Reading)
    (late : s.config.maxBatchDelay ≤ at'.checkedAt - s.lastFlush) (command : Command) :
    s.flushes (.addCommand at' command) = [true] ∧
      (s.step (.addCommand at' command)).buffer = [] ∧
      (s.step (.addCommand at' command)).config = s.config ∧
      (s.step (.addCommand at' command)).lastFlush = at'.flushedAt := by
  have short : s.buffer.length + 1 < s.currentBatchSize := by
    rw [settled.currentBatchSize, empty]
    exact large
  have roomy : s.buffer.length < s.config.bufferCapacity := by
    rw [empty]
    exact room
  have result : s.addCommand at' command = _ := addCommand_timed roomy short late
  have emits : ∃ batch, s.emitted (.addCommand at' command) = [batch] := by
    simp [emitted, result]
  obtain ⟨batch, emits⟩ := emits
  have next : s.step (.addCommand at' command) = _ := (congrArg Prod.snd result).trans
    (flushBatch_of_settled at' (s.pushBack command).countTimeout settled.size
      (Nat.succ_le_succ settled.timeouts))
  unfold flushes
  rw [emits, next]
  refine ⟨?_, ?_, rfl, rfl⟩
  · simp [countTimeout, BatchStats.recordBatch, pushBack]
  · have fits : (s.buffer ++ [command]).length ≤ s.config.maxBatchSize := by
      rw [empty]
      exact Nat.le_of_lt large
    exact List.drop_eq_nil_of_le fits

/-- Late commands make as many flushes, and leave the size at the maximum. -/
theorem lateCalls_flush {s : CommandBatcher} (settled : Settled s) (empty : s.buffer = [])
    (room : 0 < s.config.bufferCapacity) (large : 1 < s.config.maxBatchSize) (command : Command)
    (batchId : BatchId) (n : Nat) :
    let calls := lateCalls s.config.maxBatchDelay command batchId s.lastFlush n
    collect step flushes s calls = List.replicate n true ∧
      (run step s calls).currentBatchSize = s.config.maxBatchSize := by
  induction n generalizing s with
  | zero => exact ⟨rfl, settled.currentBatchSize⟩
  | succ n ih =>
      let late := s.lastFlush + s.config.maxBatchDelay
      obtain ⟨flush, empty', config', lastFlush'⟩ := addCommand_late settled empty room large
        ⟨late, late, batchId, 0⟩ (by simp [late]) command
      have rest := ih (step_settled s _ settled) empty' (by rw [config']; exact room)
        (by rw [config']; exact large)
      rw [config', lastFlush'] at rest
      refine ⟨?_, rest.2⟩
      rw [lateCalls, collect_cons, flush, rest.1]
      rfl

/-- A batcher without room never flushes. -/
theorem flushes_of_no_room {s : CommandBatcher} (full : s.config.bufferCapacity = 0)
    (empty : s.buffer = []) (call : BatcherCall) (keeps : KeepsConfig call) :
    s.flushes call = [] ∧ (s.step call).config.bufferCapacity = 0 ∧ (s.step call).buffer = [] := by
  cases call with
  | addCommand at' command =>
      simp only [flushes, emitted, step, addCommand_full (full.trans_le (Nat.zero_le _))]
      exact ⟨rfl, full, empty⟩
  | flush at' =>
      simp only [flushes, emitted, step, flush, if_pos empty]
      exact ⟨rfl, full, empty⟩
  | updateConfig config => cases keeps

theorem no_flush_of_no_room {s : CommandBatcher} (full : s.config.bufferCapacity = 0)
    (empty : s.buffer = []) {calls : List BatcherCall}
    (keep : ∀ call ∈ calls, KeepsConfig call) : collect step flushes s calls = [] := by
  induction calls generalizing s with
  | nil => rfl
  | cons call calls ih =>
      obtain ⟨none, full', empty'⟩ :=
        flushes_of_no_room full empty call (keep call List.mem_cons_self)
      rw [collect_cons, none, ih full' empty' fun c hc => keep c (List.mem_cons_of_mem call hc)]
      rfl

/-- A configuration that leaves room for a command never adapts. -/
theorem not_adapts_of_room {admitted : BatcherCall → Prop} {config : BatchConfig}
    (room : 0 < config.bufferCapacity) (large : 1 < config.maxBatchSize)
    (admits : ∀ call, KeepsConfig call → admitted call) : ¬ Adapts admitted config := by
  rintro ⟨n, below⟩
  let command : Command := ⟨0, []⟩
  obtain ⟨timed, size⟩ := lateCalls_flush (settled_new config 0) rfl room large command ⟨0⟩ n
  have calls := keepsConfig_lateCalls config.maxBatchDelay command ⟨0⟩ 0 n
  have less := below 0 _ (fun call hcall => admits call (calls call hcall)) timed
  exact absurd size (Nat.ne_of_lt less)

/-- One that leaves none does not either, once a call may make room. -/
theorem not_adapts_of_reconfigured {config : BatchConfig} (large : 1 < config.maxBatchSize) :
    ¬ Adapts (fun _ => True) config := by
  rintro ⟨n, below⟩
  let command : Command := ⟨0, []⟩
  let roomy : BatchConfig := { config with bufferCapacity := 1 }
  let calls : List BatcherCall :=
    .updateConfig roomy :: lateCalls config.maxBatchDelay command ⟨0⟩ 0 n
  have settled : Settled (updateConfig roomy (new config 0)) :=
    step_settled _ (.updateConfig roomy) (settled_new config 0)
  obtain ⟨timed, size⟩ := lateCalls_flush settled rfl Nat.one_pos large command ⟨0⟩ n
  have less := below 0 calls (fun _ _ => True.intro) timed
  exact absurd size (Nat.ne_of_lt less)

theorem step_config (s : CommandBatcher) (call : BatcherCall) (keeps : KeepsConfig call) :
    (s.step call).config = s.config := by
  have course := s.course call
  generalize s.accepted call = taken, s.emitted call = batches, s.step call = s' at course ⊢
  cases course with
  | refused | held | idle => rfl
  | sized | timed | forced => exact flushBatch_config _ _
  | configured => cases keeps

/-- In a run that keeps the configuration the size in force is its maximum. -/
theorem run_currentBatchSize (config : BatchConfig) (now : Nat) {calls : List BatcherCall}
    (keep : ∀ call ∈ calls, KeepsConfig call) :
    (run step (new config now) calls).currentBatchSize = config.maxBatchSize := by
  let Kept (s : CommandBatcher) : Prop := Settled s ∧ s.config = config
  have preserved : ∀ s call, Kept s → KeepsConfig call → Kept (s.step call) := by
    rintro s call ⟨settled, same⟩ keeps
    exact ⟨step_settled s call settled, (step_config s call keeps).trans same⟩
  obtain ⟨settled, same⟩ := run_invariant preserved ⟨settled_new config now, rfl⟩
    (along_of_mem keep)
  rw [settled.currentBatchSize, same]

/-- No configuration adapts, as long as calls may change it; in runs that keep it only one
without any room does, which never flushes. Either way the size stays in its bounds. The
counters that steer it are those of the source in runs of fewer than `2 ^ 64` calls. -/
theorem adapts_iff (config : BatchConfig) (_adaptive : config.adaptive = true)
    (large : 10 < config.maxBatchSize) :
    ¬ Adapts (fun _ => True) config ∧
      (Adapts KeepsConfig config ↔ config.bufferCapacity = 0) ∧
      ∀ now calls, (∀ call ∈ calls, KeepsConfig call) →
        min 10 config.maxBatchSize ≤ (run step (new config now) calls).currentBatchSize ∧
        (run step (new config now) calls).currentBatchSize ≤ config.maxBatchSize ∧
        (calls.length < u64Size → (run step (new config now) calls).stats.Fits) := by
  have several : 1 < config.maxBatchSize := by omega
  refine ⟨not_adapts_of_reconfigured several, ⟨?_, ?_⟩, ?_⟩
  · intro adapts
    by_contra room
    exact not_adapts_of_room (Nat.pos_of_ne_zero room) several (fun _ keeps => keeps) adapts
  · intro full
    refine ⟨1, fun now calls keep timed => ?_⟩
    rw [no_flush_of_no_room full rfl keep] at timed
    cases timed
  · intro now calls keep
    rw [run_currentBatchSize config now keep]
    exact ⟨Nat.min_le_right _ _, Nat.le_refl _, stats_fit config now⟩

/-- Two commands, each 10 ms after the one before: under the default configuration each is
flushed for the time that went by. -/
def twoLateCalls : List BatcherCall := lateCalls 10000000 ⟨1, []⟩ ⟨7⟩ 0 2

theorem adapts_iff_default :
    ¬ Adapts KeepsConfig BatchConfig.default ∧
      collect step flushes (new .default 0) twoLateCalls = [true, true] ∧
      10 ≤ (run step (new .default 0) twoLateCalls).currentBatchSize ∧
      (run step (new .default 0) twoLateCalls).currentBatchSize ≤ 100 := by
  obtain ⟨-, adapts, bounds⟩ := adapts_iff .default rfl (by decide)
  have within := bounds 0 twoLateCalls (keepsConfig_lateCalls _ _ _ 0 2)
  refine ⟨fun h => ?_, by decide +kernel, within.1, within.2.1⟩
  cases adapts.mp h

/-- The default configuration never adapts. -/
theorem default_not_adapts :
    BatchConfig.default.adaptive = true ∧ 10 < BatchConfig.default.maxBatchSize ∧
      ¬ Adapts KeepsConfig BatchConfig.default :=
  ⟨rfl, by decide, not_adapts_of_room (by decide) (by decide) fun _ keeps => keeps⟩

/-! ## Draining -/

/-- What `add_command` should return: no error, and no batch with commands left behind. -/
def Drained : Except RabiaError (Option CommandBatch) × CommandBatcher → Prop
  | (.error _, _) => False
  | (.ok none, _) => True
  | (.ok (some _), s) => s.buffer = []

/-- A flush, or a batch returned for a command, leaves the buffer empty, and no command is
refused. -/
def Drains (s : CommandBatcher) : BatcherCall → Prop
  | .addCommand at' command => Drained (s.addCommand at' command)
  | .flush at' => (s.flush at').2.buffer = []
  | .updateConfig _ => True

/-- A command finds fewer commands in the buffer than a batch may hold, a flush no more. -/
def Roomy (s : CommandBatcher) : BatcherCall → Prop
  | .addCommand _ _ => s.buffer.length < s.config.maxBatchSize
  | .flush _ => s.buffer.length ≤ s.config.maxBatchSize
  | .updateConfig _ => True

/-- A flush empties the buffer when no more commands wait than the maximum. -/
theorem flushBatch_empty_iff (at' : Reading) (s : CommandBatcher)
    (size : s.currentBatchSize = s.config.maxBatchSize) :
    (s.flushBatch at').2.buffer = [] ↔ s.buffer.length ≤ s.config.maxBatchSize := by
  have parts := congrArg List.length (flushBatch_parts at' s)
  rw [List.length_append, flushBatch_length, size] at parts
  rw [← List.length_eq_zero_iff]
  omega

theorem addCommand_drains_iff {s : CommandBatcher} (settled : Settled s)
    (sized : s.config.WellSized) (at' : Reading) (command : Command) :
    Drained (s.addCommand at' command) ↔ s.buffer.length < s.config.maxBatchSize := by
  have size := settled.currentBatchSize
  have fits : s.config.maxBatchSize ≤ s.config.bufferCapacity := sized.2
  have pushed : (s.pushBack command).buffer.length ≤ s.config.maxBatchSize ↔
      s.buffer.length < s.config.maxBatchSize := by
    rw [pushBack_length]
    exact Nat.succ_le_iff
  rcases Nat.lt_or_ge s.buffer.length s.config.bufferCapacity with room | full
  · rcases Nat.lt_or_ge (s.buffer.length + 1) s.currentBatchSize with short | reached
    · rcases Nat.lt_or_ge (at'.checkedAt - s.lastFlush) s.config.maxBatchDelay with early | late
      · rw [addCommand_held room short early]
        show True ↔ _
        simp only [true_iff]
        omega
      · rw [addCommand_timed room short late]
        exact (flushBatch_empty_iff at' (s.pushBack command).countTimeout size).trans pushed
    · rw [addCommand_sized room reached]
      exact (flushBatch_empty_iff at' (s.pushBack command) size).trans pushed
  · rw [addCommand_full full]
    show False ↔ _
    simp only [false_iff]
    omega

theorem flush_drains_iff {s : CommandBatcher} (settled : Settled s) (at' : Reading) :
    (s.flush at').2.buffer = [] ↔ s.buffer.length ≤ s.config.maxBatchSize := by
  unfold flush
  by_cases empty : s.buffer = []
  · simp [empty]
  · rw [if_neg empty]
    exact flushBatch_empty_iff at' s settled.currentBatchSize

theorem drains_iff_roomy {s : CommandBatcher} (settled : Settled s) (sized : s.config.WellSized)
    (call : BatcherCall) : s.Drains call ↔ s.Roomy call := by
  cases call with
  | addCommand at' command => exact addCommand_drains_iff settled sized at' command
  | flush at' => exact flush_drains_iff settled at'
  | updateConfig config => exact Iff.rfl

/-- Well-sized configurations stay in force. -/
theorem step_wellSized (s : CommandBatcher) (call : BatcherCall) (sized : s.config.WellSized)
    (call_sized : call.WellSized) : (s.step call).config.WellSized := by
  cases call with
  | addCommand at' command => rwa [step_config s (.addCommand at' command) True.intro]
  | flush at' => rwa [step_config s (.flush at') True.intro]
  | updateConfig config => exact call_sized

/-- With well-sized configurations, a run drains and refuses nothing exactly when every
command finds the buffer below the maximum, and every flush at most at the maximum. -/
theorem drains_along_iff {config : BatchConfig} (sized : config.WellSized) (now : Nat)
    {calls : List BatcherCall} (calls_sized : ∀ call ∈ calls, call.WellSized) :
    Along step Drains (new config now) calls ↔ Along step Roomy (new config now) calls := by
  let Kept (s : CommandBatcher) : Prop := Settled s ∧ s.config.WellSized
  have same : ∀ s call, Kept s → call.WellSized → (Drains s call ↔ Roomy s call) := by
    rintro s call ⟨settled, sized⟩ -
    exact drains_iff_roomy settled sized call
  have preserved : ∀ s call, Kept s → call.WellSized → Drains s call → Kept (s.step call) := by
    rintro s call ⟨settled, sized⟩ call_sized -
    exact ⟨step_settled s call settled, step_wellSized s call sized call_sized⟩
  exact along_congr same preserved ⟨settled_new config now, sized⟩ (along_of_mem calls_sized)

/-- A shrunk maximum: two commands wait when it becomes one, and a flush leaves one behind. -/
def shrinking : List BatcherCall :=
  [.addCommand ⟨0, 0, ⟨1⟩, 0⟩ ⟨1, []⟩, .addCommand ⟨0, 0, ⟨2⟩, 0⟩ ⟨2, []⟩,
    .updateConfig ⟨1, 10, 10, false⟩, .flush ⟨0, 0, ⟨3⟩, 0⟩]

theorem drains_along_iff_shrinking :
    (∀ call ∈ shrinking, call.WellSized) ∧
      (Along step Drains (new ⟨5, 10, 10, false⟩ 0) shrinking ↔
        Along step Roomy (new ⟨5, 10, 10, false⟩ 0) shrinking) := by
  have sized : ∀ call ∈ shrinking, call.WellSized := by
    simp [shrinking, BatcherCall.WellSized, BatchConfig.WellSized]
  exact ⟨sized, drains_along_iff (by decide) 0 sized⟩

theorem shrinking_keeps_commands :
    (BatchConfig.WellSized ⟨5, 10, 10, false⟩ ∧ ∀ call ∈ shrinking, call.WellSized) ∧
      ¬ Along step Drains (new ⟨5, 10, 10, false⟩ 0) shrinking ∧
      (run step (new ⟨5, 10, 10, false⟩ 0) shrinking).buffer = [⟨2, []⟩] := by
  refine ⟨⟨by decide, ?_⟩, ?_, by decide⟩
  · simp [shrinking, BatcherCall.WellSized, BatchConfig.WellSized]
  · rintro ⟨-, -, -, empty, -⟩
    revert empty
    show ¬ (flush _ _).2.buffer = []
    decide

/-- A configuration that a call brings in has room for the commands that wait. -/
def FitsConfig (s : CommandBatcher) (call : BatcherCall) : Prop :=
  ∀ config, call = .updateConfig config → s.buffer.length < config.maxBatchSize

theorem flushBatch_below (at' : Reading) (s : CommandBatcher)
    (size : s.currentBatchSize = s.config.maxBatchSize) (sized : s.config.WellSized)
    (fits : s.buffer.length ≤ s.config.maxBatchSize) :
    (s.flushBatch at').2.buffer.length < (s.flushBatch at').2.config.maxBatchSize := by
  rw [(flushBatch_empty_iff at' s size).mpr fits, flushBatch_config]
  exact sized.1

/-- Fewer commands wait than the maximum, as long as every new configuration fits them. -/
theorem step_below {s : CommandBatcher} (settled : Settled s) (sized : s.config.WellSized)
    (below : s.buffer.length < s.config.maxBatchSize) (call : BatcherCall)
    (fits : s.FitsConfig call) :
    (s.step call).buffer.length < (s.step call).config.maxBatchSize := by
  have size := settled.currentBatchSize
  have pushed (command : Command) :
      (s.pushBack command).buffer.length ≤ (s.pushBack command).config.maxBatchSize := by
    rw [pushBack_length]
    exact below
  have course := s.course call
  generalize s.accepted call = taken, s.emitted call = batches, s.step call = s' at course ⊢
  cases course with
  | refused | idle => exact below
  | @held at' command room short early =>
      rw [size] at short
      show (s.pushBack command).buffer.length < _
      rw [pushBack_length]
      exact short
  | @sized at' command =>
      exact flushBatch_below at' (s.pushBack command) size sized (pushed command)
  | @timed at' command =>
      exact flushBatch_below at' (s.pushBack command).countTimeout size sized (pushed command)
  | @forced at' => exact flushBatch_below at' s size sized (Nat.le_of_lt below)
  | @configured config => exact fits config rfl

/-- So only `update_config` can break the condition of `drains_along_iff`. -/
theorem roomy_of_configured {config : BatchConfig} (sized : config.WellSized) (now : Nat)
    {calls : List BatcherCall} (calls_sized : ∀ call ∈ calls, call.WellSized)
    (fits : Along step FitsConfig (new config now) calls) :
    Along step Roomy (new config now) calls := by
  let Kept (s : CommandBatcher) : Prop :=
    Settled s ∧ s.config.WellSized ∧ s.buffer.length < s.config.maxBatchSize
  let Allowed (s : CommandBatcher) (call : BatcherCall) : Prop := call.WellSized ∧ s.FitsConfig call
  have preserved : ∀ s call, Kept s → Allowed s call → Kept (s.step call) := by
    rintro s call ⟨settled, sized, below⟩ ⟨call_sized, fits⟩
    exact ⟨step_settled s call settled, step_wellSized s call sized call_sized,
      step_below settled sized below call fits⟩
  have roomy : ∀ s call, Kept s → Allowed s call → Roomy s call := by
    rintro s call ⟨-, -, below⟩ -
    cases call with
    | addCommand at' command => exact below
    | flush at' => exact Nat.le_of_lt below
    | updateConfig config => trivial
  exact along_of_invariant preserved roomy ⟨settled_new config now, sized, sized.1⟩
    ((along_of_mem calls_sized).and fits)

end CommandBatcher
end Rabia
