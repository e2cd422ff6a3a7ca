import Rabia.Batching.Sizing

/-!
# The batcher's task

`AsyncCommandBatcher` of `rabia-core/src/batching.rs`: callers put commands into one
channel, and a task takes them out, feeds the batcher, flushes it at every tick and puts
its batches into another. A caller's `Ok` is given before the batcher sees the command.
What comes out, and then the batcher's buffer, are the commands that found room there, in
the order of their arrival (`task_keeps`); the others are dropped. With a delay of zero the
task panics before its loop, and receives nothing (`received_of_no_delay`).
-/

namespace Rabia

open Rabia.Lib

/-- `AsyncCommandBatcher`, with its task. -/
structure AsyncCommandBatcher where
  /-- What callers sent and the task has not received. -/
  commandQueue : List Command
  batcher : CommandBatcher
  /-- The batches the task sent so far. -/
  sent : List CommandBatch
  /-- Whether the handle, with its sender and its receiver, is there. -/
  alive : Bool
  /-- Whether the task has neither ended nor panicked. -/
  running : Bool
deriving DecidableEq, Repr

/-- What happens next: a caller adds a command, the task takes one of its branches, or the
handle is dropped. -/
inductive TaskEvent where
  | addCommand (command : Command)
  | command (at' : Reading)
  | tick (at' : Reading)
  | statsRequest
  | dropped
deriving DecidableEq, Repr

namespace AsyncCommandBatcher

/-- `AsyncCommandBatcher::new`. -/
def new (config : BatchConfig) (now : Nat) : AsyncCommandBatcher :=
  ⟨[], .new config now, [], true, true⟩

/-- `add_command`. -/
def addCommand (command : Command) (s : AsyncCommandBatcher) :
    Except RabiaError Unit × AsyncCommandBatcher :=
  if s.running then (.ok (), { s with commandQueue := s.commandQueue ++ [command] })
  else (.error (.internal "Batcher task has stopped"), s)

/-- `batch_tx.send`; the loop ends when the receiver is gone. -/
def send (batch : CommandBatch) (s : AsyncCommandBatcher) : AsyncCommandBatcher :=
  if s.alive then { s with sent := s.sent ++ [batch] } else { s with running := false }

/-- The branch of the loop that receives a command. -/
def receive (at' : Reading) (s : AsyncCommandBatcher) : AsyncCommandBatcher :=
  match s.commandQueue with
  -- the branch is taken without a command only when the sender is gone
  | [] => if s.alive then s else { s with running := false }
  | cmd :: commandQueue =>
    let (result, batcher) := s.batcher.addCommand at' cmd
    let s := { s with commandQueue := commandQueue, batcher := batcher }
    match result with
    | .ok (some batch) => s.send batch
    | .ok none => s
    | .error _ => s

/-- The branch for the ticks of the flush interval. -/
def tick (at' : Reading) (s : AsyncCommandBatcher) : AsyncCommandBatcher :=
  let (result, batcher) := s.batcher.flush at'
  let s := { s with batcher := batcher }
  match result with
  | some batch => s.send batch
  | none => s

/-- Whether the task gets to its loop: `tokio::time::interval`, which it calls before that,
panics on a period of zero. -/
def loops (s : AsyncCommandBatcher) : Bool :=
  s.running && decide (s.batcher.config.maxBatchDelay ≠ 0)

/-- The task takes a turn, in one of the branches of its loop if it gets there. -/
def turn (branch : AsyncCommandBatcher → AsyncCommandBatcher) (s : AsyncCommandBatcher) :
    AsyncCommandBatcher :=
  if s.loops then branch s else { s with running := false }

/-- One event. -/
def step (s : AsyncCommandBatcher) : TaskEvent → AsyncCommandBatcher
  | .addCommand command => (s.addCommand command).2
  | .command at' => s.turn (receive at')
  | .tick at' => s.turn (tick at')
  -- The branch for these does nothing.
  | .statsRequest => s.turn id
  | .dropped => { s with alive := false }

/-- The command for which an `add_command` returns `Ok`. -/
def acknowledged (s : AsyncCommandBatcher) : TaskEvent → List Command
  | .addCommand command =>
    match (s.addCommand command).1 with
    | .ok () => [command]
    | .error _ => []
  | .command _ | .tick _ | .statsRequest | .dropped => []

/-- The command that the task receives. -/
def received (s : AsyncCommandBatcher) : TaskEvent → List Command
  | .command _ => if s.loops then s.commandQueue.take 1 else []
  | .addCommand _ | .tick _ | .statsRequest | .dropped => []

/-- The same, where the batcher's buffer has room for it. -/
def kept (s : AsyncCommandBatcher) (e : TaskEvent) : List Command :=
  if s.batcher.buffer.length < s.batcher.config.bufferCapacity then s.received e else []

/-- The commands in the batches that were sent, and then those that wait. -/
def delivered (s : AsyncCommandBatcher) : List Command :=
  s.sent.flatMap CommandBatch.commands ++ s.batcher.buffer

/-! ## While the receiver is there -/

/-- The handle is there, and so is the task unless it panicked. -/
structure Live (s : AsyncCommandBatcher) : Prop where
  alive : s.alive
  running : s.running ∨ s.batcher.config.maxBatchDelay = 0

theorem live_new (config : BatchConfig) (now : Nat) : Live (new config now) :=
  ⟨rfl, Or.inl rfl⟩

/-- If the task does not get to its loop, its interval has no period. -/
theorem Live.no_delay {s : AsyncCommandBatcher} (live : Live s) (stopped : ¬ s.loops) :
    s.batcher.config.maxBatchDelay = 0 := by
  rcases live.running with running | zero
  · by_contra delay
    exact stopped (by simp [loops, running, delay])
  · exact zero

theorem running_of_loops {s : AsyncCommandBatcher} (loops : s.loops) : s.running :=
  (Bool.and_eq_true_iff.mp loops).1

theorem receive_idle {s : AsyncCommandBatcher} (live : Live s) (empty : s.commandQueue = [])
    (at' : Reading) : s.receive at' = s := by
  simp [receive, empty, live.alive]

theorem receive_live {s : AsyncCommandBatcher} (live : Live s) {cmd : Command}
    {rest : List Command} (found : s.commandQueue = cmd :: rest) (at' : Reading) :
    s.receive at' = { s with
      commandQueue := rest
      batcher := s.batcher.step (.addCommand at' cmd)
      sent := s.sent ++ s.batcher.emitted (.addCommand at' cmd) } := by
  simp only [receive, found, CommandBatcher.step, CommandBatcher.emitted]
  generalize s.batcher.addCommand at' cmd = answer
  rcases answer with ⟨err | (none | batch), batcher⟩
  · simp
  · simp
  · simp [send, live.alive]

theorem tick_live {s : AsyncCommandBatcher} (live : Live s) (at' : Reading) :
    s.tick at' = { s with
      batcher := s.batcher.step (.flush at')
      sent := s.sent ++ s.batcher.emitted (.flush at') } := by
  simp only [tick, CommandBatcher.step, CommandBatcher.emitted]
  generalize s.batcher.flush at' = answer
  rcases answer with ⟨none | batch, batcher⟩
  · simp
  · simp [send, live.alive]

/-- What an event does: to the callers' channel, to the batcher, and to the batches. -/
inductive Turn (s : AsyncCommandBatcher) :
    TaskEvent → List Command → List Command → AsyncCommandBatcher → Prop
  | acknowledged {command} : s.running → Turn s (.addCommand command) [command] []
      { s with commandQueue := s.commandQueue ++ [command] }
  | idle {at'} : s.commandQueue = [] → Turn s (.command at') [] [] s
  | received {at' cmd rest} : s.running → s.commandQueue = cmd :: rest →
      Turn s (.command at') [] [cmd]
        { s with
          commandQueue := rest
          batcher := s.batcher.step (.addCommand at' cmd)
          sent := s.sent ++ s.batcher.emitted (.addCommand at' cmd) }
  | ticked {at'} : s.running → Turn s (.tick at') [] []
      { s with
        batcher := s.batcher.step (.flush at')
        sent := s.sent ++ s.batcher.emitted (.flush at') }
  | asked : Turn s .statsRequest [] [] s
  /-- The task panics, or has done so before. -/
  | panicked {e} : s.batcher.config.maxBatchDelay = 0 → Turn s e [] [] { s with running := false }

theorem turn_of_event {s : AsyncCommandBatcher} (live : Live s) (e : TaskEvent)
    (there : e ≠ .dropped) : Turn s e (s.acknowledged e) (s.received e) (s.step e) := by
  -- a turn of a task that does not get to its loop
  have stays (branch : AsyncCommandBatcher → AsyncCommandBatcher) (stopped : ¬ s.loops) :
      s.turn branch = { s with running := false } := if_neg stopped
  cases e with
  | addCommand command =>
      by_cases running : s.running
      · have told : s.acknowledged (.addCommand command) = [command] := by
          simp [AsyncCommandBatcher.acknowledged, addCommand, running]
        have next : s.step (.addCommand command) =
            { s with commandQueue := s.commandQueue ++ [command] } := by
          simp [step, addCommand, running]
        rw [told, next]
        exact .acknowledged running
      · have told : s.acknowledged (.addCommand command) = [] := by
          simp [AsyncCommandBatcher.acknowledged, addCommand, running]
        have next : s.step (.addCommand command) = { s with running := false } := by
          show (s.addCommand command).2 = _
          unfold addCommand
          rw [if_neg running, ← Bool.eq_false_of_not_eq_true running]
        rw [told, next]
        exact .panicked (live.running.resolve_left running)
  | command at' =>
      by_cases loops : s.loops
      · have next : s.step (.command at') = s.receive at' := if_pos loops
        have head : s.received (.command at') = s.commandQueue.take 1 := if_pos loops
        rw [next, head]
        cases found : s.commandQueue with
        | nil =>
            rw [receive_idle live found]
            exact .idle found
        | cons cmd rest =>
            rw [receive_live live found]
            exact .received (running_of_loops loops) found
      · have head : s.received (.command at') = [] := if_neg loops
        have next : s.step (.command at') = { s with running := false } := stays _ loops
        rw [next, head]
        exact .panicked (live.no_delay loops)
  | tick at' =>
      by_cases loops : s.loops
      · have next : s.step (.tick at') = s.tick at' := if_pos loops
        rw [next, tick_live live]
        exact .ticked (running_of_loops loops)
      · have next : s.step (.tick at') = { s with running := false } := stays _ loops
        rw [next]
        exact .panicked (live.no_delay loops)
  | statsRequest =>
      by_cases loops : s.loops
      · have next : s.step .statsRequest = s := if_pos loops
        rw [next]
        exact .asked
      · have next : s.step .statsRequest = { s with running := false } := stays _ loops
        rw [next]
        exact .panicked (live.no_delay loops)
  | dropped => exact absurd rfl there

theorem step_live {s : AsyncCommandBatcher} (live : Live s) (e : TaskEvent)
    (there : e ≠ .dropped) : Live (s.step e) := by
  have turn := turn_of_event live e there
  generalize s.acknowledged e = told, s.received e = taken, s.step e = s' at turn ⊢
  cases turn with
  | idle | asked => exact live
  | acknowledged running | received running | ticked running => exact ⟨live.alive, Or.inl running⟩
  | panicked zero => exact ⟨live.alive, Or.inr zero⟩

/-- The task receives what callers were told is accepted, in that order. -/
theorem step_commandQueue {s : AsyncCommandBatcher} (live : Live s) (e : TaskEvent)
    (there : e ≠ .dropped) :
    s.received e ++ (s.step e).commandQueue = s.commandQueue ++ s.acknowledged e := by
  have turn := turn_of_event live e there
  generalize s.acknowledged e = told, s.received e = taken, s.step e = s' at turn ⊢
  cases turn with
  | acknowledged => rfl
  | idle | ticked | asked | panicked => exact (List.append_nil _).symm
  | received running found => simp [found]

/-- What is sent or waits grows by the command that is kept. -/
theorem step_delivered {s : AsyncCommandBatcher} (live : Live s) (e : TaskEvent)
    (there : e ≠ .dropped) : (s.step e).delivered = s.delivered ++ s.kept e := by
  have fed (call : BatcherCall) :
      (s.sent ++ s.batcher.emitted call).flatMap CommandBatch.commands ++
        (s.batcher.step call).buffer = s.delivered ++ s.batcher.accepted call := by
    rw [List.flatMap_append, List.append_assoc, CommandBatcher.step_conserves, delivered,
      List.append_assoc]
  have turn := turn_of_event live e there
  unfold kept
  generalize s.acknowledged e = told, s.received e = taken, s.step e = s' at turn ⊢
  cases turn with
  | acknowledged | idle | asked | panicked =>
      rw [ite_self]
      exact (List.append_nil _).symm
  | @received at' cmd rest running found =>
      rw [← CommandBatcher.accepted_addCommand s.batcher at' cmd]
      exact fed (.addCommand at' cmd)
  | @ticked at' =>
      rw [ite_self]
      exact fed (.flush at')

/-! ## Runs -/

/-- What the batcher meets as long as its configuration is well sized. -/
structure Roomy (s : AsyncCommandBatcher) : Prop extends Live s where
  settled : s.batcher.Settled
  sized : s.batcher.config.WellSized
  below : s.batcher.buffer.length < s.batcher.config.maxBatchSize

theorem step_roomy {s : AsyncCommandBatcher} (roomy : Roomy s) (e : TaskEvent)
    (there : e ≠ .dropped) : Roomy (s.step e) := by
  have live := step_live roomy.toLive e there
  have turn := turn_of_event roomy.toLive e there
  have fed (call : BatcherCall) (sized : call.WellSized) (fits : s.batcher.FitsConfig call) :=
    And.intro (CommandBatcher.step_settled s.batcher call roomy.settled)
      (And.intro (CommandBatcher.step_wellSized s.batcher call roomy.sized sized)
        (CommandBatcher.step_below roomy.settled roomy.sized roomy.below call fits))
  generalize s.acknowledged e = told, s.received e = taken, s.step e = s' at live turn ⊢
  cases turn with
  | acknowledged | idle | asked | panicked =>
      exact ⟨live, roomy.settled, roomy.sized, roomy.below⟩
  | @received at' cmd rest running found =>
      obtain ⟨settled, sized, below⟩ := fed (.addCommand at' cmd) True.intro (by rintro _ ⟨⟩)
      exact ⟨live, settled, sized, below⟩
  | @ticked at' =>
      obtain ⟨settled, sized, below⟩ := fed (.flush at') True.intro (by rintro _ ⟨⟩)
      exact ⟨live, settled, sized, below⟩

/-- A batcher with a well-sized configuration keeps whatever it receives. -/
theorem kept_of_roomy {s : AsyncCommandBatcher} (roomy : Roomy s) (e : TaskEvent) :
    s.kept e = s.received e :=
  if_pos (Nat.lt_of_lt_of_le roomy.below roomy.sized.2)

/-- While the receiver is there, the task receives, in order, the commands that callers
were told are accepted; those that find room in the buffer are in the batches sent, then in
the buffer, in that order; and with a well-sized configuration that is all of them. -/
theorem task_keeps (config : BatchConfig) (now : Nat) {events : List TaskEvent}
    (there : ∀ e ∈ events, e ≠ .dropped) :
    let start := new config now
    let final := run step start events
    collect step received start events ++ final.commandQueue =
        collect step acknowledged start events ∧
      final.sent.flatMap CommandBatch.commands ++ final.batcher.buffer =
        collect step kept start events ∧
      (config.WellSized → collect step kept start events = collect step received start events) := by
  intro start final
  have live : Along step (fun s e => Live s ∧ e ≠ .dropped) start events :=
    along_of_invariant (I := Live) (fun s e live there => step_live live e there)
      (fun s e live there => ⟨live, there⟩) (live_new config now) (along_of_mem there)
  refine ⟨?_, ?_, ?_⟩
  · exact collect_conserved commandQueue (fun s e h => step_commandQueue h.1 e h.2) live
  · exact collect_grown delivered (fun s e h => step_delivered h.1 e h.2) live
  · intro sized
    have roomy : Roomy start :=
      ⟨live_new config now, CommandBatcher.settled_new config now, sized, sized.1⟩
    apply collect_congr
    exact along_of_invariant (I := Roomy) (fun s e roomy there => step_roomy roomy e there)
      (fun s e roomy _ => kept_of_roomy roomy e) roomy (along_of_mem there)

/-- A task whose interval has no period leaves the batcher alone. -/
theorem step_of_no_delay {s : AsyncCommandBatcher}
    (zero : s.batcher.config.maxBatchDelay = 0) (e : TaskEvent) :
    s.received e = [] ∧ (s.step e).batcher = s.batcher := by
  have stopped : s.loops = false := by simp [loops, zero]
  have stays (branch : AsyncCommandBatcher → AsyncCommandBatcher) :
      (s.turn branch).batcher = s.batcher := by
    simp [turn, stopped]
  cases e with
  | addCommand command =>
      refine ⟨rfl, ?_⟩
      show (s.addCommand command).2.batcher = s.batcher
      unfold addCommand
      split <;> rfl
  | command at' => exact ⟨by simp [received, stopped], stays _⟩
  | tick at' => exact ⟨rfl, stays _⟩
  | statsRequest => exact ⟨rfl, stays _⟩
  | dropped => exact ⟨rfl, rfl⟩

/-- With a delay of zero the task never receives a command. -/
theorem received_of_no_delay {s : AsyncCommandBatcher}
    (zero : s.batcher.config.maxBatchDelay = 0) (events : List TaskEvent) :
    collect step received s events = [] := by
  induction events generalizing s with
  | nil => rfl
  | cons e events ih =>
      obtain ⟨nothing, same⟩ := step_of_no_delay zero e
      rw [collect_cons, nothing, ih (by rw [same]; exact zero), List.append_nil]

/-- Two commands and two turns of the task. -/
def twoCommands : List TaskEvent :=
  [.addCommand ⟨1, []⟩, .addCommand ⟨2, []⟩, .command ⟨0, 0, ⟨1⟩, 0⟩, .command ⟨0, 0, ⟨2⟩, 0⟩]

theorem task_keeps_twoCommands :
    (∀ e ∈ twoCommands, e ≠ .dropped) ∧
      collect step kept (new ⟨2, 5, 10, false⟩ 0) twoCommands =
        collect step received (new ⟨2, 5, 10, false⟩ 0) twoCommands := by
  have there : ∀ e ∈ twoCommands, e ≠ .dropped := by simp [twoCommands]
  exact ⟨there, (task_keeps ⟨2, 5, 10, false⟩ 0 there).2.2 (by decide)⟩

/-- With room for one command, the second is lost: its caller was told `Ok`, the task
received it, and it is neither in a batch nor in the buffer. -/
theorem twoCommands_lost :
    let final := run step (new ⟨2, 5, 1, false⟩ 0) twoCommands
    collect step acknowledged (new ⟨2, 5, 1, false⟩ 0) twoCommands = [⟨1, []⟩, ⟨2, []⟩] ∧
      collect step received (new ⟨2, 5, 1, false⟩ 0) twoCommands = [⟨1, []⟩, ⟨2, []⟩] ∧
      final.sent = [] ∧ final.batcher.buffer = [⟨1, []⟩] := by
  decide

end AsyncCommandBatcher
end Rabia
