import Rabia.Core.Types
import Rabia.Lib.Futures

/-!
# Processing the commands of a batch

`BatchProcessor` of `rabia-core/src/batching.rs`, which has the commands of a batch processed
one after another or, for independent commands, all at once. The `try_join_all` of `futures-util`
is a parameter; `Future.Joins` has what its documentation says of it.
-/

namespace Rabia

open Rabia.Lib

/-- `BatchProcessor`. -/
structure BatchProcessor where
  transformFn : Option (Command → Command)
  parallel : Bool

namespace BatchProcessor

def new : BatchProcessor := ⟨none, false⟩

/-- `with_transform`. -/
def withTransform (transformFn : Command → Command) (bp : BatchProcessor) : BatchProcessor :=
  { bp with transformFn := some transformFn }

/-- `with_parallel`. -/
def withParallel (parallel : Bool) (bp : BatchProcessor) : BatchProcessor :=
  { bp with parallel := parallel }

/-- The commands of a batch, transformed if so configured. -/
def transformed (bp : BatchProcessor) (batch : CommandBatch) : List Command :=
  match bp.transformFn with
  | some transform => batch.commands.map transform
  | none => batch.commands

variable {σ : Type}

/-- What a processor makes of a command: the call is the first poll, and it leaves the future
that the processor returns. -/
def call (processor : Command → σ → Future σ (Except RabiaError Bytes) × σ) (command : Command) :
    Future σ (Except RabiaError Bytes) :=
  .pending (fun s => (processor command s).2) fun s => (processor command s).1

/-- `process_batch`. `try_join_all` has the processor called on all commands first; then the
futures are polled by the schedule, and it may not have returned at its end. -/
def processBatch (tryJoinAll : Future.Join σ RabiaError Bytes) (bp : BatchProcessor)
    (schedule : List Nat) (batch : CommandBatch)
    (processor : Command → σ → Future σ (Except RabiaError Bytes) × σ) (s : σ) :
    Option (Except RabiaError (List Bytes)) × σ :=
  let commands := bp.transformed batch
  if bp.parallel && 1 < commands.length then
    let futures := commands.map (call processor)
    let polls := List.range commands.length ++ schedule
    (tryJoinAll polls futures s, (Future.pollAll polls futures s).2)
  else
    let (results, s') := Future.inSequence (commands.map (call processor)) s
    (some results, s')

/-- Processed in parallel by a `try_join_all` that obeys the laws of a join, whatever the
schedule, independent commands return what they return one after another, and leave the state
in which that leaves it. They fail only if they fail one after another, with the error of one
of them; and however they were polled so far, they can be polled until they return. -/
theorem parallel_agrees {tryJoinAll : Future.Join σ RabiaError Bytes}
    (joins : Future.Joins tryJoinAll) (bp : BatchProcessor) (batch : CommandBatch)
    (processor : Command → σ → Future σ (Except RabiaError Bytes) × σ) (s : σ)
    (apart : ((bp.transformed batch).map (call processor)).Pairwise Future.Independent)
    (schedule : List Nat) :
    let parallel := (bp.withParallel true).processBatch tryJoinAll schedule batch processor s
    let plain := (bp.withParallel false).processBatch tryJoinAll [] batch processor s
    (∀ results, parallel.1 = some (.ok results) → plain = parallel) ∧
      (∀ err, parallel.1 = some (.error err) →
        (∃ err', plain.1 = some (.error err')) ∧
          .error err ∈ (Future.inOrder ((bp.transformed batch).map (call processor)) s).1) ∧
      ∃ more, ((bp.withParallel true).processBatch tryJoinAll (schedule ++ more) batch processor
        s).1 ≠ none := by
  intro parallel plain
  let futures := (bp.transformed batch).map (call processor)
  have plain_eq : plain = (some (Future.inSequence futures s).1, (Future.inSequence futures s).2) :=
    rfl
  by_cases several : 1 < (bp.transformed batch).length
  · let polls (schedule' : List Nat) := List.range (bp.transformed batch).length ++ schedule'
    have parallel_eq : ∀ schedule',
        (bp.withParallel true).processBatch tryJoinAll schedule' batch processor s =
          (tryJoinAll (polls schedule') futures s,
            (Future.pollAll (polls schedule') futures s).2) := fun schedule' =>
      if_pos (decide_eq_true several)
    have parallel_now : parallel = _ := parallel_eq schedule
    have outcome : parallel.1 = tryJoinAll (polls schedule) futures s :=
      congrArg Prod.fst parallel_now
    refine ⟨?_, ?_, ?_⟩
    · intro results returned
      have sequential := joins.eq_ok apart (outcome.symm.trans returned)
      rw [plain_eq, sequential, parallel_now, ← outcome, returned]
    · intro err returned
      obtain ⟨own, err', failed⟩ := joins.eq_error apart (outcome.symm.trans returned)
      exact ⟨⟨err', by rw [plain_eq, failed]⟩, own⟩
    · obtain ⟨more, returned⟩ := joins.exists_returned (polls schedule) futures s
      refine ⟨more, ?_⟩
      rwa [parallel_eq, show polls (schedule ++ more) = polls schedule ++ more from
        (List.append_assoc _ _ _).symm]
  · have parallel_eq : ∀ schedule',
        (bp.withParallel true).processBatch tryJoinAll schedule' batch processor s = plain :=
      fun schedule' => if_neg fun taken => several (of_decide_eq_true taken)
    refine ⟨fun results _ => (parallel_eq schedule).symm, ?_, ⟨[], ?_⟩⟩
    · intro err returned
      rw [show parallel = plain from parallel_eq schedule] at returned
      exact ⟨⟨err, returned⟩, Future.mem_inOrder_of_inSequence (Option.some.inj returned)⟩
    · rw [parallel_eq]
      exact nofun

/-- A processor that counts commands: it reads one of two counters, the first for commands with
the id 0, waits, and writes what it read and one more. -/
def counting (command : Command) (s : Nat × Nat) :
    Future (Nat × Nat) (Except RabiaError Bytes) × (Nat × Nat) :=
  if command.id = 0 then
    (.pending id fun read => .pending (fun t => (read.1 + 1, t.2)) fun _ => .ready (.ok []), s)
  else
    (.pending id fun read => .pending (fun t => (t.1, read.2 + 1)) fun _ => .ready (.ok []), s)

/-- Two commands for different counters, whose polls take turns. -/
theorem parallel_agrees_two_counters :
    let batch : CommandBatch := ⟨⟨0⟩, [⟨0, []⟩, ⟨1, []⟩], 0⟩
    (new.withParallel true).processBatch Future.joined [1, 0, 0, 1] batch counting (0, 0) =
        (some (.ok [[], []]), (1, 1)) ∧
      (new.withParallel false).processBatch Future.joined [] batch counting (0, 0) =
        (some (.ok [[], []]), (1, 1)) := by
  intro batch
  have apart : ((new.transformed batch).map (call counting)).Pairwise Future.Independent := by
    refine List.pairwise_pair.mpr ?_
    -- one case for each pair of polls
    repeat' first
      | exact .readyLeft _ _
      | exact .readyRight _ _
      | refine .pending (fun _ => rfl) (fun _ => rfl) (fun _ => rfl) (fun _ => ?_) (fun _ => ?_)
  have agrees := (parallel_agrees Future.joins_joined new batch counting (0, 0) apart
    [1, 0, 0, 1]).1 [[], []] rfl
  exact ⟨rfl, agrees.trans rfl⟩

/-- Two commands for the same counter, of which one is lost. -/
example : ((new.withParallel true).processBatch Future.joined [1, 0, 0, 1]
    ⟨⟨0⟩, [⟨0, []⟩, ⟨0, []⟩], 0⟩ counting (0, 0)).2 = (1, 0) := rfl

end BatchProcessor

end Rabia
