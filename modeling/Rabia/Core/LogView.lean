import Rabia.Core.StateMachine

/-!
# State machines that keep a log

What a state machine has executed cannot be seen from the responses of its
commands. A `LogView` reads it as the log of the entries that its commands wrote:
a command that succeeds appends to the log, and restoring a snapshot brings back
the log of the machine that it was made from.
-/

namespace Rabia

/-- A reading of a state machine as a log with entries in `ε`. -/
structure LogView (SM : Type) [StateMachine SM] (ε : Type) where
  log : SM → List ε
  /-- What a command writes. -/
  entries : Command → List ε
  appended : ∀ {sm sm' : SM} {command : Command} {response : Bytes},
    StateMachine.applyCommand sm command = (.ok response, sm') →
      log sm' = log sm ++ entries command
  restored : ∀ {sm : SM} {snapshot : Snapshot}, StateMachine.createSnapshot sm = .ok snapshot →
    ∀ old : SM, (StateMachine.restoreSnapshot old snapshot).1 = .ok () ∧
      log (StateMachine.restoreSnapshot old snapshot).2 = log sm

/-- What a batch writes. -/
def LogView.batchEntries {SM ε : Type} [StateMachine SM] (view : LogView SM ε)
    (batch : CommandBatch) : List ε :=
  batch.commands.flatMap view.entries

/-! ## A machine of this kind -/

/-- A log of bytes. -/
structure ByteLog where
  bytes : Bytes
deriving DecidableEq, Repr

/-- A command appends its data. -/
instance : StateMachine ByteLog where
  applyCommand sm command := (.ok command.data, ⟨sm.bytes ++ command.data⟩)
  createSnapshot sm := .ok ⟨sm.bytes.length, sm.bytes, 0⟩
  restoreSnapshot _ snapshot := (.ok (), ⟨snapshot.data⟩)

def ByteLog.view : LogView ByteLog UInt8 where
  log := ByteLog.bytes
  entries := Command.data
  appended := by
    intro sm sm' command response h
    cases h
    rfl
  restored := by
    intro sm snapshot h old
    cases h
    exact ⟨rfl, rfl⟩

end Rabia
