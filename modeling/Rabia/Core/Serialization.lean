import Rabia.Core.MemoryPool
import Rabia.Core.Messages

/-!
# Serialisation into pooled buffers

`rabia-core/src/serialization.rs`. The formats come from other crates: each is a
function of the message that gives bytes or the text of an error. The pooled path
appends to a buffer of the thread's own pool, whatever that buffer was used for
before.
-/

namespace Rabia

open Rabia.Lib

/-- `serde_json::to_vec` and `bincode::serialize`. -/
structure Formats where
  json : ProtocolMessage → Except String Bytes
  bincode : ProtocolMessage → Except String Bytes

/-- `RabiaError::Serialization`. -/
structure SerializationError where
  message : String
deriving DecidableEq

inductive Serializer where
  | json
  | binary
deriving DecidableEq

/-- The bytes that an estimate counts for the envelope, for a proposal or a decision
without its batch, for a command, and for a committed phase. -/
structure SizeEstimate where
  base : Nat
  decided : Nat
  command : Nat
  phase : Nat

/-- The size of a message under an estimate. -/
def SizeEstimate.size (estimate : SizeEstimate) (message : ProtocolMessage) : Nat :=
  let batchSize (batch : Option CommandBatch) : Nat :=
    (batch.map fun b => b.commands.length * estimate.command).getD 0
  let payloadSize :=
    match message.messageType with
    | .propose propose => estimate.decided + batchSize propose.batch
    | .voteRound1 _ => 32
    | .voteRound2 vote => 32 + vote.round1Votes.size * 16
    | .decision decision => estimate.decided + batchSize decision.batch
    | .syncRequest _ => 16
    | .syncResponse response =>
      64 + response.pendingBatches.length * estimate.command +
        response.committedPhases.length * estimate.phase
    | .newBatch newBatch => 32 + newBatch.batch.commands.length * estimate.command
    | .heartBeat _ => 24
    | .quorumNotification notification => 16 + notification.activeNodes.length * 16
  estimate.base + payloadSize

/-- `estimate_message_size`. -/
def estimateMessageSize (message : ProtocolMessage) : Nat :=
  SizeEstimate.size { base := 128, decided := 64, command := 64, phase := 16 } message

namespace Serializer

variable (formats : Formats)

/-- `serialize`. -/
def serialize (message : ProtocolMessage) : Serializer → Except SerializationError Bytes
  | .json => (formats.json message).mapError fun e => ⟨s!"JSON serialization failed: {e}"⟩
  | .binary => (formats.bincode message).mapError fun e => ⟨s!"Binary serialization failed: {e}"⟩

/-- `serialize_message`. -/
def serializeMessage (serializer : Serializer) (message : ProtocolMessage) :
    Except SerializationError Bytes :=
  serializer.serialize formats message

/-- `serialize_message_pooled` on the pool of the thread. On an error the buffer is
dropped. -/
def serializeMessagePooled (alloc : Allocator) (extra : Nat) (serializer : Serializer)
    (message : ProtocolMessage) (pool : MemoryPool) :
    Except SerializationError PooledBuffer × MemoryPool :=
  let estimatedSize := estimateMessageSize message
  let (buffer, pool) := pool.getBuffer alloc estimatedSize
  match serializer.serialize formats message with
  -- The bytes are made apart and then copied behind whatever the buffer holds.
  | .ok temp => (.ok { buffer with buffer := buffer.buffer.extendFromSlice extra temp }, pool)
  | .error e => (.error e, buffer.drop pool)

end Serializer

/-- What happens to the pool of a thread: calls on it and its buffers, and messages that are
serialised from it. -/
inductive LocalPoolCall where
  | call (call : PoolCall)
  | serialize (serializer : Serializer) (message : ProtocolMessage) (extra : Nat)

namespace LocalPool

variable (formats : Formats) (alloc : Allocator)

/-- `LOCAL_POOL`. -/
def start : PoolState := .start ((MemoryPool.new .default).warmUp alloc)

/-- The pool after a call. The buffer of a message goes to the caller. -/
def step (s : PoolState) : LocalPoolCall → PoolState
  | .call call => s.step alloc call
  | .serialize serializer message extra =>
    let (result, pool) := serializer.serializeMessagePooled formats alloc extra message s.pool
    match result with
    | .ok buffer => ⟨pool, s.loans ++ [buffer]⟩
    | .error _ => ⟨pool, s.loans⟩

theorem sound_step {s : PoolState} (sound : s.Sound) (call : LocalPoolCall) :
    (step formats alloc s call).Sound := by
  cases call with
  | call call => exact sound.step alloc call
  | serialize serializer message extra =>
      have asked : ∀ size : BufferClass,
          size.least ≤ size.originalCapacity (estimateMessageSize message) :=
        BufferClass.least_le_originalCapacity _
      have left := MemoryPool.stocked_getBuffer alloc sound.free (estimateMessageSize message)
      simp only [step, Serializer.serializeMessagePooled]
      cases serializer.serialize formats message with
      | ok temp =>
          refine ⟨left, fun b member => ?_⟩
          rcases List.mem_append.mp member with old | new
          · exact sound.loans b old
          · rw [List.mem_singleton.mp new]
            exact asked _
      | error e => exact ⟨MemoryPool.stocked_drop left (asked _), sound.loans⟩

/-- The free lists of a thread's pool hold empty buffers, whatever its users have done. -/
theorem sound_run (calls : List LocalPoolCall) :
    (run (step formats alloc) (start alloc) calls).Sound := by
  have fresh : (start alloc).Sound :=
    PoolState.sound_start (MemoryPool.stocked_warmUp alloc (MemoryPool.stocked_new .default))
  refine run_of_kept (I := PoolState.Sound) ?_ fresh calls
  intro s call sound
  exact sound_step formats alloc sound call

end LocalPool

/-- Appending to an empty buffer leaves what was appended. -/
theorem asSlice_serializeMessagePooled (formats : Formats) (alloc : Allocator) (extra : Nat)
    (serializer : Serializer) (message : ProtocolMessage) {pool : MemoryPool}
    (stocked : Stocked Ready pool.buffers) :
    (serializer.serializeMessagePooled formats alloc extra message pool).1.map
        PooledBuffer.asSlice =
      serializer.serializeMessage formats message := by
  have clean := (MemoryPool.ready_getBuffer alloc stocked (estimateMessageSize message)).1
  unfold Serializer.serializeMessagePooled Serializer.serializeMessage
  cases serializer.serialize formats message with
  | ok temp =>
      show Except.ok (_ ++ temp) = _
      rw [clean, List.nil_append]
  | error e => rfl

/-- After every history of the thread's pool, serialising into a pooled buffer gives the
bytes, or the error, that plain serialisation gives. -/
theorem pooled_eq_plain (formats : Formats) (alloc : Allocator) (calls : List LocalPoolCall)
    (serializer : Serializer) (message : ProtocolMessage) (extra : Nat) :
    let pool := (run (LocalPool.step formats alloc) (LocalPool.start alloc) calls).pool
    (serializer.serializeMessagePooled formats alloc extra message pool).1.map
        PooledBuffer.asSlice =
      serializer.serializeMessage formats message :=
  asSlice_serializeMessagePooled formats alloc extra serializer message
    (LocalPool.sound_run formats alloc calls).free

end Rabia
