import Rabia.Core.Types
import Rabia.Lib.FreeList
import Rabia.Lib.Runs

/-!
# Memory pools

`rabia-core/src/memory_pool.rs`: pools of byte buffers and of strings. A buffer is
handed out by its size class, changed by its user in any way, and returns to the
free list of its class when it is dropped with the capacity it was asked for. A pool
and the buffers and strings that its users hold make one state; a history is any
sequence of their calls.

Every free list holds empty buffers only, of at least the size of its class. The
large classes hand out what they have, however large the request.
-/

namespace Rabia

open Rabia.Lib

/-- What `with_capacity` allocates: at least what it is asked for. -/
structure Allocator where
  capacity : Nat → Nat
  enough : ∀ n, n ≤ capacity n

/-! ## Buffers -/

/-- A `Vec<u8>`: its contents within its capacity. -/
structure ByteVec where
  bytes : Bytes
  capacity : Nat
  fits : bytes.length ≤ capacity

namespace ByteVec

/-- `Vec::with_capacity`. -/
def withCapacity (alloc : Allocator) (n : Nat) : ByteVec := ⟨[], alloc.capacity n, Nat.zero_le _⟩

/-- `Vec::new`, what `std::mem::take` leaves. -/
def new : ByteVec := ⟨[], 0, Nat.le_refl 0⟩

/-- The vector with these contents. When they exceed the capacity, it grows to them and by
`extra`, which is up to the allocator. -/
def store (extra : Nat) (bytes : Bytes) (vec : ByteVec) : ByteVec where
  bytes := bytes
  capacity := if bytes.length ≤ vec.capacity then vec.capacity else bytes.length + extra
  fits := by split <;> omega

/-- `clear` keeps the capacity. -/
def clear (vec : ByteVec) : ByteVec := ⟨[], vec.capacity, Nat.zero_le _⟩

/-- `resize`. -/
def resize (extra newLen : Nat) (value : UInt8) (vec : ByteVec) : ByteVec :=
  vec.store extra (vec.bytes.take newLen ++ List.replicate (newLen - vec.bytes.length) value)

/-- `extend_from_slice`. -/
def extendFromSlice (extra : Nat) (slice : Bytes) (vec : ByteVec) : ByteVec :=
  vec.store extra (vec.bytes ++ slice)

end ByteVec

/-- The classes of buffers, each with a free list of its own: `small_buffers`,
`medium_buffers` and `large_buffers`. -/
inductive BufferClass where
  | small
  | medium
  | large
deriving DecidableEq

structure PoolConfig where
  smallBufferSize : Nat
  mediumBufferSize : Nat
  largeBufferSize : Nat
  maxPoolSize : Nat

/-- `PoolConfig::default`. -/
def PoolConfig.default : PoolConfig where
  smallBufferSize := 1024
  mediumBufferSize := 8192
  largeBufferSize := 65536
  maxPoolSize := 100

structure MemoryPool where
  buffers : BufferClass → List ByteVec
  maxPoolSize : Nat

/-- A buffer that returns to the pool when dropped. `pool` tells which free list. -/
structure PooledBuffer where
  buffer : ByteVec
  pool : BufferClass
  originalCapacity : Nat
  maxPoolSize : Nat

namespace BufferClass

/-- The class that serves a request. -/
def of (minSize : Nat) : BufferClass :=
  if minSize ≤ 1024 then .small else if minSize ≤ 8192 then .medium else .large

/-- The `original_capacity` of a buffer, with which it is made when there is none. -/
def originalCapacity (minSize : Nat) : BufferClass → Nat
  | .small => 1024
  | .medium => 8192
  | .large => max 65536 minSize

end BufferClass

namespace MemoryPool

/-- `MemoryPool::new`: the sizes of the configuration are not looked at. -/
def new (config : PoolConfig) : MemoryPool where
  buffers _ := []
  maxPoolSize := config.maxPoolSize

/-- `get_buffer`. -/
def getBuffer (alloc : Allocator) (minSize : Nat) (pool : MemoryPool) :
    PooledBuffer × MemoryPool :=
  let size := BufferClass.of minSize
  let originalCapacity := size.originalCapacity minSize
  let (buffer, buffers) :=
    FreeList.take size (ByteVec.withCapacity alloc originalCapacity) pool.buffers
  (⟨buffer, size, originalCapacity, pool.maxPoolSize⟩, { pool with buffers := buffers })

/-- `warm_up`: ten buffers of each class, of the default sizes and without regard to
`max_pool_size`. -/
def warmUp (alloc : Allocator) (pool : MemoryPool) : MemoryPool :=
  let config := PoolConfig.default
  let ten n := List.replicate 10 (ByteVec.withCapacity alloc n)
  { pool with
    buffers := FreeList.stock .large (ten config.largeBufferSize)
      (FreeList.stock .medium (ten config.mediumBufferSize)
        (FreeList.stock .small (ten config.smallBufferSize) pool.buffers)) }

/-- `clear`. -/
def clear (pool : MemoryPool) : MemoryPool := { pool with buffers := fun _ => [] }

end MemoryPool

namespace PooledBuffer

/-- `as_slice`. -/
def asSlice (b : PooledBuffer) : Bytes := b.buffer.bytes

/-- `take_bytes`. -/
def takeBytes (b : PooledBuffer) : Bytes × PooledBuffer :=
  (b.buffer.bytes, { b with buffer := .new })

/-- `drop`: the buffer returns to its free list if it has its capacity and there is room. -/
def drop (b : PooledBuffer) (pool : MemoryPool) : MemoryPool :=
  let buffer := b.buffer.clear
  if buffer.capacity = b.originalCapacity then
    { pool with buffers := FreeList.giveBack b.maxPoolSize b.pool buffer pool.buffers }
  else pool

end PooledBuffer

/-! ## Histories of a pool -/

/-- A pool and the buffers that its users hold. -/
structure PoolState where
  pool : MemoryPool
  loans : List PooledBuffer

/-- The calls on a pool and on the buffers handed out, which `loan` counts. -/
inductive PoolCall where
  | getBuffer (minSize : Nat)
  /-- Whatever a user does through `buffer_mut`. -/
  | bufferMut (loan : Nat) (buffer : ByteVec)
  | resize (loan extra newLen : Nat) (value : UInt8)
  | clearBuffer (loan : Nat)
  | takeBytes (loan : Nat)
  | drop (loan : Nat)
  | warmUp
  | clear

namespace PoolState

/-- The state after a call. -/
def step (alloc : Allocator) (s : PoolState) : PoolCall → PoolState
  | .getBuffer minSize =>
    let (buffer, pool) := s.pool.getBuffer alloc minSize
    ⟨pool, s.loans ++ [buffer]⟩
  | .bufferMut loan buffer => { s with loans := s.loans.modify loan ({ · with buffer := buffer }) }
  | .resize loan extra newLen value =>
    { s with loans := s.loans.modify loan fun b =>
        { b with buffer := b.buffer.resize extra newLen value } }
  | .clearBuffer loan =>
    { s with loans := s.loans.modify loan fun b => { b with buffer := b.buffer.clear } }
  | .takeBytes loan => { s with loans := s.loans.modify loan fun b => b.takeBytes.2 }
  | .drop loan =>
    match s.loans[loan]? with
    | some b => ⟨b.drop s.pool, s.loans.eraseIdx loan⟩
    | none => s
  | .warmUp => { s with pool := s.pool.warmUp alloc }
  | .clear => { s with pool := s.pool.clear }

/-- A pool of which nothing has been asked yet. -/
def start (pool : MemoryPool) : PoolState := ⟨pool, []⟩

end PoolState

/-! ### What the free lists hold -/

/-- The size from which the buffers of a class are made. -/
def BufferClass.least : BufferClass → Nat
  | .small => 1024
  | .medium => 8192
  | .large => 65536

theorem BufferClass.least_le_originalCapacity (minSize : Nat) (size : BufferClass) :
    size.least ≤ size.originalCapacity minSize := by
  cases size with
  | small => exact Nat.le_refl _
  | medium => exact Nat.le_refl _
  | large => exact Nat.le_max_left _ _

/-- A buffer that can be handed out: it is empty, and of the size of its class. -/
def Ready (size : BufferClass) (buffer : ByteVec) : Prop :=
  buffer.bytes = [] ∧ size.least ≤ buffer.capacity

theorem ready_withCapacity (alloc : Allocator) {size : BufferClass} {n : Nat}
    (large : size.least ≤ n) : Ready size (.withCapacity alloc n) :=
  ⟨rfl, large.trans (alloc.enough n)⟩

/-- The free lists hold ready buffers, and every buffer handed out was asked for with at
least the size of its class. -/
structure PoolState.Sound (s : PoolState) : Prop where
  free : Stocked Ready s.pool.buffers
  loans : ∀ b ∈ s.loans, b.pool.least ≤ b.originalCapacity

theorem forall_mem_modify {α : Type*} {P : α → Prop} {l : List α} {i : Nat} {f : α → α}
    (all : ∀ a ∈ l, P a) (kept : ∀ a, P a → P (f a)) : ∀ a ∈ l.modify i f, P a := by
  intro a member
  obtain ⟨j, found⟩ := List.mem_iff_getElem?.mp member
  rw [List.getElem?_modify] at found
  obtain ⟨b, old, rfl⟩ := Option.map_eq_some_iff.mp found
  have held := all b (List.mem_of_getElem? old)
  split
  · exact kept b held
  · exact held

namespace MemoryPool

variable (alloc : Allocator) {pool : MemoryPool}

theorem stocked_new (config : PoolConfig) : Stocked Ready (new config).buffers := Stocked.empty

/-- A buffer is handed out ready. -/
theorem ready_getBuffer (stocked : Stocked Ready pool.buffers) (minSize : Nat) :
    Ready (.of minSize) (pool.getBuffer alloc minSize).1.buffer :=
  stocked.take_fst (ready_withCapacity alloc (BufferClass.least_le_originalCapacity _ _))

theorem stocked_getBuffer (stocked : Stocked Ready pool.buffers) (minSize : Nat) :
    Stocked Ready (pool.getBuffer alloc minSize).2.buffers :=
  stocked.take_snd _ _

theorem stocked_warmUp (stocked : Stocked Ready pool.buffers) :
    Stocked Ready (pool.warmUp alloc).buffers := by
  have fresh : ∀ size : BufferClass,
      ∀ b ∈ List.replicate 10 (ByteVec.withCapacity alloc size.least), Ready size b := by
    intro size b member
    rw [List.eq_of_mem_replicate member]
    exact ready_withCapacity alloc (Nat.le_refl _)
  exact ((stocked.stock (fresh .small)).stock (fresh .medium)).stock (fresh .large)

/-- A buffer comes back ready. -/
theorem stocked_drop (stocked : Stocked Ready pool.buffers) {b : PooledBuffer}
    (asked : b.pool.least ≤ b.originalCapacity) : Stocked Ready (b.drop pool).buffers := by
  unfold PooledBuffer.drop
  by_cases same : b.buffer.clear.capacity = b.originalCapacity
  · rw [if_pos same]
    refine stocked.giveBack b.maxPoolSize ⟨rfl, ?_⟩
    rw [same]
    exact asked
  · rw [if_neg same]
    exact stocked

end MemoryPool

theorem PoolState.Sound.step (alloc : Allocator) {s : PoolState} (sound : s.Sound)
    (call : PoolCall) : (s.step alloc call).Sound := by
  obtain ⟨free, loans⟩ := sound
  cases call with
  | getBuffer minSize =>
      refine ⟨MemoryPool.stocked_getBuffer alloc free minSize, fun b member => ?_⟩
      rcases List.mem_append.mp member with old | new
      · exact loans b old
      · rw [List.mem_singleton.mp new]
        exact BufferClass.least_le_originalCapacity _ _
  | bufferMut loan buffer => exact ⟨free, forall_mem_modify loans fun _ asked => asked⟩
  | resize loan extra newLen value => exact ⟨free, forall_mem_modify loans fun _ asked => asked⟩
  | clearBuffer loan => exact ⟨free, forall_mem_modify loans fun _ asked => asked⟩
  | takeBytes loan => exact ⟨free, forall_mem_modify loans fun _ asked => asked⟩
  | drop loan =>
      simp only [PoolState.step]
      cases found : s.loans[loan]? with
      | none => exact ⟨free, loans⟩
      | some b =>
          refine ⟨MemoryPool.stocked_drop free (loans b (List.mem_of_getElem? found)), ?_⟩
          exact fun other member => loans other (List.mem_of_mem_eraseIdx member)
  | warmUp => exact ⟨MemoryPool.stocked_warmUp alloc free, loans⟩
  | clear => exact ⟨Stocked.empty, loans⟩

theorem PoolState.sound_start {pool : MemoryPool} (stocked : Stocked Ready pool.buffers) :
    (start pool).Sound :=
  ⟨stocked, fun _ member => absurd member List.not_mem_nil⟩

/-! ### How large the buffers are -/

/-- A request gets a buffer of at least the size that it asks for. -/
def PoolCall.Suffices (alloc : Allocator) (s : PoolState) : PoolCall → Prop
  | .getBuffer minSize => minSize ≤ (s.pool.getBuffer alloc minSize).1.buffer.capacity
  | _ => True

/-- A request for more than the size of the large class finds no large buffer, or one that
is large enough, at the front. -/
def PoolCall.FrontSuffices (s : PoolState) : PoolCall → Prop
  | .getBuffer minSize =>
    65536 < minSize → ∀ front ∈ (s.pool.buffers .large).head?, minSize ≤ front.capacity
  | _ => True

theorem suffices_iff (alloc : Allocator) {s : PoolState} (sound : s.Sound) (call : PoolCall) :
    call.Suffices alloc s ↔ call.FrontSuffices s := by
  cases call with
  | getBuffer minSize =>
      show minSize ≤ (s.pool.getBuffer alloc minSize).1.buffer.capacity ↔
        (65536 < minSize → ∀ front ∈ (s.pool.buffers .large).head?, minSize ≤ front.capacity)
      by_cases moderate : minSize ≤ 65536
      · -- every buffer of the class is large enough
        refine iff_of_true ?_ fun beyond => absurd moderate (by omega)
        have ready := (MemoryPool.ready_getBuffer alloc sound.free minSize).2
        refine le_trans ?_ ready
        unfold BufferClass.of
        split
        · assumption
        · split
          · assumption
          · exact moderate
      · have large : BufferClass.of minSize = .large := by
          unfold BufferClass.of
          rw [if_neg (by omega), if_neg (by omega)]
        rw [imp_iff_right (by omega)]
        show minSize ≤ (FreeList.take (.of minSize) _ s.pool.buffers).1.capacity ↔ _
        rw [large]
        refine FreeList.take_fst_iff (P := fun b : ByteVec => minSize ≤ b.capacity) _ ?_ _
        exact (Nat.le_max_right 65536 minSize).trans (alloc.enough _)
  | _ => exact Iff.rfl

end Rabia
