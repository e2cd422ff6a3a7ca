import Rabia.Core.MemoryPool

/-!
# The string pool

The other pool of `rabia-core/src/memory_pool.rs`. Its strings only grow while they
are out, and always return when they are dropped.
-/

namespace Rabia

open Rabia.Lib

/-- A `String` within its capacity, both in bytes. -/
structure PoolString where
  text : String
  capacity : Nat
  fits : text.utf8ByteSize ≤ capacity

namespace PoolString

theorem empty_fits (n : Nat) : "".utf8ByteSize ≤ n := Nat.zero_le n

/-- `String::with_capacity`. -/
def withCapacity (alloc : Allocator) (n : Nat) : PoolString :=
  ⟨"", alloc.capacity n, empty_fits _⟩

/-- `clear` keeps the capacity. -/
def clear (s : PoolString) : PoolString := ⟨"", s.capacity, empty_fits _⟩

/-- `push_str`. A string that has to grow may grow by `extra` bytes more. -/
def pushStr (extra : Nat) (text : String) (s : PoolString) : PoolString where
  text := s.text ++ text
  capacity :=
    let needed := (s.text ++ text).utf8ByteSize
    if needed ≤ s.capacity then s.capacity else needed + extra
  fits := by
    simp only
    split <;> omega

theorem capacity_le_pushStr (extra : Nat) (text : String) (s : PoolString) :
    s.capacity ≤ (s.pushStr extra text).capacity := by
  simp only [pushStr]
  split <;> omega

end PoolString

/-- The pool. `strings false` are its `small_strings`, `strings true` its `large_strings`. -/
structure StringPool where
  strings : Bool → List PoolString
  maxPoolSize : Nat

/-- A string that returns to the pool when dropped. -/
structure PooledString where
  string : PoolString
  isLarge : Bool
  maxPoolSize : Nat

namespace StringPool

/-- `StringPool::new`. -/
def new (maxPoolSize : Nat) : StringPool := ⟨fun _ => [], maxPoolSize⟩

/-- `get_string`. -/
def getString (alloc : Allocator) (minCapacity : Nat) (pool : StringPool) :
    PooledString × StringPool :=
  let isLarge := decide (256 < minCapacity)
  let fresh := PoolString.withCapacity alloc (if isLarge then max 1024 minCapacity else 256)
  let (string, strings) := FreeList.take isLarge fresh pool.strings
  (⟨string, isLarge, pool.maxPoolSize⟩, { pool with strings := strings })

end StringPool

namespace PooledString

/-- `drop`. -/
def drop (s : PooledString) (pool : StringPool) : StringPool :=
  { pool with strings := FreeList.giveBack s.maxPoolSize s.isLarge s.string.clear pool.strings }

end PooledString

/-! ## Histories -/

/-- A string pool and the strings that its users hold. -/
structure StringPoolState where
  pool : StringPool
  loans : List PooledString

inductive StringPoolCall where
  | getString (minCapacity : Nat)
  | pushStr (loan extra : Nat) (text : String)
  | clearString (loan : Nat)
  /-- The string leaves for good. -/
  | intoString (loan : Nat)
  | drop (loan : Nat)

namespace StringPoolState

def start (maxPoolSize : Nat) : StringPoolState := ⟨.new maxPoolSize, []⟩

/-- The state after a call. -/
def step (alloc : Allocator) (s : StringPoolState) : StringPoolCall → StringPoolState
  | .getString minCapacity =>
    let (string, pool) := s.pool.getString alloc minCapacity
    ⟨pool, s.loans ++ [string]⟩
  | .pushStr loan extra text =>
    { s with loans := s.loans.modify loan fun p =>
        { p with string := p.string.pushStr extra text } }
  | .clearString loan =>
    { s with loans := s.loans.modify loan fun p => { p with string := p.string.clear } }
  | .intoString loan => { s with loans := s.loans.eraseIdx loan }
  | .drop loan =>
    match s.loans[loan]? with
    | some p => ⟨p.drop s.pool, s.loans.eraseIdx loan⟩
    | none => s

end StringPoolState

/-- The capacity from which strings of a class are made. -/
def StringPool.least (isLarge : Bool) : Nat := if isLarge then 1024 else 256

/-- All strings have at least the capacity of their class. -/
structure StringPoolState.Sound (s : StringPoolState) : Prop where
  free : Stocked (fun isLarge p => StringPool.least isLarge ≤ p.capacity) s.pool.strings
  loans : ∀ p ∈ s.loans, StringPool.least p.isLarge ≤ p.string.capacity

theorem StringPool.least_le_getString (alloc : Allocator) {pool : StringPool}
    (stocked : Stocked (fun isLarge p => least isLarge ≤ p.capacity) pool.strings)
    (minCapacity : Nat) :
    least (decide (256 < minCapacity)) ≤ (pool.getString alloc minCapacity).1.string.capacity := by
  refine stocked.take_fst ?_
  refine le_trans ?_ (alloc.enough _)
  cases decide (256 < minCapacity) with
  | false => exact Nat.le_refl _
  | true => exact Nat.le_max_left _ _

theorem StringPoolState.Sound.step (alloc : Allocator) {s : StringPoolState} (sound : s.Sound)
    (call : StringPoolCall) : (s.step alloc call).Sound := by
  obtain ⟨free, loans⟩ := sound
  cases call with
  | getString minCapacity =>
      refine ⟨free.take_snd _ _, fun p member => ?_⟩
      rcases List.mem_append.mp member with old | new
      · exact loans p old
      · rw [List.mem_singleton.mp new]
        exact StringPool.least_le_getString alloc free minCapacity
  | pushStr loan extra text =>
      refine ⟨free, forall_mem_modify loans fun p enough => enough.trans ?_⟩
      exact p.string.capacity_le_pushStr extra text
  | clearString loan => exact ⟨free, forall_mem_modify loans fun _ enough => enough⟩
  | intoString loan =>
      exact ⟨free, fun p member => loans p (List.mem_of_mem_eraseIdx member)⟩
  | drop loan =>
      simp only [StringPoolState.step]
      cases found : s.loans[loan]? with
      | none => exact ⟨free, loans⟩
      | some p =>
          have enough := loans p (List.mem_of_getElem? found)
          refine ⟨free.giveBack p.maxPoolSize enough, fun other member => ?_⟩
          exact loans other (List.mem_of_mem_eraseIdx member)

/-- A request gets a string of at least the capacity that it asks for. -/
def StringPoolCall.Suffices (alloc : Allocator) (s : StringPoolState) : StringPoolCall → Prop
  | .getString minCapacity =>
    minCapacity ≤ (s.pool.getString alloc minCapacity).1.string.capacity
  | _ => True

/-- A request for more than the capacity of the large class finds no large string, or one
with enough capacity, at the front. -/
def StringPoolCall.FrontSuffices (s : StringPoolState) : StringPoolCall → Prop
  | .getString minCapacity =>
    1024 < minCapacity → ∀ front ∈ (s.pool.strings true).head?, minCapacity ≤ front.capacity
  | _ => True

theorem string_suffices_iff (alloc : Allocator) {s : StringPoolState} (sound : s.Sound)
    (call : StringPoolCall) : call.Suffices alloc s ↔ call.FrontSuffices s := by
  cases call with
  | getString minCapacity =>
      show minCapacity ≤ (s.pool.getString alloc minCapacity).1.string.capacity ↔
        (1024 < minCapacity → ∀ front ∈ (s.pool.strings true).head?, minCapacity ≤ front.capacity)
      by_cases moderate : minCapacity ≤ 1024
      · -- every string of the class is large enough
        refine iff_of_true ?_ fun beyond => absurd moderate (by omega)
        refine le_trans ?_ (StringPool.least_le_getString alloc sound.free minCapacity)
        by_cases small : minCapacity ≤ 256
        · rw [decide_eq_false (by omega)]
          exact small
        · rw [decide_eq_true (by omega)]
          exact moderate
      · rw [imp_iff_right (by omega)]
        show minCapacity ≤
          (FreeList.take (decide (256 < minCapacity)) _ s.pool.strings).1.capacity ↔ _
        rw [decide_eq_true (by omega)]
        refine FreeList.take_fst_iff (P := fun p : PoolString => minCapacity ≤ p.capacity) _ ?_ _
        exact (Nat.le_max_right 1024 minCapacity).trans (alloc.enough _)
  | _ => exact Iff.rfl

/-- Along every history of a pool of buffers and of a pool of strings, the requests get what
they ask for exactly when those beyond the size of the large class find its free list
empty or something large enough at its front. -/
theorem capacity_suffices_iff (alloc : Allocator) :
    (∀ (config : PoolConfig) (calls : List PoolCall),
      Along (PoolState.step alloc) (fun s call => call.Suffices alloc s)
          (.start (.new config)) calls ↔
        Along (PoolState.step alloc) (fun s call => call.FrontSuffices s)
          (.start (.new config)) calls) ∧
    ∀ (maxPoolSize : Nat) (calls : List StringPoolCall),
      Along (StringPoolState.step alloc) (fun s call => call.Suffices alloc s)
          (.start maxPoolSize) calls ↔
        Along (StringPoolState.step alloc) (fun s call => call.FrontSuffices s)
          (.start maxPoolSize) calls := by
  refine ⟨fun config calls => ?_, fun maxPoolSize calls => ?_⟩
  · refine along_congr_of_kept (I := PoolState.Sound)
      (fun s call sound => suffices_iff alloc sound call)
      (fun s call sound _ => sound.step alloc call) ?_ calls
    exact PoolState.sound_start (MemoryPool.stocked_new config)
  · refine along_congr_of_kept (I := StringPoolState.Sound)
      (fun s call sound => string_suffices_iff alloc sound call)
      (fun s call sound _ => sound.step alloc call) ?_ calls
    exact ⟨Stocked.empty, fun _ member => absurd member List.not_mem_nil⟩

/-- The allocator that gives what it is asked for. -/
def exactAllocator : Allocator := ⟨id, fun n => Nat.le_refl n⟩

/-- A warmed-up pool has buffers of 65536 bytes for whoever wants more, and a large string
returns to those who want a larger one. -/
theorem capacity_falls_short :
    (¬ ∀ (alloc : Allocator) (config : PoolConfig) (calls : List PoolCall),
      Along (PoolState.step alloc) (fun s call => call.Suffices alloc s)
        (.start (.new config)) calls) ∧
    ¬ ∀ (alloc : Allocator) (maxPoolSize : Nat) (calls : List StringPoolCall),
      Along (StringPoolState.step alloc) (fun s call => call.Suffices alloc s)
        (.start maxPoolSize) calls := by
  refine ⟨fun always => ?_, fun always => ?_⟩
  · have served := always exactAllocator .default [.warmUp, .getBuffer 100000]
    have short : 100000 ≤ 65536 := served.2.1
    exact absurd short (by decide)
  · have served := always exactAllocator 50 [.getString 300, .drop 0, .getString 5000]
    have short : 5000 ≤ 1024 := served.2.2.1
    exact absurd short (by decide)

end Rabia
