import Rabia.Core.Types
import Rabia.Lib.Codec
import Mathlib.Data.Set.List

/-!
# Message frames

`MessageFrame` of `rabia-engine/src/network/tcp.rs`: a length in four little-endian
bytes and that many bytes of payload. A stream is the list of the bytes that will
still be read from it.
-/

namespace Rabia

open Rabia.Lib

/-- `MessageFrame`. -/
structure MessageFrame where
  length : Nat
  payload : Bytes
deriving DecidableEq, Repr

namespace MessageFrame

/-- `MAX_FRAME_SIZE`: length field and largest payload. -/
def maxFrameSize : Nat := 4 + 16 * 1024 * 1024

/-- `MessageFrame::new`. -/
def new (payload : Bytes) : Except RabiaError MessageFrame :=
  if payload.length > maxFrameSize - 4 then
    .error (.network s!"Message too large: {payload.length} bytes")
  else
    -- `payload.len() as u32`
    .ok ⟨payload.length % 2 ^ 32, payload⟩

/-- `to_bytes`. -/
def toBytes (frame : MessageFrame) : Bytes := toLE 4 frame.length ++ frame.payload

/-- `read_u32_le`: the number and what is left of the stream, nothing when it ends before. -/
def readU32Le (stream : Bytes) : Option (Nat × Bytes) :=
  if stream.length < 4 then none else some (ofLE (stream.take 4), stream.drop 4)

/-- `read_exact` into a buffer of `count` bytes. -/
def readExact (count : Nat) (stream : Bytes) : Option (Bytes × Bytes) :=
  if stream.length < count then none else some (stream.take count, stream.drop count)

/-- The texts of the reader's errors when the stream ends in the length field or in the
payload. -/
structure Eof where
  length : String
  payload : String

/-- `from_stream`. -/
def fromStream (eof : Eof) (stream : Bytes) : Except RabiaError (MessageFrame × Bytes) :=
  match readU32Le stream with
  | none => .error (.network s!"Failed to read frame length: {eof.length}")
  | some (length, stream) =>
    if length > maxFrameSize - 4 then
      .error (.network s!"Frame too large: {length} bytes")
    else
      match readExact length stream with
      | none => .error (.network s!"Failed to read frame payload: {eof.payload}")
      | some (payload, stream) => .ok (⟨length, payload⟩, stream)

/-- The length field tells the length of the payload, which is in bounds. -/
def Valid (frame : MessageFrame) : Prop :=
  frame.length = frame.payload.length ∧ frame.payload.length ≤ maxFrameSize - 4

theorem new_eq_ok_iff {payload : Bytes} {frame : MessageFrame} :
    new payload = .ok frame ↔ frame.Valid ∧ frame.payload = payload := by
  obtain ⟨length, payload'⟩ := frame
  unfold new Valid
  by_cases large : payload.length > maxFrameSize - 4
  · rw [if_pos large]
    simp
    rintro - bounded rfl
    omega
  · have whole : payload.length % 2 ^ 32 = payload.length := by
      rw [maxFrameSize] at large
      omega
    rw [if_neg large, whole]
    simp only [Except.ok.injEq, mk.injEq]
    constructor
    · rintro ⟨rfl, rfl⟩
      exact ⟨⟨rfl, by omega⟩, rfl⟩
    · rintro ⟨⟨same, -⟩, rfl⟩
      exact ⟨same.symm, rfl⟩

/-! ## Exactness -/

section Exactness

variable (eof : Eof)

theorem readU32Le_toLE {n : Nat} (fits : n < 256 ^ 4) (rest : Bytes) :
    readU32Le (toLE 4 n ++ rest) = some (n, rest) := by
  have front : (toLE 4 n ++ rest).take 4 = toLE 4 n := List.take_left' (length_toLE 4 n)
  have back : (toLE 4 n ++ rest).drop 4 = rest := List.drop_left' (length_toLE 4 n)
  have long : ¬ (toLE 4 n ++ rest).length < 4 := by
    rw [List.length_append, length_toLE]
    omega
  rw [readU32Le, if_neg long, front, back, ofLE_toLE fits]

theorem readExact_append (payload rest : Bytes) :
    readExact payload.length (payload ++ rest) = some (payload, rest) := by
  simp [readExact]

/-- A frame that was written is read, and only that. -/
theorem fromStream_toBytes {frame : MessageFrame} (valid : frame.Valid) (rest : Bytes) :
    fromStream eof (frame.toBytes ++ rest) = .ok (frame, rest) := by
  obtain ⟨length, payload⟩ := frame
  obtain ⟨told, bounded⟩ := valid
  dsimp only at told bounded
  have fits : length < 256 ^ 4 := by
    simp only [maxFrameSize] at bounded
    omega
  unfold fromStream toBytes
  rw [List.append_assoc, readU32Le_toLE fits]
  dsimp only
  rw [if_neg (by omega), told, readExact_append]

/-- A frame that was read is what was taken from the stream. -/
theorem toBytes_fromStream {stream rest : Bytes} {frame : MessageFrame}
    (read : fromStream eof stream = .ok (frame, rest)) :
    frame.Valid ∧ frame.toBytes ++ rest = stream := by
  unfold fromStream readU32Le at read
  by_cases short : stream.length < 4
  · rw [if_pos short] at read
    cases read
  · rw [if_neg short] at read
    dsimp only at read
    by_cases large : ofLE (stream.take 4) > maxFrameSize - 4
    · rw [if_pos large] at read
      cases read
    · rw [if_neg large, readExact] at read
      by_cases cut : (stream.drop 4).length < ofLE (stream.take 4)
      · rw [if_pos cut] at read
        cases read
      · rw [if_neg cut] at read
        cases read
        have four : (stream.take 4).length = 4 := by
          rw [List.length_take]
          omega
        have field : toLE 4 (ofLE (stream.take 4)) = stream.take 4 := by
          have exact_field := toLE_ofLE (stream.take 4)
          rwa [four] at exact_field
        have whole : ((stream.drop 4).take (ofLE (stream.take 4))).length =
            ofLE (stream.take 4) := by
          rw [List.length_take]
          omega
        refine ⟨⟨whole.symm, ?_⟩, ?_⟩
        · rw [whole]
          omega
        · rw [toBytes, field, List.append_assoc, List.take_append_drop, List.take_append_drop]

/-- `from_stream` fails exactly on a stream that ends within the length field, announces
too much, or ends within the payload. -/
theorem fromStream_fails_iff (stream : Bytes) :
    (∃ err, fromStream eof stream = .error err) ↔
      stream.length < 4 ∨ ofLE (stream.take 4) > maxFrameSize - 4 ∨
        stream.length - 4 < ofLE (stream.take 4) := by
  unfold fromStream readU32Le
  by_cases short : stream.length < 4
  · simp [short]
  · rw [if_neg short]
    dsimp only
    by_cases large : ofLE (stream.take 4) > maxFrameSize - 4
    · simp [large]
    · rw [if_neg large, readExact, List.length_drop]
      by_cases cut : stream.length - 4 < ofLE (stream.take 4)
      · simp [cut]
      · simp [short, large, cut]

/-- Frames as a codec of bytes. -/
def codec : Codec UInt8 RabiaError { frame : MessageFrame // frame.Valid } where
  encode frame := frame.val.toBytes
  decode stream :=
    match h : fromStream eof stream with
    | .ok (frame, rest) => .ok (⟨frame, (toBytes_fromStream eof h).1⟩, rest)
    | .error err => .error err
  decode_encode := by
    rintro ⟨frame, valid⟩ rest
    have read := fromStream_toBytes eof valid rest
    split
    · rename_i frame' rest' h
      rw [read] at h
      cases h
      rfl
    · rename_i err h
      rw [read] at h
      cases h
  encode_decode := by
    intro stream frame rest h
    split at h
    · rename_i frame' rest' read
      cases h
      exact (toBytes_fromStream eof read).2
    · cases h
  encode_ne_nil := by
    rintro ⟨frame, valid⟩ bare
    have length := congrArg List.length bare
    simp [toBytes] at length

/-- The reader task: read frames until a read fails. What is left is what the failed read
found. -/
def readFrames (stream : Bytes) : List MessageFrame × Bytes :=
  (((codec eof).drain stream).1.map Subtype.val, ((codec eof).drain stream).2)

theorem stuck_iff {stream : Bytes} :
    (codec eof).Stuck stream ↔ ∃ err, fromStream eof stream = .error err := by
  unfold Codec.Stuck codec
  dsimp only
  split
  · rename_i frame rest read
    simp [read]
  · rename_i err failed
    simp [failed]

theorem flatMap_encode (frames : List { frame : MessageFrame // frame.Valid }) :
    frames.flatMap (codec eof).encode = (frames.map Subtype.val).flatMap toBytes := by
  rw [List.flatMap_map]
  rfl

/-- The reader parts every stream into frames that make it up again and a rest that is no
frame, and there is no other way to part it. -/
theorem readFrames_eq_iff {stream tail : Bytes} {frames : List MessageFrame} :
    readFrames eof stream = (frames, tail) ↔
      (∀ frame ∈ frames, frame.Valid) ∧ frames.flatMap toBytes ++ tail = stream ∧
        ∃ err, fromStream eof tail = .error err := by
  rw [← stuck_iff]
  constructor
  · intro read
    cases read
    refine ⟨?_, ?_⟩
    · intro frame member
      obtain ⟨kept, -, rfl⟩ := List.mem_map.mp member
      exact kept.property
    · rw [← flatMap_encode eof]
      exact (codec eof).drain_parts stream
  · rintro ⟨valid, rfl, stuck⟩
    lift frames to List { frame : MessageFrame // frame.Valid } using valid
    unfold readFrames
    rw [← flatMap_encode eof, (codec eof).drain_encode frames stuck]

/-- Payloads in bounds make frames. -/
theorem mapM_new {payloads : List Bytes}
    (bounded : ∀ payload ∈ payloads, payload.length ≤ maxFrameSize - 4) :
    ∃ frames, payloads.mapM new = .ok frames ∧ frames.map payload = payloads ∧
      ∀ frame ∈ frames, frame.Valid := by
  induction payloads with
  | nil => exact ⟨[], rfl, rfl, by simp⟩
  | cons payload payloads ih =>
      obtain ⟨frames, made, shown, valid⟩ :=
        ih fun p member => bounded p (List.mem_cons_of_mem payload member)
      have first : (⟨payload.length, payload⟩ : MessageFrame).Valid :=
        ⟨rfl, bounded payload List.mem_cons_self⟩
      have framed : new payload = .ok ⟨payload.length, payload⟩ := new_eq_ok_iff.mpr ⟨first, rfl⟩
      refine ⟨⟨payload.length, payload⟩ :: frames, ?_, ?_, ?_⟩
      · rw [List.mapM_cons, framed, made]
        rfl
      · rw [List.map_cons, shown]
      · intro frame member
        rcases List.mem_cons.mp member with rfl | member
        · exact first
        · exact valid frame member

/-- Framing is exact. Payloads of at most 16 MiB, framed and written one after another, are
read back in order, to the last byte, whatever cut-off rest may follow. Any frame read from
any stream is, written again, what was taken from the stream; and a read fails exactly when
the stream ends within the length field, announces more than 16 MiB, or ends within the
payload. -/
theorem framing_exact :
    (∀ payloads : List Bytes, (∀ payload ∈ payloads, payload.length ≤ 16 * 1024 * 1024) →
      ∃ frames, payloads.mapM new = .ok frames ∧ frames.map payload = payloads ∧
        readFrames eof (frames.flatMap toBytes) = (frames, []) ∧
        ∀ tail, (∃ err, fromStream eof tail = .error err) →
          readFrames eof (frames.flatMap toBytes ++ tail) = (frames, tail)) ∧
    (∀ (stream rest : Bytes) (frame : MessageFrame),
      fromStream eof stream = .ok (frame, rest) → frame.toBytes ++ rest = stream) ∧
    ∀ stream : Bytes, (∃ err, fromStream eof stream = .error err) ↔
      stream.length < 4 ∨ ofLE (stream.take 4) > 16 * 1024 * 1024 ∨
        stream.length - 4 < ofLE (stream.take 4) := by
  refine ⟨?_, fun stream rest frame read => (toBytes_fromStream eof read).2,
    fromStream_fails_iff eof⟩
  intro payloads bounded
  obtain ⟨frames, made, shown, valid⟩ := mapM_new bounded
  have ended : ∃ err, fromStream eof [] = .error err := ⟨_, rfl⟩
  refine ⟨frames, made, shown, (readFrames_eq_iff eof).mpr ⟨valid, ?_, ended⟩, ?_⟩
  · exact List.append_nil _
  · intro tail failed
    exact (readFrames_eq_iff eof).mpr ⟨valid, rfl, failed⟩

end Exactness

end MessageFrame

end Rabia
