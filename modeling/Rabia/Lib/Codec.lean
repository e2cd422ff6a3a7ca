import Mathlib.Algebra.Ring.Nat
import Mathlib.Tactic.Common

/-!
# Codecs

A `Codec` writes values as non-empty lists of symbols and reads them back from the
front of a stream. Its two laws make it exact: what is read is what was written, and
reading takes the encoding of what it returns and nothing else. `Codec.drain` reads
until a read fails, which parts every stream into the values read and the rest
(`drain_parts`), and reads back whatever was written (`drain_encode`).

`toLE` and `ofLE` are numbers in a fixed width of little-endian bytes.
-/

namespace Rabia.Lib

/-! ## Little-endian numbers -/

/-- The low `width` bytes of a number, the lowest first. -/
def toLE : Nat → Nat → List UInt8
  | 0, _ => []
  | width + 1, n => UInt8.ofNat n :: toLE width (n / 256)

/-- The number that little-endian bytes write. -/
def ofLE : List UInt8 → Nat
  | [] => 0
  | b :: bs => b.toNat + 256 * ofLE bs

@[simp] theorem length_toLE (width n : Nat) : (toLE width n).length = width := by
  induction width generalizing n with
  | zero => rfl
  | succ width ih => simp [toLE, ih]

theorem ofLE_toLE {width n : Nat} (fits : n < 256 ^ width) : ofLE (toLE width n) = n := by
  induction width generalizing n with
  | zero =>
      simp at fits
      simp [toLE, ofLE, fits]
  | succ width ih =>
      have quotient : n / 256 < 256 ^ width := by
        rw [Nat.pow_succ] at fits
        exact Nat.div_lt_of_lt_mul (by omega)
      rw [toLE, ofLE, ih quotient, UInt8.toNat_ofNat']
      omega

theorem toLE_ofLE (bs : List UInt8) : toLE bs.length (ofLE bs) = bs := by
  induction bs with
  | nil => rfl
  | cons b bs ih =>
      have byte : b.toNat < 256 := b.toNat_lt
      have low : UInt8.ofNat (b.toNat + 256 * ofLE bs) = b := by
        apply UInt8.toNat_inj.mp
        rw [UInt8.toNat_ofNat']
        omega
      have high : (b.toNat + 256 * ofLE bs) / 256 = ofLE bs := by omega
      rw [List.length_cons, ofLE, toLE, low, high, ih]

/-! ## Codecs -/

/-- An exact reader and writer of values at the front of a stream. -/
structure Codec (β ε α : Type*) where
  encode : α → List β
  decode : List β → Except ε (α × List β)
  decode_encode : ∀ a rest, decode (encode a ++ rest) = .ok (a, rest)
  encode_decode : ∀ stream a rest, decode stream = .ok (a, rest) → encode a ++ rest = stream
  encode_ne_nil : ∀ a, encode a ≠ []

namespace Codec

variable {β ε α : Type*} (c : Codec β ε α)

/-- Nothing can be read from the front of the stream. -/
def Stuck (stream : List β) : Prop := ∃ err, c.decode stream = .error err

theorem decode_shorter {stream : List β} {a : α} {rest : List β}
    (h : c.decode stream = .ok (a, rest)) : rest.length < stream.length := by
  have nonempty := List.length_pos_iff.mpr (c.encode_ne_nil a)
  rw [← c.encode_decode stream a rest h, List.length_append]
  omega

/-- What is read of a stream that values were written to is the first of them, however
little of the stream has arrived. -/
theorem head_of_part {stream rest more : List β} {a : α} {values : List α}
    (read : c.decode stream = .ok (a, rest)) (within : stream ++ more <+: values.flatMap c.encode) :
    ∃ values', values = a :: values' ∧ rest ++ more <+: values'.flatMap c.encode ∧
      (stream ++ more = values.flatMap c.encode → rest ++ more = values'.flatMap c.encode) := by
  obtain ⟨beyond, whole⟩ := within
  have parts := c.encode_decode stream a rest read
  cases values with
  | nil =>
      rw [← parts] at whole
      simp [c.encode_ne_nil a] at whole
  | cons first values =>
      have front : c.decode (c.encode first ++ values.flatMap c.encode) =
          .ok (a, rest ++ more ++ beyond) := by
        rw [← List.flatMap_cons, ← whole, ← parts]
        simp only [List.append_assoc]
        exact c.decode_encode a _
      rw [c.decode_encode, Except.ok.injEq, Prod.mk.injEq] at front
      obtain ⟨rfl, left⟩ := front
      refine ⟨values, rfl, ⟨beyond, left.symm⟩, fun exact => ?_⟩
      rw [← parts, List.flatMap_cons, List.append_assoc] at exact
      exact List.append_cancel_left exact

/-- Read until a read fails: what was read, and what was left. -/
def drain (stream : List β) : List α × List β :=
  match h : c.decode stream with
  | .ok (a, rest) =>
    have := c.decode_shorter h
    (a :: (drain rest).1, (drain rest).2)
  | .error _ => ([], stream)
termination_by stream.length

theorem drain_ok {stream : List β} {a : α} {rest : List β}
    (h : c.decode stream = .ok (a, rest)) :
    c.drain stream = (a :: (c.drain rest).1, (c.drain rest).2) := by
  rw [drain]
  split
  · rename_i a' rest' h'
    rw [h] at h'
    cases h'
    rfl
  · rename_i err h'
    rw [h] at h'
    cases h'

theorem drain_stuck {stream : List β} (h : c.Stuck stream) : c.drain stream = ([], stream) := by
  obtain ⟨err, h⟩ := h
  rw [drain]
  split
  · rename_i a' rest' h'
    rw [h] at h'
    cases h'
  · rfl

/-- What was written is read, and nothing else. -/
theorem drain_encode (values : List α) {tail : List β} (stuck : c.Stuck tail) :
    c.drain (values.flatMap c.encode ++ tail) = (values, tail) := by
  induction values with
  | nil => exact c.drain_stuck stuck
  | cons a values ih =>
      rw [List.flatMap_cons, List.append_assoc, c.drain_ok (c.decode_encode a _), ih]

/-- Every stream is what is read of it, written again, and a rest that cannot be read. -/
theorem drain_parts (stream : List β) :
    (c.drain stream).1.flatMap c.encode ++ (c.drain stream).2 = stream ∧
      c.Stuck (c.drain stream).2 := by
  fun_induction c.drain stream with
  | case1 stream a rest h _ ih =>
      refine ⟨?_, ih.2⟩
      rw [List.flatMap_cons, List.append_assoc, ih.1]
      exact c.encode_decode stream a rest h
  | case2 stream err h =>
      exact ⟨rfl, err, h⟩

end Codec

end Rabia.Lib
