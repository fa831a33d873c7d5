import Mathlib.Algebra.Group.Nat.Defs
import Mathlib.Data.List.Induction
import Mathlib.Tactic.Ring

/-!
# Big-endian integers

Fixed-width big-endian encoding of natural numbers, decoding of byte strings, and byte strings that
follow their length.
-/

namespace BigEndian

/-- The number whose big-endian digits in base 256 are the given bytes. -/
def decode (bytes : List UInt8) : Nat :=
  bytes.foldl (fun value byte => value * 256 + byte.toNat) 0

/-- The low `width` bytes of a number, most significant first. -/
def encode : (width value : Nat) → List UInt8
  | 0, _ => []
  | width + 1, value => encode width (value / 256) ++ [UInt8.ofNat value]

@[simp]
theorem decode_nil : decode [] = 0 := rfl

@[simp]
theorem decode_concat (bytes : List UInt8) (byte : UInt8) :
    decode (bytes ++ [byte]) = decode bytes * 256 + byte.toNat := by
  simp [decode]

/-- Leading zeros do not count. -/
@[simp]
theorem decode_zero_cons (bytes : List UInt8) : decode (0 :: bytes) = decode bytes := by
  simp [decode]

@[simp]
theorem length_encode (width value : Nat) : (encode width value).length = width := by
  induction width generalizing value with
  | zero => rfl
  | succ width induction => rw [encode, List.length_append, induction, List.length_singleton]

/-- Decoding gives back the part of a number that fits in the width. -/
theorem decode_encode (width value : Nat) : decode (encode width value) = value % 256 ^ width := by
  induction width generalizing value with
  | zero => rw [encode, decode_nil, Nat.pow_zero, Nat.mod_one]
  | succ width induction =>
      have low : (UInt8.ofNat value).toNat = value % 256 := UInt8.toNat_ofNat'
      rw [encode, decode_concat, induction, low, Nat.pow_succ, Nat.mul_comm (256 ^ width) 256,
        Nat.mod_mul, Nat.mul_comm 256, Nat.add_comm]

theorem decode_encode_of_lt {width value : Nat} (fits : value < 256 ^ width) :
    decode (encode width value) = value := by
  rw [decode_encode, Nat.mod_eq_of_lt fits]

/-- A number that fits in fewer bytes is padded with zeros. -/
theorem encode_add {width value : Nat} (fits : value < 256 ^ width) (padding : Nat) :
    encode (padding + width) value = List.replicate padding 0 ++ encode width value := by
  induction width generalizing value with
  | zero =>
      obtain rfl : value = 0 := by omega
      rw [encode, List.append_nil, Nat.add_zero]
      induction padding with
      | zero => rfl
      | succ padding induction => rw [encode, Nat.zero_div, induction, List.replicate_succ']; rfl
  | succ width induction =>
      have smaller : value / 256 < 256 ^ width := by
        rw [Nat.div_lt_iff_lt_mul (by decide), ← Nat.pow_succ]
        exact fits
      rw [← Nat.add_assoc, encode, induction smaller, encode, List.append_assoc]

/-- Numbers that fit in the width have different encodings. -/
theorem encode_injective {width left right : Nat} (leftFits : left < 256 ^ width)
    (rightFits : right < 256 ^ width) (same : encode width left = encode width right) :
    left = right := by
  have decoded := congrArg decode same
  rwa [decode_encode, decode_encode, Nat.mod_eq_of_lt leftFits, Nat.mod_eq_of_lt rightFits]
    at decoded

/-- Encoding the number of a byte string in as many bytes gives it back. -/
theorem encode_decode (bytes : List UInt8) : encode bytes.length (decode bytes) = bytes := by
  induction bytes using List.reverseRecOn with
  | nil => rfl
  | append_singleton bytes byte induction =>
      have small := byte.toNat_lt
      have high : (decode bytes * 256 + byte.toNat) / 256 = decode bytes := by omega
      have low : UInt8.ofNat (decode bytes * 256 + byte.toNat) = byte := by
        apply UInt8.toNat_inj.mp
        rw [UInt8.toNat_ofNat']
        omega
      rw [List.length_append, List.length_singleton, encode, decode_concat, high, low, induction]

/-- Only the part of a number that fits in the width is encoded. -/
theorem encode_mod (width value : Nat) :
    encode width (value % 256 ^ width) = encode width value := by
  have again := encode_decode (encode width value)
  rwa [length_encode, decode_encode] at again

theorem decode_lt (bytes : List UInt8) : decode bytes < 256 ^ bytes.length := by
  have decoded := decode_encode bytes.length (decode bytes)
  rw [encode_decode] at decoded
  rw [decoded]
  exact Nat.mod_lt _ (Nat.pow_pos (by decide))

/-- The first byte is the most significant one. -/
theorem decode_cons (byte : UInt8) (bytes : List UInt8) :
    decode (byte :: bytes) = byte.toNat * 256 ^ bytes.length + decode bytes := by
  induction bytes using List.reverseRecOn with
  | nil => simp [decode]
  | append_singleton bytes last induction =>
      rw [← List.cons_append, decode_concat, induction, decode_concat, List.length_append,
        List.length_singleton, Nat.pow_succ]
      ring

/-- A number fills its bytes exactly when the first of them is not zero. -/
theorem pow_le_decode_cons_iff {byte : UInt8} {bytes : List UInt8} :
    256 ^ bytes.length ≤ decode (byte :: bytes) ↔ byte ≠ 0 := by
  constructor
  · rintro filled rfl
    have below := decode_lt bytes
    rw [decode_zero_cons] at filled
    omega
  · intro nonzero
    have positive : 0 < byte.toNat :=
      Nat.pos_of_ne_zero fun zero => nonzero (UInt8.toNat_inj.mp zero)
    rw [decode_cons]
    exact Nat.le_add_right_of_le (Nat.le_mul_of_pos_left _ positive)

/-- A field that holds a number is the encoding of the number, which fits in it. -/
theorem eq_encode_of_decode {bytes : List UInt8} {width value : Nat}
    (length : bytes.length = width) (decoded : decode bytes = value) :
    bytes = encode width value ∧ value < 256 ^ width := by
  subst length decoded
  exact ⟨(encode_decode bytes).symm, decode_lt bytes⟩

/-! ## Strings that follow their length -/

/-- A byte string can be read off again after its length, whatever comes next. -/
theorem encode_length_append_inj {width : Nat} {left right leftRest rightRest : List UInt8}
    (leftFits : left.length < 256 ^ width) (rightFits : right.length < 256 ^ width)
    (same : encode width left.length ++ (left ++ leftRest) =
      encode width right.length ++ (right ++ rightRest)) :
    left = right ∧ leftRest = rightRest := by
  have aligned : (encode width left.length).length = (encode width right.length).length := by
    rw [length_encode, length_encode]
  obtain ⟨lengths, contents⟩ := List.append_inj same aligned
  exact List.append_inj contents (encode_injective leftFits rightFits lengths)

/-- The length, the string and the rest, as they are read off. -/
theorem read_encode_length_append {width : Nat} {content : List UInt8}
    (fits : content.length < 256 ^ width) (rest : List UInt8) :
    let bytes := encode width content.length ++ (content ++ rest)
    decode (bytes.take width) = content.length ∧
      (bytes.drop width).take content.length = content ∧
      (bytes.drop width).drop content.length = rest := by
  intro bytes
  have field := length_encode width content.length
  have following : bytes.drop width = content ++ rest := List.drop_left' field
  refine ⟨?_, ?_, ?_⟩
  · rw [List.take_left' field, decode_encode_of_lt fits]
  · rw [following, List.take_left]
  · rw [following, List.drop_left]

/-- Bytes that hold as much as their length says are a string after its length. -/
theorem eq_encode_length_append {width : Nat} {bytes : List UInt8} (complete : width ≤ bytes.length)
    (holds : decode (bytes.take width) ≤ (bytes.drop width).length) :
    let content := (bytes.drop width).take (decode (bytes.take width))
    content.length < 256 ^ width ∧
      bytes = encode width content.length ++
        (content ++ (bytes.drop width).drop (decode (bytes.take width))) := by
  intro content
  have content_length : content.length = decode (bytes.take width) := List.length_take_of_le holds
  obtain ⟨field, fits⟩ :=
    eq_encode_of_decode (List.length_take_of_le complete) content_length.symm
  refine ⟨fits, ?_⟩
  rw [← field, List.take_append_drop, List.take_append_drop]

end BigEndian
