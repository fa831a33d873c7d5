import Mathlib.Tactic.Common
import OxiTls.Library.BigEndian

/-!
# Nonces from a counter

A 12-byte nonce is a fixed value whose last 8 bytes are combined with a message counter by exclusive
or.  The first 4 bytes never change, and different counters give different nonces.
-/

/-- Combine the last 8 bytes of a 12-byte value with a counter. -/
def counterNonce (base : List UInt8) (counter : UInt64) : List UInt8 :=
  base.take 4 ++ (base.drop 4).zipWith (· ^^^ ·) (BigEndian.encode 8 counter.toNat)

namespace CounterNonce

variable {base : List UInt8}

theorem length_counterNonce (length : base.length = 12) (counter : UInt64) :
    (counterNonce base counter).length = 12 := by
  rw [counterNonce, List.length_append, List.length_take, List.length_zipWith, List.length_drop,
    BigEndian.length_encode, length]
  rfl

theorem toNat_lt_pow (counter : UInt64) : counter.toNat < 256 ^ 8 := counter.toNat_lt

/-- Exclusive or with zeros changes nothing. -/
theorem zipWith_xor_zero (bytes : List UInt8) :
    bytes.zipWith (· ^^^ ·) (List.replicate bytes.length 0) = bytes := by
  induction bytes with
  | nil => rfl
  | cons byte bytes induction =>
      rw [List.length_cons, List.replicate_succ, List.zipWith_cons_cons, induction,
        UInt8.xor_zero]

/-- The nonce is the exclusive or with the counter as a 12-byte number. -/
theorem zipWith_xor_encode (length : base.length = 12) (counter : UInt64) :
    base.zipWith (· ^^^ ·) (BigEndian.encode 12 counter.toNat) = counterNonce base counter := by
  have four : (base.take 4).length = 4 := by rw [List.length_take, length]; rfl
  have padded : BigEndian.encode 12 counter.toNat =
      List.replicate (base.take 4).length 0 ++ BigEndian.encode 8 counter.toNat := by
    rw [four]
    exact BigEndian.encode_add (toNat_lt_pow counter) 4
  rw [counterNonce, padded]
  nth_rewrite 1 [← List.take_append_drop 4 base]
  rw [List.zipWith_append (by rw [List.length_replicate]), zipWith_xor_zero]

/-- The first 4 bytes are those of the fixed value. -/
theorem take_counterNonce (length : base.length = 12) (counter : UInt64) :
    (counterNonce base counter).take 4 = base.take 4 := by
  have four : (base.take 4).length = 4 := by rw [List.length_take, length]; rfl
  rw [counterNonce, List.take_left' four]

/-- Exclusive or with one value is injective. -/
theorem zipWith_xor_injective {mask left right : List UInt8} (leftFits : left.length = mask.length)
    (rightFits : right.length = mask.length)
    (same : mask.zipWith (· ^^^ ·) left = mask.zipWith (· ^^^ ·) right) : left = right := by
  induction mask generalizing left right with
  | nil => rw [List.length_eq_zero_iff.mp leftFits, List.length_eq_zero_iff.mp rightFits]
  | cons first mask induction =>
      obtain ⟨left, lefts, rfl⟩ := List.exists_cons_of_length_eq_add_one leftFits
      obtain ⟨right, rights, rfl⟩ := List.exists_cons_of_length_eq_add_one rightFits
      obtain ⟨head, tail⟩ := List.cons.inj same
      rw [(UInt8.xor_right_inj first).mp head,
        induction (Nat.succ.inj leftFits) (Nat.succ.inj rightFits) tail]

/-- Different counters give different nonces. -/
theorem counterNonce_injective (length : base.length = 12) {left right : UInt64}
    (same : counterNonce base left = counterNonce base right) : left = right := by
  have eight : (base.drop 4).length = 8 := by rw [List.length_drop, length]
  have combined := List.append_cancel_left same
  have encoded := zipWith_xor_injective (by rw [BigEndian.length_encode, eight])
    (by rw [BigEndian.length_encode, eight]) combined
  exact UInt64.toNat.inj
    (BigEndian.encode_injective (toNat_lt_pow left) (toNat_lt_pow right) encoded)

end CounterNonce
