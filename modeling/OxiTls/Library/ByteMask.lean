import Mathlib.Tactic.Common

/-!
# Masking bytes

Exclusive or with a mask undoes itself, and leaves alone the bits and the bytes the mask does not
cover.
-/

namespace ByteMask

/-- Combine the first `count` bytes of a target with a mask by exclusive or, as far as both
reach. -/
def xorFirst : (count : Nat) → (mask target : List UInt8) → List UInt8
  | 0, _, target => target
  | _ + 1, [], target => target
  | _ + 1, _ :: _, [] => []
  | count + 1, byte :: mask, first :: target => (first ^^^ byte) :: xorFirst count mask target

@[simp]
theorem xor_xor_cancel (byte key : UInt8) : byte ^^^ key ^^^ key = byte := by
  rw [UInt8.xor_assoc, UInt8.xor_self, UInt8.xor_zero]

/-- Masking twice restores the target. -/
theorem xorFirst_xorFirst (count : Nat) (mask target : List UInt8) :
    xorFirst count mask (xorFirst count mask target) = target := by
  induction count, mask, target using xorFirst.induct with
  | case1 mask target => rfl
  | case2 count target => rfl
  | case3 count byte mask => rfl
  | case4 count byte mask first target induction =>
      rw [xorFirst, xorFirst, induction, xor_xor_cancel]

@[simp]
theorem length_xorFirst (count : Nat) (mask target : List UInt8) :
    (xorFirst count mask target).length = target.length := by
  induction count, mask, target using xorFirst.induct with
  | case1 mask target => rfl
  | case2 count target => rfl
  | case3 count byte mask => rfl
  | case4 count byte mask first target induction =>
      rw [xorFirst, List.length_cons, List.length_cons, induction]

/-- Bytes from the count on are left alone. -/
theorem drop_xorFirst (count : Nat) (mask target : List UInt8) :
    (xorFirst count mask target).drop count = target.drop count := by
  induction count, mask, target using xorFirst.induct with
  | case1 mask target => rfl
  | case2 count target => rfl
  | case3 count byte mask => rfl
  | case4 count byte mask first target induction =>
      rw [xorFirst, List.drop_succ_cons, List.drop_succ_cons, induction]

/-- A longer target continues where the shorter one ends. -/
theorem xorFirst_append (count : Nat) (mask left right : List UInt8) :
    xorFirst count mask (left ++ right) =
      xorFirst count mask left ++ xorFirst (count - left.length) (mask.drop left.length) right := by
  induction count, mask, left using xorFirst.induct with
  | case1 mask left => rw [Nat.zero_sub]; rfl
  | case2 count left =>
      rw [List.drop_nil]
      cases count + 1 - left.length <;> rfl
  | case3 count byte mask => rfl
  | case4 count byte mask first left induction =>
      rw [List.cons_append, xorFirst, xorFirst, induction, List.length_cons,
        Nat.succ_eq_add_one, Nat.add_sub_add_right, List.drop_succ_cons, List.cons_append]

/-- Bits outside the mask are left alone. -/
theorem xor_and_of_and_eq_zero {byte key bits kept : UInt8} (disjoint : bits &&& kept = 0) :
    (byte ^^^ (key &&& bits)) &&& kept = byte &&& kept := by
  have distributed : (byte ^^^ (key &&& bits)) &&& kept =
      (byte &&& kept) ^^^ (key &&& (bits &&& kept)) := by
    apply UInt8.toBitVec_inj.mp
    ext index
    simp only [UInt8.toBitVec_and, UInt8.toBitVec_xor, BitVec.getElem_and, BitVec.getElem_xor,
      Bool.and_xor_distrib_right, Bool.and_assoc]
  rw [distributed, disjoint, UInt8.and_zero, UInt8.xor_zero]

end ByteMask
