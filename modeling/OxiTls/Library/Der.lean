import Mathlib.Data.List.Basic
import Mathlib.Data.List.Induction
import Mathlib.Data.Nat.Log
import Mathlib.Tactic.Common
import OxiTls.Library.BigEndian

/-!
# Strict DER of non-negative integers and octet strings

The distinguished encoding of natural numbers and of pairs of them, for contents shorter than 128
bytes, where the one-byte length is the only minimal one.  The readers are strict: they accept
exactly the encodings, and the content of an integer has to be the shortest two's complement form.
Octet strings have contents of any length, after the shortest form of that length.
-/

namespace Der

open BigEndian

/-- The shortest two's complement form of a natural number. -/
def integerContent (value : Nat) : List UInt8 :=
  if value < 128 then [UInt8.ofNat value]
  else integerContent (value / 256) ++ [UInt8.ofNat value]

/-- A tag, a one-byte length and the content. -/
def tlv (tag : UInt8) (content : List UInt8) : List UInt8 :=
  tag :: UInt8.ofNat content.length :: content

/-- `INTEGER`. -/
def integer (value : Nat) : List UInt8 := tlv 0x02 (integerContent value)

/-- `SEQUENCE { INTEGER, INTEGER }`. -/
def integerPair (first second : Nat) : List UInt8 := tlv 0x30 (integer first ++ integer second)

/-- The content is non-negative and has no byte that could be left out. -/
def Shortest : List UInt8 → Prop
  | [] => False
  | [byte] => byte < 0x80
  | first :: second :: _ => first < 0x80 ∧ (first = 0 → 0x80 ≤ second)

instance decidableShortest : DecidablePred Shortest
  | [] => inferInstanceAs (Decidable False)
  | [byte] => inferInstanceAs (Decidable (byte < 0x80))
  | first :: second :: _ => inferInstanceAs (Decidable (first < 0x80 ∧ (first = 0 → 0x80 ≤ second)))

/-- Read one element with the given tag: its content and what follows it. -/
def readTlv (tag : UInt8) : List UInt8 → Option (List UInt8 × List UInt8)
  | first :: length :: rest =>
      if first = tag ∧ length < 0x80 ∧ length.toNat ≤ rest.length then
        some (rest.take length.toNat, rest.drop length.toNat)
      else none
  | _ => none

/-- Read one non-negative integer and what follows it. -/
def readInteger (bytes : List UInt8) : Option (Nat × List UInt8) := do
  let (content, rest) ← readTlv 0x02 bytes
  if Shortest content then some (decode content, rest) else none

/-- Read a sequence of two integers that fills the whole input. -/
def readIntegerPair (bytes : List UInt8) : Option (Nat × Nat) := do
  let (content, trailing) ← readTlv 0x30 bytes
  let (first, more) ← readInteger content
  let (second, excess) ← readInteger more
  if trailing = [] ∧ excess = [] then some (first, second) else none

/-! ## The content of an integer -/

theorem integerContent_ne_nil (value : Nat) : integerContent value ≠ [] := by
  unfold integerContent
  split <;> simp

@[simp]
theorem decode_integerContent (value : Nat) : decode (integerContent value) = value := by
  induction value using integerContent.induct with
  | case1 value small =>
      rw [integerContent, if_pos small]
      simp [decode]
      omega
  | case2 value large induction =>
      rw [integerContent, if_neg large, decode_concat, induction, UInt8.toNat_ofNat']
      omega

/-- A shortest form stays one when a byte is appended to it, and a single byte may be preceded by
zero when its high bit is set. -/
theorem shortest_concat_iff {bytes : List UInt8} {byte : UInt8} (nonempty : bytes ≠ []) :
    Shortest (bytes ++ [byte]) ↔ Shortest bytes ∧ (bytes = [0] → 0x80 ≤ byte) := by
  match bytes with
  | [first] => simp [Shortest]
  | first :: second :: more => simp [Shortest]

theorem shortest_integerContent (value : Nat) : Shortest (integerContent value) := by
  induction value using integerContent.induct with
  | case1 value small =>
      rw [integerContent, if_pos small, Shortest, UInt8.lt_iff_toNat_lt, UInt8.toNat_ofNat']
      simp
      omega
  | case2 value large induction =>
      rw [integerContent, if_neg large, shortest_concat_iff (integerContent_ne_nil _)]
      refine ⟨induction, fun zero => ?_⟩
      have quotient := decode_integerContent (value / 256)
      rw [zero] at quotient
      rw [UInt8.le_iff_toNat_le, UInt8.toNat_ofNat']
      simp at quotient ⊢
      omega

/-- A shortest form is the form of its value. -/
theorem integerContent_decode {content : List UInt8} (shortest : Shortest content) :
    integerContent (decode content) = content := by
  induction content using List.reverseRecOn with
  | nil => contradiction
  | append_singleton bytes byte induction =>
      have bound := byte.toNat_lt
      have low : UInt8.ofNat (decode bytes * 256 + byte.toNat) = byte := by
        apply UInt8.toNat_inj.mp
        rw [UInt8.toNat_ofNat']
        omega
      by_cases empty : bytes = []
      · subst empty
        have small : byte.toNat < 128 := by simpa [Shortest, UInt8.lt_iff_toNat_lt] using shortest
        rw [decode_concat, integerContent, if_pos (by simpa using small), low, List.nil_append]
      · obtain ⟨shorter, padded⟩ := (shortest_concat_iff empty).mp shortest
        have form := induction shorter
        have large : ¬ decode bytes * 256 + byte.toNat < 128 := by
          intro small
          have zero : decode bytes = 0 := by omega
          have high := padded (by rw [← form, zero, integerContent, if_pos (by omega)]; rfl)
          rw [UInt8.le_iff_toNat_le] at high
          simp at high
          omega
        rw [decode_concat, integerContent, if_neg large, low,
          show (decode bytes * 256 + byte.toNat) / 256 = decode bytes by omega, form]

/-! ## The readers accept exactly the encodings -/

theorem readTlv_eq_some_iff {tag : UInt8} {bytes content rest : List UInt8} :
    readTlv tag bytes = some (content, rest) ↔
      bytes = tlv tag content ++ rest ∧ content.length < 128 := by
  constructor
  · intro accepted
    unfold readTlv at accepted
    split at accepted
    · next first length more =>
        split_ifs at accepted with valid
        obtain ⟨rfl, short, available⟩ := valid
        obtain ⟨rfl, rfl⟩ := Prod.mk.inj (Option.some.inj accepted)
        rw [UInt8.lt_iff_toNat_lt] at short
        have exactly : (more.take length.toNat).length = length.toNat := by
          rw [List.length_take, Nat.min_eq_left available]
        refine ⟨?_, by rw [exactly]; exact short⟩
        simp only [tlv, exactly, UInt8.ofNat_toNat, List.cons_append, List.take_append_drop]
    · contradiction
  · rintro ⟨rfl, short⟩
    have length : (UInt8.ofNat content.length).toNat = content.length := by
      rw [UInt8.toNat_ofNat']
      omega
    have valid : UInt8.ofNat content.length < 0x80 := by
      rw [UInt8.lt_iff_toNat_lt, length]
      exact short
    simp [readTlv, tlv, length, valid]

theorem readInteger_eq_some_iff {bytes rest : List UInt8} {value : Nat} :
    readInteger bytes = some (value, rest) ↔
      bytes = integer value ++ rest ∧ (integerContent value).length < 128 := by
  constructor
  · intro accepted
    simp only [readInteger, Option.bind_eq_bind, Option.bind_eq_some_iff] at accepted
    obtain ⟨⟨content, more⟩, element, checked⟩ := accepted
    split_ifs at checked with shortest
    obtain ⟨rfl, rfl⟩ := Prod.mk.inj (Option.some.inj checked)
    rw [integer, integerContent_decode shortest]
    exact readTlv_eq_some_iff.mp element
  · intro encoded
    have element := readTlv_eq_some_iff.mpr encoded
    simp [readInteger, element, shortest_integerContent]

/-- The input is the encoding of the pair it is read as. -/
theorem readIntegerPair_eq_some_iff {bytes : List UInt8} {first second : Nat} :
    readIntegerPair bytes = some (first, second) ↔
      bytes = integerPair first second ∧ (integer first ++ integer second).length < 128 := by
  constructor
  · intro accepted
    simp only [readIntegerPair, Option.bind_eq_bind, Option.bind_eq_some_iff] at accepted
    obtain ⟨⟨content, trailing⟩, element, ⟨_, more⟩, former, ⟨_, excess⟩, latter, checked⟩ :=
      accepted
    split_ifs at checked with whole
    obtain ⟨rfl, rfl⟩ := whole
    obtain ⟨rfl, rfl⟩ := Prod.mk.inj (Option.some.inj checked)
    obtain ⟨rfl, short⟩ := readTlv_eq_some_iff.mp element
    obtain ⟨rfl, _⟩ := readInteger_eq_some_iff.mp former
    obtain ⟨rfl, _⟩ := readInteger_eq_some_iff.mp latter
    simp only [List.append_nil] at short ⊢
    exact ⟨rfl, short⟩
  · rintro ⟨rfl, short⟩
    have element : readTlv 0x30 (integerPair first second) =
        some (integer first ++ integer second, []) :=
      readTlv_eq_some_iff.mpr ⟨by simp [integerPair], short⟩
    simp only [List.length_append, integer, tlv, List.length_cons] at short
    have former : readInteger (integer first ++ integer second) =
        some (first, integer second) := readInteger_eq_some_iff.mpr ⟨rfl, by omega⟩
    have latter : readInteger (integer second) = some (second, []) :=
      readInteger_eq_some_iff.mpr ⟨by simp, by omega⟩
    simp [readIntegerPair, element, former, latter]

/-! ## Octet strings -/

/-- How many bytes a positive number needs. -/
def byteCount (value : Nat) : Nat := Nat.log 256 value + 1

/-- The shortest form of a length: a byte below 128, or a count of bytes and that many bytes. -/
def lengthField (length : Nat) : List UInt8 :=
  if length < 128 then [UInt8.ofNat length]
  else UInt8.ofNat (128 + byteCount length) :: encode (byteCount length) length

/-- `OCTET STRING`. -/
def octetString (content : List UInt8) : List UInt8 :=
  0x04 :: (lengthField content.length ++ content)

/-- `SEQUENCE` with contents of any length. -/
def sequence (content : List UInt8) : List UInt8 :=
  0x30 :: (lengthField content.length ++ content)

/-- The frame of a sequence is not part of its contents. -/
theorem length_lt_length_sequence (content : List UInt8) :
    content.length < (sequence content).length := by
  rw [sequence, List.length_cons, List.length_append]
  omega

theorem sequence_ne (content : List UInt8) : sequence content ≠ content := by
  intro same
  have longer := length_lt_length_sequence content
  rw [same] at longer
  exact Nat.lt_irrefl _ longer

theorem byteCount_eq_iff {value width : Nat} (positive : value ≠ 0) :
    byteCount value = width + 1 ↔ 256 ^ width ≤ value ∧ value < 256 ^ (width + 1) := by
  rw [byteCount, Nat.add_right_cancel_iff]
  exact Nat.log_eq_iff (.inr ⟨by decide, positive⟩)

end Der
