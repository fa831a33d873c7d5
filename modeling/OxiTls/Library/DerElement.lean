import OxiTls.Library.Der

/-!
# Strict DER elements of any length

An element is a tag, the shortest form of the length and the content.  The reader is strict: it
accepts definite lengths in their shortest form and nothing else, so that an element it reads is the
only encoding of its content.
-/

namespace Der

open BigEndian

/-- A tag, the shortest form of the length and the content. -/
def element (tag : UInt8) (content : List UInt8) : List UInt8 :=
  tag :: (lengthField content.length ++ content)

/-- Read a length and what follows it.  The indefinite form, the reserved form and longer forms of
a length that has a shorter one are refused. -/
def readLength : List UInt8 → Option (Nat × List UInt8)
  | [] => none
  | first :: rest =>
      if first < 0x80 then some (first.toNat, rest)
      else
        let count := first.toNat - 128
        let digits := rest.take count
        if count = 0 ∨ count = 127 ∨ rest.length < count then none
        else if digits.head? = some 0 ∨ decode digits < 128 then none
        else some (decode digits, rest.drop count)

/-- Read one element with the given tag: its content and what follows it. -/
def readElement (tag : UInt8) : List UInt8 → Option (List UInt8 × List UInt8)
  | [] => none
  | first :: rest =>
      if first ≠ tag then none
      else do
        let (length, more) ← readLength rest
        if length ≤ more.length then some (more.take length, more.drop length) else none

/-- Read an element that fills the whole input. -/
def readWhole (tag : UInt8) (bytes : List UInt8) : Option (List UInt8) := do
  let (content, rest) ← readElement tag bytes
  if rest = [] then some content else none

/-! ## The length -/

theorem lengthField_of_lt {length : Nat} (short : length < 128) :
    lengthField length = [UInt8.ofNat length] :=
  if_pos short

theorem lengthField_of_le {length : Nat} (long : 128 ≤ length) :
    lengthField length =
      UInt8.ofNat (128 + byteCount length) :: encode (byteCount length) length :=
  if_neg (Nat.not_lt.mpr long)

/-- The long form takes more than one byte. -/
theorem one_lt_length_lengthField {length : Nat} (long : 128 ≤ length) :
    1 < (lengthField length).length := by
  rw [lengthField_of_le long, List.length_cons, length_encode, byteCount]
  omega

theorem length_lengthField_pos (length : Nat) : 0 < (lengthField length).length := by
  unfold lengthField
  split_ifs <;> simp

/-- Digits without a leading zero are the shortest form of their number. -/
theorem lengthField_decode {digits : List UInt8} (significant : digits.head? ≠ some 0)
    (long : 128 ≤ decode digits) :
    lengthField (decode digits) = UInt8.ofNat (128 + digits.length) :: digits := by
  cases digits with
  | nil => simp at long
  | cons digit digits =>
      have nonzero : digit ≠ 0 := fun zero => significant (congrArg some zero)
      have count : byteCount (decode (digit :: digits)) = digits.length + 1 :=
        (byteCount_eq_iff (by omega)).mpr
          ⟨pow_le_decode_cons_iff.mpr nonzero, decode_lt (digit :: digits)⟩
      rw [lengthField_of_le long, count, ← List.length_cons, encode_decode]

/-- The number of a shortest form fills its bytes. -/
theorem head?_encode_byteCount {length : Nat} (positive : length ≠ 0) :
    (encode (byteCount length) length).head? ≠ some 0 := by
  have count : byteCount length = Nat.log 256 length + 1 := rfl
  obtain ⟨filled, fits⟩ := (byteCount_eq_iff positive).mp count
  have decoded : decode (encode (byteCount length) length) = length := decode_encode_of_lt fits
  have width := length_encode (byteCount length) length
  cases digits : encode (byteCount length) length with
  | nil => simp
  | cons digit rest =>
      rw [digits] at decoded width
      have shorter : rest.length = Nat.log 256 length := Nat.succ.inj width
      rw [← shorter, ← decoded, pow_le_decode_cons_iff] at filled
      simpa using filled

/-- The reader accepts exactly the shortest forms. -/
theorem readLength_eq_some_iff {bytes rest : List UInt8} {length : Nat} :
    readLength bytes = some (length, rest) ↔
      bytes = lengthField length ++ rest ∧ length < 256 ^ 126 := by
  constructor
  · intro accepted
    cases bytes with
    | nil => contradiction
    | cons first more =>
        have small := first.toNat_lt
        simp only [readLength] at accepted
        split_ifs at accepted with short malformed longer
        · obtain ⟨rfl, rfl⟩ := Prod.mk.inj (Option.some.inj accepted)
          rw [UInt8.lt_iff_toNat_lt] at short
          refine ⟨?_, Nat.lt_trans short (by decide)⟩
          rw [lengthField_of_lt short, UInt8.ofNat_toNat, List.singleton_append]
        · obtain ⟨rfl, rfl⟩ := Prod.mk.inj (Option.some.inj accepted)
          rw [UInt8.lt_iff_toNat_lt] at short
          have high : ¬ first.toNat < 128 := short
          obtain ⟨definite, unreserved, available⟩ := not_or.mp malformed |>.imp_right not_or.mp
          obtain ⟨significant, long⟩ := not_or.mp longer
          have count : (more.take (first.toNat - 128)).length = first.toNat - 128 :=
            List.length_take_of_le (Nat.not_lt.mp available)
          have total : 128 + (first.toNat - 128) = first.toNat := by omega
          refine ⟨?_, ?_⟩
          · rw [lengthField_decode significant (Nat.not_lt.mp long), count, total,
              UInt8.ofNat_toNat, List.cons_append, List.take_append_drop]
          · refine Nat.lt_of_lt_of_le (decode_lt _) (Nat.pow_le_pow_right (by decide) ?_)
            omega
  · rintro ⟨rfl, bounded⟩
    by_cases short : length < 128
    · have value : (UInt8.ofNat length).toNat = length := by
        rw [UInt8.toNat_ofNat']
        omega
      have low : UInt8.ofNat length < 0x80 := by
        rw [UInt8.lt_iff_toNat_lt, value]
        exact short
      simp [lengthField_of_lt short, readLength, low, value]
    · have long : 128 ≤ length := Nat.not_lt.mp short
      have positive : length ≠ 0 := by omega
      have few : Nat.log 256 length < 126 := Nat.log_lt_of_lt_pow positive bounded
      have count_eq : byteCount length = Nat.log 256 length + 1 := rfl
      obtain ⟨_, fits⟩ := (byteCount_eq_iff positive).mp count_eq
      have value : (UInt8.ofNat (128 + byteCount length)).toNat = 128 + byteCount length := by
        rw [UInt8.toNat_ofNat']
        omega
      have high : ¬ UInt8.ofNat (128 + byteCount length) < 0x80 := by
        rw [UInt8.lt_iff_toNat_lt, value]
        exact Nat.not_lt.mpr (Nat.le_add_right _ _)
      have width := length_encode (byteCount length) length
      have decoded : decode (encode (byteCount length) length) = length := decode_encode_of_lt fits
      rw [lengthField_of_le long, List.cons_append, readLength, if_neg high]
      simp only [value, Nat.add_sub_cancel_left, List.take_left' width, List.drop_left' width,
        decoded]
      rw [if_neg, if_neg]
      · exact not_or.mpr ⟨head?_encode_byteCount positive, short⟩
      · rw [List.length_append, width]
        omega

/-! ## Elements -/

theorem length_element (tag : UInt8) (content : List UInt8) :
    (element tag content).length =
      1 + (lengthField content.length).length + content.length := by
  rw [element, List.length_cons, List.length_append]
  omega

/-- The reader accepts exactly the elements. -/
theorem readElement_eq_some_iff {tag : UInt8} {bytes content rest : List UInt8} :
    readElement tag bytes = some (content, rest) ↔
      bytes = element tag content ++ rest ∧ content.length < 256 ^ 126 := by
  constructor
  · intro accepted
    cases bytes with
    | nil => contradiction
    | cons first more =>
        simp only [readElement] at accepted
        split_ifs at accepted with other
        obtain rfl : first = tag := by simpa using other
        simp only [Option.bind_eq_bind, Option.bind_eq_some_iff] at accepted
        obtain ⟨⟨length, following⟩, measured, checked⟩ := accepted
        split_ifs at checked with available
        obtain ⟨rfl, rfl⟩ := Prod.mk.inj (Option.some.inj checked)
        obtain ⟨rfl, bounded⟩ := readLength_eq_some_iff.mp measured
        have exactly : (following.take length).length = length := List.length_take_of_le available
        rw [element, exactly, List.cons_append, List.append_assoc, List.take_append_drop]
        exact ⟨rfl, bounded⟩
  · rintro ⟨rfl, bounded⟩
    have measured : readLength (lengthField content.length ++ (content ++ rest)) =
        some (content.length, content ++ rest) := readLength_eq_some_iff.mpr ⟨rfl, bounded⟩
    simp [readElement, element, measured]

theorem readWhole_eq_some_iff {tag : UInt8} {bytes content : List UInt8} :
    readWhole tag bytes = some content ↔
      bytes = element tag content ∧ content.length < 256 ^ 126 := by
  constructor
  · intro accepted
    simp only [readWhole, Option.bind_eq_bind, Option.bind_eq_some_iff] at accepted
    obtain ⟨⟨content', rest⟩, read, checked⟩ := accepted
    split_ifs at checked with whole
    obtain rfl := Option.some.inj checked
    obtain rfl : rest = [] := whole
    simpa using readElement_eq_some_iff.mp read
  · rintro ⟨rfl, bounded⟩
    have read : readElement tag (element tag content) = some (content, []) :=
      readElement_eq_some_iff.mpr ⟨(List.append_nil _).symm, bounded⟩
    simp [readWhole, read]

/-- With short contents an element is a tag, one byte for the length and the content. -/
theorem element_eq_tlv {tag : UInt8} {content : List UInt8} (short : content.length < 128) :
    element tag content = tlv tag content := by
  rw [element, lengthField_of_lt short, List.singleton_append, tlv]

/-! ## Integers -/

/-- `INTEGER`, of any length. -/
def integerElement (value : Nat) : List UInt8 := element 0x02 (integerContent value)

/-- `SEQUENCE { INTEGER, INTEGER }`, of any length. -/
def integerPairElement (first second : Nat) : List UInt8 :=
  element 0x30 (integerElement first ++ integerElement second)

/-- One byte for each length is enough exactly while the contents of the sequence are short. -/
theorem integerPair_eq_element_iff {first second : Nat} :
    integerPair first second = integerPairElement first second ↔
      (integerContent first).length + (integerContent second).length ≤ 123 := by
  constructor
  · intro same
    have lengths := congrArg List.length same
    have former := length_lengthField_pos (integerContent first).length
    have latter := length_lengthField_pos (integerContent second).length
    by_contra long
    simp only [integerPair, integer, tlv, integerPairElement, length_element, List.length_cons,
      List.length_append] at lengths
    have longer : 1 < (lengthField
        (integerElement first ++ integerElement second).length).length := by
      apply one_lt_length_lengthField
      simp only [integerElement, List.length_append, length_element]
      omega
    simp only [integerElement, List.length_append, length_element] at lengths longer
    omega
  · intro short
    have contents : (integer first ++ integer second).length < 128 := by
      simp only [integer, tlv, List.length_append, List.length_cons]
      omega
    have former : integerElement first = integer first := element_eq_tlv (by omega)
    have latter : integerElement second = integer second := element_eq_tlv (by omega)
    rw [integerPairElement, former, latter, element_eq_tlv contents, integerPair]

/-! ## Object identifiers -/

/-- Read numbers in base 128, most significant digit first, where every digit but the last of a
number has its high bit set.  What has been read of an unfinished number is pending; a number does
not start with a zero digit that goes on. -/
def readArcs : (pending : Option Nat) → List UInt8 → Option (List Nat)
  | none, [] => some []
  | some _, [] => none
  | pending, digit :: digits =>
      if pending = none ∧ digit = 0x80 then none
      else
        let value := pending.getD 0 * 128 + digit.toNat % 128
        if digit < 0x80 then do
          let arcs ← readArcs none digits
          some (value :: arcs)
        else readArcs (some value) digits

/-- Read the content of an `OBJECT IDENTIFIER`, whose first number holds the first two arcs. -/
def readObjectIdentifier (content : List UInt8) : Option (List Nat) := do
  match ← readArcs none content with
  | [] => none
  | first :: arcs =>
      let root := min (first / 40) 2
      some (root :: (first - 40 * root) :: arcs)

end Der
