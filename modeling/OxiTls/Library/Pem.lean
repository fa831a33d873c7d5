import Mathlib.Algebra.Group.Nat.Defs
import Mathlib.Data.List.GetD
import Mathlib.Data.List.Nodup
import OxiTls.Library.Chunks

/-!
# Base64 and PEM

The base64 of RFC 4648 with its strict decoder, which wants the padding and the zero bits before it,
and a textual block of RFC 7468 with its strict parser, which wants lines of 64 characters.
-/

namespace Base64

/-- The characters for the values below 64. -/
def alphabet : List Char :=
  ['A', 'B', 'C', 'D', 'E', 'F', 'G', 'H', 'I', 'J', 'K', 'L', 'M', 'N', 'O', 'P',
    'Q', 'R', 'S', 'T', 'U', 'V', 'W', 'X', 'Y', 'Z', 'a', 'b', 'c', 'd', 'e', 'f',
    'g', 'h', 'i', 'j', 'k', 'l', 'm', 'n', 'o', 'p', 'q', 'r', 's', 't', 'u', 'v',
    'w', 'x', 'y', 'z', '0', '1', '2', '3', '4', '5', '6', '7', '8', '9', '+', '/']

/-- The character for a value below 64. -/
def symbol (value : Nat) : Char := alphabet.getD value '='

/-- The value of a character of the alphabet. -/
def value? (symbol : Char) : Option Nat := alphabet.idxOf? symbol

theorem alphabet_nodup : alphabet.Nodup := by
  have codes : alphabet.map Char.toNat =
      List.range' 65 26 ++ List.range' 97 26 ++ List.range' 48 10 ++ [43, 47] := by decide
  refine List.Nodup.of_map Char.toNat ?_
  rw [codes]
  decide

theorem value?_eq_some_iff {character : Char} {value : Nat} :
    value? character = some value ↔ value < 64 ∧ symbol value = character := by
  have length : alphabet.length = 64 := rfl
  rw [value?, List.idxOf?_eq_some_iff]
  constructor
  · rintro ⟨bound, found, _⟩
    exact ⟨by omega, by rw [symbol, List.getD_eq_getElem _ _ bound, found]⟩
  · rintro ⟨bound, found⟩
    have bound : value < alphabet.length := by omega
    rw [symbol, List.getD_eq_getElem _ _ bound] at found
    refine ⟨bound, found, fun earlier before same => ?_⟩
    have := (List.getElem_inj alphabet_nodup).mp (same.trans found.symm)
    omega

@[simp] theorem value?_symbol {value : Nat} (bound : value < 64) :
    value? (symbol value) = some value :=
  value?_eq_some_iff.mpr ⟨bound, rfl⟩

theorem symbol_mem {value : Nat} (bound : value < 64) : symbol value ∈ alphabet := by
  rw [symbol, List.getD_eq_getElem _ _ (show value < alphabet.length from bound)]
  exact List.getElem_mem _

theorem symbol_ne_pad {value : Nat} (bound : value < 64) : symbol value ≠ '=' := by
  have absent : '=' ∉ alphabet := by decide
  exact fun pad => absent (pad ▸ symbol_mem bound)

/-! ## Encoding -/

/-- The bytes as values of six bits, the last one filled up with zero bits. -/
def sextets : List UInt8 → List Nat
  | [] => []
  | [x] => [x.toNat / 4, x.toNat % 4 * 16]
  | [x, y] => [x.toNat / 4, x.toNat % 4 * 16 + y.toNat / 16, y.toNat % 16 * 4]
  | x :: y :: z :: rest =>
      x.toNat / 4 :: (x.toNat % 4 * 16 + y.toNat / 16) :: (y.toNat % 16 * 4 + z.toNat / 64) ::
        (z.toNat % 64) :: sextets rest

/-- The number of padding characters for so many bytes. -/
def padding (size : Nat) : Nat := (3 - size % 3) % 3

theorem padding_add_three (size : Nat) : padding (size + 3) = padding size := by
  simp [padding]

/-- The base64 of a byte string. -/
def encode (bytes : List UInt8) : List Char :=
  (sextets bytes).map symbol ++ List.replicate (padding bytes.length) '='

/-- The text has the padding for so many bytes, after characters of the alphabet of which the last
one ends in zero bits for every padding character. -/
def Canonical (size : Nat) (symbols : List Char) : Prop :=
  ∃ values : List Nat, (∀ value ∈ values, value < 64) ∧
    symbols = values.map symbol ++ List.replicate (padding size) '=' ∧
    ∀ value ∈ values.getLast?, value % 4 ^ padding size = 0

theorem sextets_lt (bytes : List UInt8) : ∀ value ∈ sextets bytes, value < 64 := by
  fun_induction sextets bytes with
  | case1 => simp
  | case2 x =>
      have := x.toNat_lt
      simp
      omega
  | case3 x y =>
      have := x.toNat_lt
      have := y.toNat_lt
      simp
      omega
  | case4 x y z rest induction =>
      have := x.toNat_lt
      have := y.toNat_lt
      have := z.toNat_lt
      simp only [List.mem_cons, forall_eq_or_imp]
      exact ⟨by omega, by omega, by omega, by omega, induction⟩

theorem length_sextets (bytes : List UInt8) :
    (sextets bytes).length + padding bytes.length = 4 * ((bytes.length + 2) / 3) := by
  fun_induction sextets bytes with
  | case1 => rfl
  | case2 x => simp [padding]
  | case3 x y => simp [padding]
  | case4 x y z rest induction =>
      simp only [List.length_cons, padding] at induction ⊢
      omega

@[simp] theorem length_encode (bytes : List UInt8) :
    (encode bytes).length = 4 * ((bytes.length + 2) / 3) := by
  simpa [encode] using length_sextets bytes

theorem sextets_getLast (bytes : List UInt8) :
    ∀ value ∈ (sextets bytes).getLast?, value % 4 ^ padding bytes.length = 0 := by
  fun_induction sextets bytes with
  | case1 => simp
  | case2 x => simp [padding]
  | case3 x y => simp [padding]
  | case4 x y z rest induction =>
      cases rest with
      | nil => simp [padding, sextets, Nat.mod_one]
      | cons head tail =>
          obtain ⟨first, others, cut⟩ :
              ∃ first others, sextets (head :: tail) = first :: others := by
            unfold sextets
            split <;> simp_all
          have periodic : padding (tail.length + 1 + 1 + 1 + 1) = padding (tail.length + 1) :=
            padding_add_three _
          rw [cut] at induction ⊢
          simpa [List.getLast?_cons, periodic] using induction

/-- Base64 is canonical. -/
theorem encode_canonical (bytes : List UInt8) : Canonical bytes.length (encode bytes) :=
  ⟨sextets bytes, sextets_lt bytes, rfl, sextets_getLast bytes⟩

@[simp] theorem encode_nil : encode [] = [] := rfl

/-- The base64 of three bytes and more starts with four characters for the three. -/
theorem encode_cons (x y z : UInt8) (rest : List UInt8) :
    encode (x :: y :: z :: rest) =
      symbol (x.toNat / 4) :: symbol (x.toNat % 4 * 16 + y.toNat / 16) ::
        symbol (y.toNat % 16 * 4 + z.toNat / 64) :: symbol (z.toNat % 64) :: encode rest := by
  simp [encode, sextets, padding_add_three]

/-- Every character of base64 takes one byte of UTF-8. -/
theorem utf8Size_of_mem_encode {bytes : List UInt8} {character : Char}
    (member : character ∈ encode bytes) : character.utf8Size = 1 := by
  have ascii : ∀ character ∈ alphabet, (character.utf8Size == 1) = true :=
    List.all_eq_true.mp rfl
  simp only [encode, List.mem_append, List.mem_map, List.mem_replicate] at member
  rcases member with ⟨value, occurs, rfl⟩ | ⟨_, rfl⟩
  · exact eq_of_beq (ascii _ (symbol_mem (sextets_lt bytes value occurs)))
  · rfl

/-! ## Decoding -/

/-- The bytes of four characters, of which one or two may be padding. -/
def decodeQuantum (first second third fourth : Char) : Option (List UInt8) := do
  let a ← value? first
  let b ← value? second
  if third = '=' ∧ fourth = '=' then
    if b % 16 = 0 then some [.ofNat (a * 4 + b / 16)] else none
  else
    let c ← value? third
    if fourth = '=' then
      if c % 4 = 0 then some [.ofNat (a * 4 + b / 16), .ofNat (b % 16 * 16 + c / 4)] else none
    else
      let d ← value? fourth
      some [.ofNat (a * 4 + b / 16), .ofNat (b % 16 * 16 + c / 4), .ofNat (c % 4 * 64 + d)]

/-- The strict decoder: padding only at the end, and the bits before it zero. -/
def decode : List Char → Option (List UInt8)
  | [] => some []
  | first :: second :: third :: fourth :: rest => do
      let front ← decodeQuantum first second third fourth
      let back ← decode rest
      if rest = [] ∨ front.length = 3 then some (front ++ back) else none
  | _ => none

theorem encode_singleton (x : UInt8) :
    encode [x] = [symbol (x.toNat / 4), symbol (x.toNat % 4 * 16), '=', '='] := rfl

theorem encode_pair (x y : UInt8) :
    encode [x, y] = [symbol (x.toNat / 4), symbol (x.toNat % 4 * 16 + y.toNat / 16),
      symbol (y.toNat % 16 * 4), '='] := rfl

/-- Four characters decode to a byte string that they are the base64 of. -/
theorem encode_of_decodeQuantum {first second third fourth : Char} {bytes : List UInt8}
    (decoded : decodeQuantum first second third fourth = some bytes) :
    [first, second, third, fourth] = encode bytes := by
  simp only [decodeQuantum, Option.bind_eq_bind, Option.bind_eq_some_iff, value?_eq_some_iff]
    at decoded
  obtain ⟨a, ⟨aBound, rfl⟩, b, ⟨bBound, rfl⟩, decoded⟩ := decoded
  have one : (UInt8.ofNat (a * 4 + b / 16)).toNat = a * 4 + b / 16 :=
    UInt8.toNat_ofNat_of_lt' (show _ < 256 by omega)
  split at decoded
  next pads =>
    obtain ⟨rfl, rfl⟩ := pads
    obtain ⟨zero, decoded⟩ := Option.ite_none_right_eq_some.mp decoded
    rw [← Option.some.inj decoded, encode_singleton, one,
      show (a * 4 + b / 16) / 4 = a by omega, show (a * 4 + b / 16) % 4 * 16 = b by omega]
  next =>
    simp only [Option.bind_eq_some_iff, value?_eq_some_iff] at decoded
    obtain ⟨c, ⟨cBound, rfl⟩, decoded⟩ := decoded
    have two : (UInt8.ofNat (b % 16 * 16 + c / 4)).toNat = b % 16 * 16 + c / 4 :=
      UInt8.toNat_ofNat_of_lt' (show _ < 256 by omega)
    have firsts : (a * 4 + b / 16) / 4 = a := by omega
    have seconds : (a * 4 + b / 16) % 4 * 16 + (b % 16 * 16 + c / 4) / 16 = b := by omega
    split at decoded
    next pad =>
      obtain ⟨zero, decoded⟩ := Option.ite_none_right_eq_some.mp decoded
      rw [← Option.some.inj decoded, encode_pair, one, two, firsts, seconds, pad,
        show (b % 16 * 16 + c / 4) % 16 * 4 = c by omega]
    next =>
      simp only [Option.bind_eq_some_iff, value?_eq_some_iff] at decoded
      obtain ⟨d, ⟨dBound, rfl⟩, decoded⟩ := decoded
      have three : (UInt8.ofNat (c % 4 * 64 + d)).toNat = c % 4 * 64 + d :=
        UInt8.toNat_ofNat_of_lt' (show _ < 256 by omega)
      rw [← Option.some.inj decoded, encode_cons, one, two, three, firsts, seconds,
        show (b % 16 * 16 + c / 4) % 16 * 4 + (c % 4 * 64 + d) / 64 = c by omega,
        show (c % 4 * 64 + d) % 64 = d by omega]
      rfl

theorem decodeQuantum_singleton (x : UInt8) :
    decodeQuantum (symbol (x.toNat / 4)) (symbol (x.toNat % 4 * 16)) '=' '=' = some [x] := by
  have := x.toNat_lt
  have one : x.toNat / 4 * 4 + x.toNat % 4 * 16 / 16 = x.toNat := by omega
  simp (disch := omega) only [decodeQuantum, value?_symbol, Option.bind_eq_bind, Option.bind_some,
    and_true, if_true]
  rw [if_pos (by omega), one, UInt8.ofNat_toNat]

theorem decodeQuantum_pair (x y : UInt8) :
    decodeQuantum (symbol (x.toNat / 4)) (symbol (x.toNat % 4 * 16 + y.toNat / 16))
      (symbol (y.toNat % 16 * 4)) '=' = some [x, y] := by
  have := x.toNat_lt
  have := y.toNat_lt
  have one : x.toNat / 4 * 4 + (x.toNat % 4 * 16 + y.toNat / 16) / 16 = x.toNat := by omega
  have two : (x.toNat % 4 * 16 + y.toNat / 16) % 16 * 16 + y.toNat % 16 * 4 / 4 = y.toNat := by
    omega
  have third : symbol (y.toNat % 16 * 4) ≠ '=' := symbol_ne_pad (by omega)
  simp (disch := omega) only [decodeQuantum, value?_symbol, Option.bind_eq_bind, Option.bind_some,
    and_true, if_true]
  rw [if_neg third, if_pos (by omega), one, two]
  simp only [UInt8.ofNat_toNat]

theorem decodeQuantum_triple (x y z : UInt8) :
    decodeQuantum (symbol (x.toNat / 4)) (symbol (x.toNat % 4 * 16 + y.toNat / 16))
      (symbol (y.toNat % 16 * 4 + z.toNat / 64)) (symbol (z.toNat % 64)) = some [x, y, z] := by
  have := x.toNat_lt
  have := y.toNat_lt
  have := z.toNat_lt
  have one : x.toNat / 4 * 4 + (x.toNat % 4 * 16 + y.toNat / 16) / 16 = x.toNat := by omega
  have two : (x.toNat % 4 * 16 + y.toNat / 16) % 16 * 16 + (y.toNat % 16 * 4 + z.toNat / 64) / 4 =
      y.toNat := by omega
  have three : (y.toNat % 16 * 4 + z.toNat / 64) % 4 * 64 + z.toNat % 64 = z.toNat := by omega
  have fourth : symbol (z.toNat % 64) ≠ '=' := symbol_ne_pad (by omega)
  simp (disch := omega) only [decodeQuantum, value?_symbol, Option.bind_eq_bind, Option.bind_some]
  rw [if_neg (fourth ·.2), if_neg fourth, one, two, three]
  simp only [UInt8.ofNat_toNat]

/-- The decoder undoes the encoder. -/
theorem decode_encode (bytes : List UInt8) : decode (encode bytes) = some bytes := by
  induction bytes using sextets.induct with
  | case1 => rfl
  | case2 x => simp [encode_singleton, decode, decodeQuantum_singleton]
  | case3 x y => simp [encode_pair, decode, decodeQuantum_pair]
  | case4 x y z rest induction =>
      simp [encode_cons, decode, decodeQuantum_triple, induction]

/-- The decoder accepts nothing but what the encoder writes. -/
theorem decode_eq_some_iff {symbols : List Char} {bytes : List UInt8} :
    decode symbols = some bytes ↔ symbols = encode bytes := by
  refine ⟨fun decoded => ?_, fun encoded => encoded ▸ decode_encode bytes⟩
  induction symbols using decode.induct generalizing bytes with
  | case1 =>
      obtain rfl : bytes = [] := by simpa [decode] using decoded
      rfl
  | case2 first second third fourth rest induction =>
      simp only [decode, Option.bind_eq_bind, Option.bind_eq_some_iff] at decoded
      obtain ⟨front, quantum, back, following, decoded⟩ := decoded
      obtain ⟨placed, decoded⟩ := Option.ite_none_right_eq_some.mp decoded
      have start := encode_of_decodeQuantum quantum
      have rests := induction following
      obtain rfl := Option.some.inj decoded
      rcases placed with rfl | whole
      · obtain rfl : back = [] := by simpa [decode] using following
        simpa using start
      · obtain ⟨x, y, z, rfl⟩ := List.length_eq_three.mp whole
        simp only [List.cons_append, List.nil_append, encode_cons, ← rests]
        simpa [encode_cons] using start
  | case3 symbols nonempty short =>
      rw [decode] at decoded
      · contradiction
      · exact nonempty
      · exact short

end Base64

/-! ## ASCII text -/

namespace Ascii

variable {text : List Char}

/-- The bytes of a text of ASCII characters. -/
def bytes (text : List Char) : List UInt8 := text.map (·.val.toUInt8)

theorem utf8Encode_eq (ascii : ∀ character ∈ text, character.utf8Size = 1) :
    text.utf8Encode = ⟨(bytes text).toArray⟩ := by
  induction text with
  | nil => rfl
  | cons character text induction =>
      obtain ⟨single, others⟩ := List.forall_mem_cons.mp ascii
      rw [List.utf8Encode_cons, induction others, List.utf8Encode_singleton,
        String.utf8EncodeChar_eq_singleton single]
      rfl

/-- The bytes of an ASCII text are valid UTF-8, for the text. -/
theorem fromUTF8?_bytes (ascii : ∀ character ∈ text, character.utf8Size = 1) :
    String.fromUTF8? ⟨(bytes text).toArray⟩ = some (String.ofList text) := by
  rw [← utf8Encode_eq ascii, String.fromUTF8?, dif_pos ByteArray.isValidUTF8_utf8Encode]
  rfl

end Ascii

/-! ## Textual blocks -/

namespace Pem

/-- The dashes around a boundary. -/
def dashes : List Char := List.replicate 5 '-'

/-- The line that opens a block. -/
def header (label : String) : List Char :=
  dashes ++ ['B', 'E', 'G', 'I', 'N', ' '] ++ label.toList ++ dashes

/-- The line that closes a block. -/
def footer (label : String) : List Char :=
  dashes ++ ['E', 'N', 'D', ' '] ++ label.toList ++ dashes

/-- Every line has at most 64 characters, and every line but the last has 64. -/
def WellSet (lines : List (List Char)) : Prop :=
  (∀ line ∈ lines, 0 < line.length ∧ line.length ≤ 64) ∧
    ∀ line ∈ lines.dropLast, line.length = 64

instance : DecidablePred WellSet := fun _ => inferInstanceAs (Decidable (_ ∧ _))

/-- The strict parser of a text that is one block. -/
def parse (label text : String) : Option (List UInt8) :=
  match text.toList.splitOn '\n' with
  | [] => none
  | first :: rest =>
      if first = header label ∧ rest.getLast? = some (footer label) ∧ WellSet rest.dropLast then
        Base64.decode rest.dropLast.flatten
      else none

/-- The lines of the block with the given bytes. -/
def lines (label : String) (bytes : List UInt8) : List (List Char) :=
  header label :: ((Base64.encode bytes).toChunks 64 ++ [footer label])

theorem wellSet_toChunks (symbols : List Char) : WellSet (symbols.toChunks 64) :=
  ⟨fun _ member => List.length_of_mem_toChunks (by decide) member,
    fun _ member => List.length_of_mem_dropLast_toChunks (by decide) member⟩

/-- No line of a block has a line break in it, if the label has none. -/
theorem newline_notMem {label : String} (unbroken : '\n' ∉ label.toList) {bytes : List UInt8} :
    ∀ line ∈ lines label bytes, '\n' ∉ line := by
  intro line member broken
  simp only [lines, List.mem_cons, List.mem_append, List.not_mem_nil, or_false] at member
  rcases member with same | member | same
  · have free : '\n' ∉ header label := by simp [header, dashes, unbroken]
    exact free (same ▸ broken)
  · have symbols : '\n' ∈ Base64.encode bytes := by
      rw [← List.flatten_toChunks (show 0 < 64 by decide) (Base64.encode bytes)]
      exact List.mem_flatten_of_mem member broken
    have absent : '\n' ∉ Base64.alphabet := by decide
    simp only [Base64.encode, List.mem_append, List.mem_map, List.mem_replicate] at symbols
    rcases symbols with ⟨value, occurs, same⟩ | ⟨_, pad⟩
    · exact absent (same ▸ Base64.symbol_mem (Base64.sextets_lt bytes value occurs))
    · exact absurd pad (by decide)
  · have free : '\n' ∉ footer label := by simp [footer, dashes, unbroken]
    exact free (same ▸ broken)

/-- A line break after every line but the last. -/
theorem intercalate_concat (front : List (List Char)) (last : List Char) :
    ['\n'].intercalate (front ++ [last]) = front.flatMap (· ++ ['\n']) ++ last := by
  induction front with
  | nil => simp
  | cons line front induction =>
      rw [List.cons_append, List.intercalate_cons_of_ne_nil (by simp), induction]
      simp

/-- The parser reads the bytes back from the lines. -/
theorem parse_lines {label text : String} {bytes : List UInt8} (unbroken : '\n' ∉ label.toList)
    (set : text.toList =
      (header label :: (Base64.encode bytes).toChunks 64).flatMap (· ++ ['\n']) ++ footer label) :
    parse label text = some bytes := by
  have split : text.toList.splitOn '\n' = lines label bytes := by
    rw [set, ← intercalate_concat]
    exact List.splitOn_intercalate '\n' (newline_notMem unbroken) (List.cons_ne_nil _ _)
  rw [parse, split]
  simp only [lines, List.dropLast_concat]
  rw [if_pos ⟨trivial, by simp, wellSet_toChunks _⟩, List.flatten_toChunks (by decide),
    Base64.decode_encode]

end Pem
