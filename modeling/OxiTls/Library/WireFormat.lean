import OxiTls.Library.BigEndian
import Mathlib.Logic.Equiv.Defs

/-!
# Wire formats

Formats of binary data: an encoder, a decoder that reads a value off the front of its input, and the
proofs that the decoder gives back what was encoded and accepts nothing else.  The combinators are
those of the TLS presentation language: integers, byte strings and lists after their length, and
fields in sequence.  A length is exact, so that nothing is left over inside a frame.
-/

/-- A format for the values of a type. -/
structure WireFormat (α : Type) where
  /-- The values that can be encoded. -/
  Valid : α → Prop
  encode : α → List UInt8
  decode : List UInt8 → Option (α × List UInt8)
  decode_encode : ∀ {value : α} (rest : List UInt8), Valid value →
    decode (encode value ++ rest) = some (value, rest)
  eq_encode : ∀ {bytes : List UInt8} {value : α} {rest : List UInt8},
    decode bytes = some (value, rest) → Valid value ∧ bytes = encode value ++ rest

/-- A format for values that take up all of the input. -/
structure WholeFormat (α : Type) where
  /-- The values that can be encoded. -/
  Valid : α → Prop
  encode : α → List UInt8
  decode : List UInt8 → Option α
  decode_eq_some_iff : ∀ {bytes : List UInt8} {value : α},
    decode bytes = some value ↔ Valid value ∧ bytes = encode value

namespace WireFormat

variable {α β : Type}

/-- Decode all of the input. -/
def decodeAll (format : WireFormat α) (bytes : List UInt8) : Option α :=
  match format.decode bytes with
  | some (value, []) => some value
  | _ => none

/-- The input that is read as a value is the encoding of the value. -/
theorem decodeAll_eq_some_iff (format : WireFormat α) {bytes : List UInt8} {value : α} :
    format.decodeAll bytes = some value ↔ format.Valid value ∧ bytes = format.encode value := by
  constructor
  · intro decoded
    rw [decodeAll] at decoded
    split at decoded
    case h_1 read =>
      obtain rfl := Option.some.inj decoded
      obtain ⟨valid, encoded⟩ := format.eq_encode read
      exact ⟨valid, encoded.trans (List.append_nil _)⟩
    case h_2 => contradiction
  · rintro ⟨valid, rfl⟩
    have read := format.decode_encode [] valid
    rw [List.append_nil] at read
    rw [decodeAll, read]

/-! ## Integers -/

/-- One byte. -/
def byte : WireFormat UInt8 where
  Valid _ := True
  encode value := [value]
  decode
    | [] => none
    | value :: rest => some (value, rest)
  decode_encode _ _ := rfl
  eq_encode {bytes value rest} decoded := by
    cases bytes with
    | nil => contradiction
    | cons first others =>
        obtain ⟨rfl, rfl⟩ := Prod.mk.inj (Option.some.inj decoded)
        exact ⟨trivial, rfl⟩

/-- A number of two bytes. -/
def uint16 : WireFormat UInt16 where
  Valid _ := True
  encode value := BigEndian.encode 2 value.toNat
  decode bytes :=
    if 2 ≤ bytes.length then
      some (UInt16.ofNat (BigEndian.decode (bytes.take 2)), bytes.drop 2)
    else none
  decode_encode {value} rest _ := by
    have field := BigEndian.length_encode 2 value.toNat
    have long : 2 ≤ (BigEndian.encode 2 value.toNat ++ rest).length := by
      rw [List.length_append, field]
      omega
    rw [if_pos long, List.take_left' field, List.drop_left' field,
      BigEndian.decode_encode_of_lt value.toNat_lt, UInt16.ofNat_toNat]
  eq_encode {bytes value rest} decoded := by
    split_ifs at decoded with long
    obtain ⟨rfl, rfl⟩ := Prod.mk.inj (Option.some.inj decoded)
    obtain ⟨field, fits⟩ := BigEndian.eq_encode_of_decode (List.length_take_of_le long) rfl
    refine ⟨trivial, ?_⟩
    rw [UInt16.toNat_ofNat_of_lt' fits, ← field, List.take_append_drop]

/-! ## Byte strings and frames -/

/-- Read a byte string after its length. -/
def readSized (width : Nat) (bytes : List UInt8) : Option (List UInt8 × List UInt8) :=
  if width ≤ bytes.length ∧ BigEndian.decode (bytes.take width) ≤ (bytes.drop width).length then
    some ((bytes.drop width).take (BigEndian.decode (bytes.take width)),
      (bytes.drop width).drop (BigEndian.decode (bytes.take width)))
  else none

theorem readSized_eq_some_iff {width : Nat} {bytes content rest : List UInt8} :
    readSized width bytes = some (content, rest) ↔ content.length < 256 ^ width ∧
      bytes = BigEndian.encode width content.length ++ (content ++ rest) := by
  constructor
  · intro read
    rw [readSized] at read
    split_ifs at read with inside
    obtain ⟨rfl, rfl⟩ := Prod.mk.inj (Option.some.inj read)
    exact BigEndian.eq_encode_length_append inside.1 inside.2
  · rintro ⟨fits, rfl⟩
    obtain ⟨size, taken, dropped⟩ := BigEndian.read_encode_length_append fits rest
    have long : width ≤ (BigEndian.encode width content.length ++ (content ++ rest)).length := by
      rw [List.length_append, BigEndian.length_encode]
      omega
    have inside : content.length ≤ ((BigEndian.encode width content.length ++
        (content ++ rest)).drop width).length := by
      rw [List.drop_left' (BigEndian.length_encode _ _), List.length_append]
      omega
    rw [readSized, size, if_pos ⟨long, inside⟩, taken, dropped]

/-- A byte string after its length. -/
def sized (width : Nat) : WireFormat (List UInt8) where
  Valid content := content.length < 256 ^ width
  encode content := BigEndian.encode width content.length ++ content
  decode := readSized width
  decode_encode rest fits := by
    rw [List.append_assoc]
    exact readSized_eq_some_iff.mpr ⟨fits, rfl⟩
  eq_encode read := by
    rw [List.append_assoc]
    exact readSized_eq_some_iff.mp read

/-- The format on inputs that hold one value. -/
def whole (format : WireFormat α) : WholeFormat α where
  Valid := format.Valid
  encode := format.encode
  decode := format.decodeAll
  decode_eq_some_iff := format.decodeAll_eq_some_iff

/-- A value that takes up all of a byte string after its length. -/
def framed (width : Nat) (inner : WholeFormat α) : WireFormat α where
  Valid value := inner.Valid value ∧ (inner.encode value).length < 256 ^ width
  encode value := (sized width).encode (inner.encode value)
  decode bytes := do
    let (content, rest) ← (sized width).decode bytes
    let value ← inner.decode content
    pure (value, rest)
  decode_encode {value} rest valid := by
    have read := (sized width).decode_encode rest valid.2
    have whole : inner.decode (inner.encode value) = some value :=
      inner.decode_eq_some_iff.mpr ⟨valid.1, rfl⟩
    simp only [read, whole, Option.bind_eq_bind, Option.bind_some, Option.pure_def]
  eq_encode read := by
    simp only [Option.bind_eq_bind, Option.bind_eq_some_iff, Option.pure_def,
      Option.some.injEq] at read
    obtain ⟨⟨content, rest⟩, framed, value, whole, pair⟩ := read
    obtain ⟨rfl, rfl⟩ := Prod.mk.inj pair
    obtain ⟨valid, rfl⟩ := inner.decode_eq_some_iff.mp whole
    obtain ⟨fits, encoded⟩ := (sized width).eq_encode framed
    exact ⟨⟨valid, fits⟩, encoded⟩

/-! ## Sequences -/

/-- One field after another. -/
def pair (first : WireFormat α) (second : WireFormat β) : WireFormat (α × β) where
  Valid value := first.Valid value.1 ∧ second.Valid value.2
  encode value := first.encode value.1 ++ second.encode value.2
  decode bytes := do
    let (former, rest) ← first.decode bytes
    let (latter, rest) ← second.decode rest
    pure ((former, latter), rest)
  decode_encode {value} rest valid := by
    have former := first.decode_encode (second.encode value.2 ++ rest) valid.1
    have latter := second.decode_encode rest valid.2
    simp only [List.append_assoc, former, latter, Option.bind_eq_bind, Option.bind_some,
      Option.pure_def]
  eq_encode read := by
    simp only [Option.bind_eq_bind, Option.bind_eq_some_iff, Option.pure_def,
      Option.some.injEq] at read
    obtain ⟨⟨former, middle⟩, read, ⟨latter, rest⟩, follows, pair⟩ := read
    obtain ⟨rfl, rfl⟩ := Prod.mk.inj pair
    obtain ⟨formerValid, rfl⟩ := first.eq_encode read
    obtain ⟨latterValid, rfl⟩ := second.eq_encode follows
    exact ⟨⟨formerValid, latterValid⟩, (List.append_assoc _ _ _).symm⟩

/-! ## Lists -/

/-- Read values until the input is used up. -/
def decodeMany (item : WireFormat α) : (fuel : Nat) → List UInt8 → Option (List α)
  | _, [] => some []
  | 0, _ :: _ => none
  | fuel + 1, first :: others => do
      let (value, rest) ← item.decode (first :: others)
      let values ← decodeMany item fuel rest
      pure (value :: values)

/-- The encodings of values one after the other. -/
def encodeMany (item : WireFormat α) (values : List α) : List UInt8 := values.flatMap item.encode

theorem eq_encodeMany (item : WireFormat α) {fuel : Nat} {bytes : List UInt8} {values : List α}
    (decoded : item.decodeMany fuel bytes = some values) :
    (∀ value ∈ values, item.Valid value) ∧ bytes = item.encodeMany values := by
  induction fuel generalizing bytes values with
  | zero =>
      cases bytes with
      | nil =>
          obtain rfl := Option.some.inj decoded
          exact ⟨by simp, rfl⟩
      | cons => contradiction
  | succ fuel ih =>
      cases bytes with
      | nil =>
          obtain rfl := Option.some.inj decoded
          exact ⟨by simp, rfl⟩
      | cons first others =>
          simp only [decodeMany, Option.bind_eq_bind, Option.bind_eq_some_iff, Option.pure_def,
            Option.some.injEq] at decoded
          obtain ⟨⟨value, rest⟩, read, values, follow, rfl⟩ := decoded
          obtain ⟨valid, encoded⟩ := item.eq_encode read
          obtain ⟨others_valid, rfl⟩ := ih follow
          exact ⟨List.forall_mem_cons.mpr ⟨valid, others_valid⟩, encoded⟩

theorem decodeMany_encodeMany (item : WireFormat α) (nonempty : ∀ value, item.encode value ≠ [])
    {values : List α} (valid : ∀ value ∈ values, item.Valid value) {fuel : Nat}
    (enough : (item.encodeMany values).length ≤ fuel) :
    item.decodeMany fuel (item.encodeMany values) = some values := by
  induction values generalizing fuel with
  | nil => cases fuel <;> rfl
  | cons value values ih =>
      obtain ⟨first, others, start⟩ := List.exists_cons_of_ne_nil (nonempty value)
      obtain ⟨here, later⟩ := List.forall_mem_cons.mp valid
      have read := item.decode_encode (item.encodeMany values) here
      have split : item.encodeMany (value :: values) =
          first :: (others ++ item.encodeMany values) := by
        rw [encodeMany, List.flatMap_cons, start, List.cons_append, encodeMany]
      rw [split, List.length_cons, List.length_append] at enough
      obtain ⟨fuel, rfl⟩ := Nat.exists_eq_add_of_lt (Nat.lt_of_lt_of_le (Nat.succ_pos _) enough)
      have follow : item.decodeMany (0 + fuel) (item.encodeMany values) = some values :=
        ih later (by omega)
      rw [start, List.cons_append] at read
      simp only [split, decodeMany, read, follow, Option.bind_eq_bind, Option.bind_some,
        Option.pure_def]

/-- Values one after the other up to the end of the input. -/
def many (item : WireFormat α) (nonempty : ∀ value, item.encode value ≠ []) :
    WholeFormat (List α) where
  Valid values := ∀ value ∈ values, item.Valid value
  encode := item.encodeMany
  decode bytes := item.decodeMany bytes.length bytes
  decode_eq_some_iff := by
    intro bytes values
    constructor
    · exact item.eq_encodeMany
    · rintro ⟨valid, rfl⟩
      exact item.decodeMany_encodeMany nonempty valid (Nat.le_refl _)

/-- Values that take up all of a byte string after its length. -/
def list (width : Nat) (item : WireFormat α) (nonempty : ∀ value, item.encode value ≠ []) :
    WireFormat (List α) :=
  framed width (item.many nonempty)

/-! ## Values of another type -/

/-- A format for values that are those of another format in a different shape. -/
def ofEquiv (format : WireFormat α) (equiv : α ≃ β) : WireFormat β where
  Valid value := format.Valid (equiv.symm value)
  encode value := format.encode (equiv.symm value)
  decode bytes := (format.decode bytes).map (Prod.map equiv id)
  decode_encode rest valid := by
    rw [format.decode_encode rest valid, Option.map_some, Prod.map_apply, equiv.apply_symm_apply,
      id]
  eq_encode read := by
    obtain ⟨⟨value, rest⟩, decoded, pair⟩ := Option.map_eq_some_iff.mp read
    obtain ⟨rfl, rfl⟩ := Prod.mk.inj pair
    rw [equiv.symm_apply_apply]
    exact format.eq_encode decoded

/-- A format for some of the values of a type, built from those of another format. -/
def via (format : WireFormat α) (build : α → β) (view : β → Option α)
    (view_eq_some_iff : ∀ {value built}, view built = some value ↔ build value = built) :
    WireFormat β where
  Valid built := ∃ value, view built = some value ∧ format.Valid value
  encode built := ((view built).map format.encode).getD []
  decode bytes := (format.decode bytes).map (Prod.map build id)
  decode_encode := by
    rintro built rest ⟨value, viewed, valid⟩
    rw [viewed, Option.map_some, Option.getD_some, format.decode_encode rest valid,
      Option.map_some, Prod.map_apply, view_eq_some_iff.mp viewed, id]
  eq_encode read := by
    obtain ⟨⟨value, rest⟩, decoded, pair⟩ := Option.map_eq_some_iff.mp read
    obtain ⟨rfl, rfl⟩ := Prod.mk.inj pair
    obtain ⟨valid, encoded⟩ := format.eq_encode decoded
    have viewed : view (build value) = some value := view_eq_some_iff.mpr rfl
    refine ⟨⟨value, viewed, valid⟩, ?_⟩
    rw [viewed, Option.map_some, Option.getD_some, encoded, id]

section Via

variable {format : WireFormat α} {build : α → β} {view : β → Option α}
  {view_eq_some_iff : ∀ {value built}, view built = some value ↔ build value = built}
  {value : α} {built : β} (viewed : view built = some value)

include viewed

theorem valid_via : (format.via build view view_eq_some_iff).Valid built ↔ format.Valid value := by
  constructor
  · rintro ⟨other, other_viewed, valid⟩
    rw [viewed] at other_viewed
    obtain rfl := Option.some.inj other_viewed
    exact valid
  · exact fun valid => ⟨value, viewed, valid⟩

end Via

/-- Values after a tag that says in which format they are. -/
def tagged {τ : Type} (tag : WireFormat τ) (tagOf : α → τ) (body : τ → WireFormat α)
    (tagOf_eq : ∀ {label value}, (body label).Valid value → tagOf value = label) :
    WireFormat α where
  Valid value := tag.Valid (tagOf value) ∧ (body (tagOf value)).Valid value
  encode value := tag.encode (tagOf value) ++ (body (tagOf value)).encode value
  decode bytes := do
    let (label, rest) ← tag.decode bytes
    (body label).decode rest
  decode_encode {value} rest valid := by
    have label := tag.decode_encode ((body (tagOf value)).encode value ++ rest) valid.1
    have content := (body (tagOf value)).decode_encode rest valid.2
    simp only [List.append_assoc, label, content, Option.bind_eq_bind, Option.bind_some]
  eq_encode {bytes value rest} read := by
    simp only [Option.bind_eq_bind, Option.bind_eq_some_iff] at read
    obtain ⟨⟨label, middle⟩, labeled, decoded⟩ := read
    obtain ⟨label_valid, rfl⟩ := tag.eq_encode labeled
    obtain ⟨valid, rfl⟩ := (body label).eq_encode decoded
    obtain rfl := tagOf_eq valid
    exact ⟨⟨label_valid, valid⟩, (List.append_assoc _ _ _).symm⟩

end WireFormat
