import OxiTls.Library.DerElement
import OxiTls.Library.Fallible
import OxiTls.Pki

/-!
# Signatures of a PKCS#11 token

`signer.rs`: tokens answer ECDSA signatures as the two integers side by side, and rustls expects
them as DER.  The post-processing takes a signature that starts with the tag of a sequence for DER
already, and one raw signature in 256 starts with that byte.
-/

namespace OxiTls

open BigEndian (decode)

/-- The `rustls::SignatureScheme`s of the adapter; any other one is known by its debug text. -/
inductive SignatureScheme
  | rsaPkcs1Sha256
  | rsaPkcs1Sha384
  | rsaPkcs1Sha512
  | rsaPssSha256
  | rsaPssSha384
  | rsaPssSha512
  | ecdsaNistp256Sha256
  | ecdsaNistp384Sha384
  | other (debug : String)
  deriving DecidableEq, Repr

/-- The hash functions of the mechanisms. -/
inductive HashAlgorithm
  | sha256
  | sha384
  | sha512
  deriving DecidableEq, Repr

/-- The `cryptoki::mechanism::Mechanism`s of the adapter. -/
inductive Mechanism
  | ecdsaSha256
  | ecdsaSha384
  | sha256RsaPkcs
  | sha384RsaPkcs
  | sha512RsaPkcs
  | rsaPkcsPss (hashAlg mgf : HashAlgorithm) (sLen : Nat)
  deriving DecidableEq, Repr

/-- The `PkcsSignError` variants that signing raises. -/
inductive PkcsSignError
  | sessionError (message : String)
  | keyNotFound (label : String)
  | signError (message : String)
  | invalidSignatureLength (expected got : Nat)
  deriving DecidableEq, Repr

/-- `SignatureAlgorithm`, as far as `preferred_schemes` tells them apart. -/
inductive SignatureAlgorithm
  | ecdsa
  | rsa
  | other
  deriving DecidableEq, Repr

/-- `preferred_schemes`. -/
def preferredSchemes : SignatureAlgorithm → List SignatureScheme
  | .ecdsa => [.ecdsaNistp384Sha384, .ecdsaNistp256Sha256]
  | .rsa =>
      [.rsaPssSha512, .rsaPssSha384, .rsaPssSha256, .rsaPkcs1Sha512, .rsaPkcs1Sha384,
        .rsaPkcs1Sha256]
  | .other => []

/-- `scheme_to_mechanism`.  The salt of a PSS signature is as long as the digest. -/
def schemeToMechanism : SignatureScheme → Except PkcsSignError Mechanism
  | .ecdsaNistp256Sha256 => .ok .ecdsaSha256
  | .ecdsaNistp384Sha384 => .ok .ecdsaSha384
  | .rsaPkcs1Sha256 => .ok .sha256RsaPkcs
  | .rsaPkcs1Sha384 => .ok .sha384RsaPkcs
  | .rsaPkcs1Sha512 => .ok .sha512RsaPkcs
  | .rsaPssSha256 => .ok (.rsaPkcsPss .sha256 .sha256 32)
  | .rsaPssSha384 => .ok (.rsaPkcsPss .sha384 .sha384 48)
  | .rsaPssSha512 => .ok (.rsaPkcsPss .sha512 .sha512 64)
  | .other debug => .error (.signError ("unsupported signature scheme: " ++ debug))

/-- The number of bytes of each of the two integers of an ECDSA signature. -/
def SignatureScheme.scalarLength : SignatureScheme → Option Nat
  | .ecdsaNistp256Sha256 => some 32
  | .ecdsaNistp384Sha384 => some 48
  | _ => none

/-- `SigningBackend`, with its key handle. -/
structure SigningBackend where
  signRaw : Mechanism → Bytes → Except PkcsSignError Bytes

/-- `stripped` of `encode_int`: the bytes from the first one that is not zero. -/
def stripped (bytes : Bytes) : Bytes :=
  match bytes.findIdx? (· != 0) with
  | some index => bytes.drop index
  | none => [0]

/-- `encode_int` of `raw_ecdsa_to_der`. -/
def encodeInt (bytes : Bytes) : Bytes :=
  let needsPad := decide (0x80 ≤ (stripped bytes).head?.getD 0)
  let contentLen := (stripped bytes).length + needsPad.toNat
  [0x02, UInt8.ofNat contentLen] ++ (if needsPad then [0x00] else []) ++ stripped bytes

/-- `raw_ecdsa_to_der`. -/
def rawEcdsaToDer (raw : Bytes) : Except PkcsSignError Bytes :=
  if raw.length % 2 ≠ 0 then .error (.invalidSignatureLength (raw.length / 2 * 2) raw.length)
  else
    let half := raw.length / 2
    let rEnc := encodeInt (raw.take half)
    let sEnc := encodeInt (raw.drop half)
    let seqLen := rEnc.length + sEnc.length
    .ok ([0x30, UInt8.ofNat seqLen] ++ rEnc ++ sEnc)

/-- `finalize_signature`. -/
def finalizeSignature (scheme : SignatureScheme) (rawSig : Bytes) : Except PkcsSignError Bytes :=
  match scheme with
  | .ecdsaNistp256Sha256 | .ecdsaNistp384Sha384 =>
      if rawSig.head? = some 0x30 then .ok rawSig else rawEcdsaToDer rawSig
  | _ => .ok rawSig

/-- `sign_internal`. -/
def signInternal (backend : SigningBackend) (mechanism : Mechanism) (message : Bytes)
    (scheme : SignatureScheme) : Except PkcsSignError Bytes := do
  let rawSig ← backend.signRaw mechanism message
  finalizeSignature scheme rawSig

/-- `sign_with_pkcs11` and `sign_via_pool`, once the session has found the key. -/
def signWithBackend (backend : SigningBackend) (scheme : SignatureScheme) (message : Bytes) :
    Except PkcsSignError Bytes := do
  let mechanism ← schemeToMechanism scheme
  signInternal backend mechanism message scheme

/-- No scheme that `choose_scheme` can pick is refused when it comes to signing. -/
theorem schemeToMechanism_of_preferred {algorithm : SignatureAlgorithm} {scheme : SignatureScheme}
    (preferred : scheme ∈ preferredSchemes algorithm) :
    ∃ mechanism, schemeToMechanism scheme = .ok mechanism := by
  cases scheme with
  | other debug => cases algorithm <;> simp [preferredSchemes] at preferred
  | _ => exact ⟨_, rfl⟩

/-! ## One integer -/

@[simp]
theorem stripped_nil : stripped [] = [0] := rfl

@[simp]
theorem stripped_zero_cons (bytes : Bytes) : stripped (0 :: bytes) = stripped bytes := by
  simp only [stripped, List.findIdx?_cons]
  cases bytes.findIdx? (· != 0) <;> simp

theorem stripped_cons {byte : UInt8} (nonzero : byte ≠ 0) (bytes : Bytes) :
    stripped (byte :: bytes) = byte :: bytes := by
  simp [stripped, List.findIdx?_cons, nonzero]

/-- The content that `encode_int` writes. -/
def intContent (bytes : Bytes) : Bytes :=
  if 0x80 ≤ (stripped bytes).head?.getD 0 then 0x00 :: stripped bytes else stripped bytes

theorem encodeInt_eq (bytes : Bytes) : encodeInt bytes = Der.tlv 0x02 (intContent bytes) := by
  by_cases high : 0x80 ≤ (stripped bytes).head?.getD 0
  · simp [encodeInt, intContent, Der.tlv, high]
  · simp [encodeInt, intContent, Der.tlv, high]

/-- Stripping and padding give the shortest form of the number. -/
theorem intContent_eq (bytes : Bytes) : intContent bytes = Der.integerContent (decode bytes) := by
  have form : Der.Shortest (intContent bytes) ∧ decode (intContent bytes) = decode bytes := by
    induction bytes with
    | nil => decide
    | cons byte bytes induction =>
        by_cases zero : byte = 0
        · subst zero
          simpa [intContent] using induction
        · rw [intContent, stripped_cons zero]
          split_ifs with high
          · exact ⟨⟨by decide, fun _ => by simpa using high⟩, BigEndian.decode_zero_cons _⟩
          · refine ⟨?_, rfl⟩
            have low : byte < 0x80 := by simpa using high
            cases bytes with
            | nil => exact low
            | cons second rest => exact ⟨low, fun same => absurd same zero⟩
  rw [← form.2, Der.integerContent_decode form.1]

/-- `encode_int` is the strict encoding of the number. -/
theorem encodeInt_eq_integer (bytes : Bytes) : encodeInt bytes = Der.integer (decode bytes) := by
  rw [encodeInt_eq, intContent_eq, Der.integer]

theorem length_intContent_le {bytes : Bytes} (nonempty : bytes ≠ []) :
    (intContent bytes).length ≤ bytes.length + 1 := by
  have bound : (stripped bytes).length ≤ bytes.length := by
    have positive := List.length_pos_iff.mpr nonempty
    unfold stripped
    split <;> simp
    omega
  unfold intContent
  split_ifs <;> simp <;> omega

/-! ## Two integers -/

/-- A raw signature without the tag becomes the encoding of its two halves. -/
theorem rawEcdsaToDer_eq {r s : Bytes} (same : r.length = s.length) :
    rawEcdsaToDer (r ++ s) = .ok (Der.integerPair (decode r) (decode s)) := by
  have half : (r ++ s).length / 2 = r.length := by
    rw [List.length_append]
    omega
  have even : ¬ (r ++ s).length % 2 ≠ 0 := by
    rw [List.length_append]
    omega
  unfold rawEcdsaToDer
  rw [if_neg even]
  simp only [half, List.take_left, List.drop_left, encodeInt_eq_integer, Der.integerPair, Der.tlv]
  simp

/-- A raw signature that starts with the tag of a sequence is no encoding of its halves: the
encoding repeats the first half four bytes later, so that the second half would start with the tag
too, and both integers would need their full length. -/
theorem append_ne_integerPair {r s : Bytes} (same : r.length = s.length) (aligned : 4 ∣ r.length)
    (tagged : r.head? = some 0x30) :
    r ++ s ≠ Der.integerPair (decode r) (decode s) := by
  intro encoded
  have full {half : Bytes} (starts : half.head? = some 0x30) :
      Der.integerContent (decode half) = half := by
    rw [← intContent_eq, intContent]
    cases half with
    | nil => contradiction
    | cons byte bytes =>
        obtain rfl := Option.some.inj starts
        rw [stripped_cons (by decide)]
        simp
  simp only [Der.integerPair, Der.tlv, Der.integer, full tagged] at encoded
  obtain ⟨quarter, length⟩ := aligned
  have repeats (position : Nat) (inside : position ≤ quarter) :
      (r ++ s)[4 * position]? = some 0x30 := by
    induction position with
    | zero =>
        rw [Nat.mul_zero, ← List.head?_eq_getElem?, List.head?_append, tagged]
        rfl
    | succ position induction =>
        have before := induction (by omega)
        have within : 4 * position < r.length := by omega
        rw [List.getElem?_append_left within] at before
        rw [encoded]
        simp only [Nat.mul_succ, List.getElem?_cons_succ, List.cons_append]
        rw [List.getElem?_append_left within]
        exact before
  have second : s.head? = some 0x30 := by
    have at_half := repeats quarter (Nat.le_refl _)
    rwa [← length, List.getElem?_append_right (Nat.le_refl _), Nat.sub_self,
      ← List.head?_eq_getElem?] at at_half
  have lengths := congrArg List.length encoded
  simp only [full second, List.length_append, List.length_cons] at lengths
  omega

/-- The signature is delivered as the strict encoding of its two integers. -/
def DeliversDer (delivered : Except PkcsSignError Bytes) (r s : Nat) : Prop :=
  ∃ der, delivered = .ok der ∧ der = Der.integerPair r s ∧ Der.readIntegerPair der = some (r, s)

section Delivery

variable {backend : SigningBackend} {mechanism : Mechanism} {message : Bytes}
  {scheme : SignatureScheme} {half : Nat} {r s : Bytes}
  (curve : scheme.scalarLength = some half) (length_r : r.length = half)
  (length_s : s.length = half) (answered : backend.signRaw mechanism message = .ok (r ++ s))
include curve length_r length_s answered

/-- What comes out for a raw answer of the token. -/
theorem signInternal_eq :
    signInternal backend mechanism message scheme =
      if r.head? = some 0x30 then .ok (r ++ s)
      else .ok (Der.integerPair (decode r) (decode s)) := by
  have converted := rawEcdsaToDer_eq (length_r.trans length_s.symm)
  have first : (r ++ s).head? = r.head? := by
    cases r with
    | nil => cases scheme <;> simp [SignatureScheme.scalarLength] at curve length_r <;> omega
    | cons byte bytes => rfl
  simp only [signInternal, answered, Bind.bind, Except.bind]
  cases scheme with
  | ecdsaNistp256Sha256 => simp only [finalizeSignature, first, converted]
  | ecdsaNistp384Sha384 => simp only [finalizeSignature, first, converted]
  | _ => simp [SignatureScheme.scalarLength] at curve

theorem not_deliversDer (tagged : r.head? = some 0x30) :
    ¬ DeliversDer (signInternal backend mechanism message scheme) (decode r) (decode s) := by
  rintro ⟨der, delivered, encoded, _⟩
  rw [signInternal_eq curve length_r length_s answered, if_pos tagged] at delivered
  obtain rfl := Except.ok.inj delivered
  have aligned : 4 ∣ r.length := by
    rw [length_r]
    cases scheme <;> simp [SignatureScheme.scalarLength] at curve <;> omega
  exact append_ne_integerPair (length_r.trans length_s.symm) aligned tagged encoded

/-- The signature is delivered as strict DER exactly when the raw answer of the token does not
happen to start with the tag of a sequence. -/
theorem deliversDer_iff :
    DeliversDer (signInternal backend mechanism message scheme) (decode r) (decode s) ↔
      r.head? ≠ some 0x30 := by
  constructor
  · intro delivered tagged
    exact not_deliversDer curve length_r length_s answered tagged delivered
  · intro untagged
    refine ⟨_, ?_, rfl, ?_⟩
    · rw [signInternal_eq curve length_r length_s answered, if_neg untagged]
    · have bound : half ≤ 48 := by
        cases scheme <;> simp [SignatureScheme.scalarLength] at curve <;> omega
      have positive : 0 < half := by
        cases scheme <;> simp [SignatureScheme.scalarLength] at curve <;> omega
      have former := length_intContent_le (List.ne_nil_of_length_pos (length_r ▸ positive))
      have latter := length_intContent_le (List.ne_nil_of_length_pos (length_s ▸ positive))
      rw [intContent_eq] at former latter
      refine Der.readIntegerPair_eq_some_iff.mpr ⟨rfl, ?_⟩
      simp only [Der.integer, Der.tlv, List.length_append, List.length_cons]
      omega

end Delivery

/-- A token that gives the same answer to every request. -/
def constantBackend (answer : Bytes) : SigningBackend := ⟨fun _ _ => .ok answer⟩

/-- The answer of a token whose first byte is not the tag. -/
theorem deliversDer_iff_untagged :
    DeliversDer (signInternal (constantBackend (List.replicate 32 0x81 ++ List.replicate 32 0x00))
      .ecdsaSha256 [1, 2, 3] .ecdsaNistp256Sha256) (decode (List.replicate 32 0x81))
        (decode (List.replicate 32 0x00)) :=
  (deliversDer_iff rfl (by decide) (by decide) rfl).mpr (by decide)

/-- An answer whose first integer starts with the tag is passed on as it is. -/
theorem tagged_not_deliversDer :
    ¬ DeliversDer (signInternal
      (constantBackend (0x30 :: List.replicate 31 0x01 ++ List.replicate 32 0x01))
      .ecdsaSha256 [1, 2, 3] .ecdsaNistp256Sha256) (decode (0x30 :: List.replicate 31 0x01))
        (decode (List.replicate 32 0x01)) :=
  not_deliversDer rfl (by decide) (by decide) rfl rfl

/-! ## Signatures of any length

The two lengths are cast to a byte.  For the curves of the adapter they fit, but the conversion
itself takes any even number of bytes, such as the 132 bytes of a P-521 signature.
-/

/-- `raw_ecdsa_to_der` refuses an odd number of bytes; any other input it refuses or turns into the
strict encoding of its two halves. -/
def ConvertsStrictly (raw : Bytes) : Prop :=
  (raw.length % 2 = 1 → ∃ error, rawEcdsaToDer raw = .error error) ∧
    (raw.length % 2 = 0 → ∀ der, rawEcdsaToDer raw = .ok der →
      der = Der.integerPairElement (decode (raw.take (raw.length / 2)))
        (decode (raw.drop (raw.length / 2))))

/-- The contents of the two integers leave room for one-byte lengths. -/
def ShortContents (raw : Bytes) : Prop :=
  (Der.integerContent (decode (raw.take (raw.length / 2)))).length +
    (Der.integerContent (decode (raw.drop (raw.length / 2)))).length ≤ 123

theorem rawEcdsaToDer_of_even {raw : Bytes} (even : raw.length % 2 = 0) :
    rawEcdsaToDer raw = .ok (Der.integerPair (decode (raw.take (raw.length / 2)))
      (decode (raw.drop (raw.length / 2)))) := by
  have same : (raw.take (raw.length / 2)).length = (raw.drop (raw.length / 2)).length := by
    rw [List.length_take, List.length_drop]
    omega
  have converted := rawEcdsaToDer_eq same
  rwa [List.take_append_drop] at converted

theorem shortContents_of_convertsStrictly {raw : Bytes} (even : raw.length % 2 = 0)
    (strictly : ConvertsStrictly raw) : ShortContents raw :=
  Der.integerPair_eq_element_iff.mp (strictly.2 even _ (rawEcdsaToDer_of_even even))

/-- The conversion is strict exactly for an odd number of bytes, which it refuses, and for contents
of at most 123 bytes. -/
theorem convertsStrictly_iff (raw : Bytes) :
    ConvertsStrictly raw ↔ raw.length % 2 = 1 ∨ ShortContents raw := by
  constructor
  · intro strictly
    rcases Nat.mod_two_eq_zero_or_one raw.length with even | odd
    · exact .inr (shortContents_of_convertsStrictly even strictly)
    · exact .inl odd
  · intro either
    refine ⟨fun odd => ⟨_, if_pos (by omega)⟩, fun even der converted => ?_⟩
    rcases either with odd | short
    · omega
    · rw [rawEcdsaToDer_of_even even] at converted
      obtain rfl := Except.ok.inj converted
      exact Der.integerPair_eq_element_iff.mpr short

/-- The 132 bytes of a P-521 signature become a sequence whose length byte announces a long form. -/
theorem p521_not_convertsStrictly :
    (rawEcdsaToDer (List.replicate 132 0x01)).toOption.map (List.take 4) =
        some [0x30, 0x88, 0x02, 0x42] ∧
      ¬ ConvertsStrictly (List.replicate 132 0x01) := by
  refine ⟨by decide +kernel, fun strictly => ?_⟩
  have short := shortContents_of_convertsStrictly (by decide +kernel) strictly
  rw [ShortContents, ← intContent_eq, ← intContent_eq] at short
  revert short
  decide +kernel

end OxiTls
