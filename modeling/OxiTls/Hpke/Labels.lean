import OxiTls.Hpke.Kem
import OxiTls.Library.PrefixCode

/-!
# Labeled inputs

The calls of HKDF that the `hpke` module makes.  Suite id, label and the rest of the input are
concatenated without separators or lengths.  The suite ids are a prefix code, and so are the labels
that follow each of them, which is why the concatenation can be taken apart again.
-/

namespace OxiTls

open PrefixCode

/-- The KEMs of the four suites. -/
inductive HpkeKem
  | x25519
  | p256
  deriving DecidableEq, Repr

namespace HpkeKem

/-- The constants of a KEM. -/
def constants : HpkeKem → KemConstants
  | .x25519 => KemX25519.constants
  | .p256 => KemP256.constants

/-- The implementation of a KEM. -/
def impl (crates : KemCrates) : HpkeKem → KemImpl
  | .x25519 => KemX25519.impl crates
  | .p256 => KemP256.impl crates

end HpkeKem

/-- The four suites of `pure_hpke_suites`. -/
def hpkeSuite (crates : KemCrates) (ciphers : RustCrypto) (kem : HpkeKem) (aead : HpkeAead) :
    HpkeSuiteImpl :=
  ⟨crates.hkdf, (kem.impl crates).kem crates.hkdf, aead.suite ciphers⟩

/-! ## The calls -/

/-- Where a derivation takes place: in a KEM or in a suite. -/
inductive KdfDomain
  | kem (kem : HpkeKem)
  | suite (kem : HpkeKem) (aead : HpkeAead)
  deriving DecidableEq, Repr

/-- The labels of `labeled_extract` in a domain. -/
inductive ExtractLabel : KdfDomain → Type
  | eaePrk {kem : HpkeKem} : ExtractLabel (.kem kem)
  | pskIdHash {kem : HpkeKem} {aead : HpkeAead} : ExtractLabel (.suite kem aead)
  | infoHash {kem : HpkeKem} {aead : HpkeAead} : ExtractLabel (.suite kem aead)
  | secret {kem : HpkeKem} {aead : HpkeAead} : ExtractLabel (.suite kem aead)

/-- The labels of `labeled_expand_checked` in a domain. -/
inductive ExpandLabel : KdfDomain → Type
  | sharedSecret {kem : HpkeKem} : ExpandLabel (.kem kem)
  | key {kem : HpkeKem} {aead : HpkeAead} : ExpandLabel (.suite kem aead)
  | baseNonce {kem : HpkeKem} {aead : HpkeAead} : ExpandLabel (.suite kem aead)
  | exp {kem : HpkeKem} {aead : HpkeAead} : ExpandLabel (.suite kem aead)
  | sec {kem : HpkeKem} {aead : HpkeAead} : ExpandLabel (.suite kem aead)

/-- The text of a label. -/
def ExtractLabel.text {domain : KdfDomain} : ExtractLabel domain → Bytes
  | .eaePrk => ascii "eae_prk"
  | .pskIdHash => ascii "psk_id_hash"
  | .infoHash => ascii "info_hash"
  | .secret => ascii "secret"

/-- The text of a label. -/
def ExpandLabel.text {domain : KdfDomain} : ExpandLabel domain → Bytes
  | .sharedSecret => ascii "shared_secret"
  | .key => ascii "key"
  | .baseNonce => ascii "base_nonce"
  | .exp => ascii "exp"
  | .sec => ascii "sec"

/-- The suite id of a domain, `kem_suite_id` or `hpke_suite_id`. -/
def KdfDomain.suiteId (crates : KemCrates) (ciphers : RustCrypto) : KdfDomain → Bytes
  | .kem id => id.constants.suiteId
  | .suite kemId aead => (hpkeSuite crates ciphers kemId aead).suiteId

/-- A call of `labeled_extract`, apart from the salt. -/
structure ExtractCall where
  domain : KdfDomain
  label : ExtractLabel domain
  ikm : Bytes

/-- A call of `labeled_expand_checked`, apart from the key. -/
structure ExpandCall where
  domain : KdfDomain
  label : ExpandLabel domain
  info : Bytes
  length : Nat

section Calls

variable (crates : KemCrates) (ciphers : RustCrypto)

/-- What HKDF-Extract is fed with. -/
def ExtractCall.input (call : ExtractCall) : Bytes :=
  hpkeV1 ++ call.domain.suiteId crates ciphers ++ call.label.text ++ call.ikm

/-- What HKDF-Expand is fed with. -/
def ExpandCall.input (call : ExpandCall) : Bytes :=
  BigEndian.encode 2 call.length ++ hpkeV1 ++ call.domain.suiteId crates ciphers ++
    call.label.text ++ call.info

/-! ## Suite ids and labels are prefix codes -/

/-- The number of an AEAD. -/
def HpkeAead.id : HpkeAead → UInt16
  | .aes128Gcm => 0x0001
  | .chacha20 => 0x0003

/-- The suite id of a domain, from its numbers. -/
def KdfDomain.idBytes : KdfDomain → Bytes
  | .kem id => ascii "KEM" ++ BigEndian.encode 2 id.constants.kemId.toNat
  | .suite id aead => ascii "HPKE" ++ BigEndian.encode 2 id.constants.kemId.toNat ++
      BigEndian.encode 2 0x0001 ++ BigEndian.encode 2 aead.id.toNat

variable {crates ciphers}

theorem suiteId_eq_idBytes (domain : KdfDomain) :
    domain.suiteId crates ciphers = domain.idBytes := by
  rcases domain with ⟨_ | _⟩ | ⟨_ | _, _ | _⟩ <;> rfl

/-- A KEM and a suite differ in their first letter, two suites or two KEMs in their numbers. -/
theorem suiteId_isPrefixCode : IsPrefixCode (KdfDomain.suiteId crates ciphers) := by
  intro left right leads
  rw [suiteId_eq_idBytes, suiteId_eq_idBytes] at leads
  rcases left with ⟨_ | _⟩ | ⟨_ | _, _ | _⟩ <;> rcases right with ⟨_ | _⟩ | ⟨_ | _, _ | _⟩ <;>
    first | rfl | exact absurd leads (by decide)

theorem extractLabel_isPrefixCode (domain : KdfDomain) :
    IsPrefixCode fun label : ExtractLabel domain => label.text := by
  intro left right leads
  cases left <;> cases right <;> simp only [ExtractLabel.text] at leads <;>
    first | rfl | exact absurd leads (by decide)

theorem expandLabel_isPrefixCode (domain : KdfDomain) :
    IsPrefixCode fun label : ExpandLabel domain => label.text := by
  intro left right leads
  cases left <;> cases right <;> simp only [ExpandLabel.text] at leads <;>
    first | rfl | exact absurd leads (by decide)

/-- Suite id and label, as one word. -/
theorem extract_isPrefixCode : IsPrefixCode fun word : (domain : KdfDomain) × ExtractLabel domain =>
    word.1.suiteId crates ciphers ++ word.2.text :=
  suiteId_isPrefixCode.sigma extractLabel_isPrefixCode

/-- Suite id and label, as one word. -/
theorem expand_isPrefixCode : IsPrefixCode fun word : (domain : KdfDomain) × ExpandLabel domain =>
    word.1.suiteId crates ciphers ++ word.2.text :=
  suiteId_isPrefixCode.sigma expandLabel_isPrefixCode

/-! ## The calls can be read off their inputs -/

theorem ExtractCall.eq_of_input_eq {left right : ExtractCall}
    (same : left.input crates ciphers = right.input crates ciphers) : left = right := by
  obtain ⟨leftDomain, leftLabel, leftIkm⟩ := left
  obtain ⟨rightDomain, rightLabel, rightIkm⟩ := right
  rw [input, input, List.append_assoc hpkeV1, List.append_assoc hpkeV1, List.append_assoc hpkeV1,
    List.append_assoc hpkeV1] at same
  obtain ⟨words, rfl⟩ := extract_isPrefixCode.append_inj ⟨leftDomain, leftLabel⟩
    ⟨rightDomain, rightLabel⟩ (List.append_cancel_left same)
  obtain ⟨rfl, labels⟩ := Sigma.mk.inj words
  obtain rfl := eq_of_heq labels
  rfl

/-- The length is in front of everything else and takes two bytes. -/
theorem ExpandCall.eq_of_input_eq {left right : ExpandCall} (leftSmall : left.length ≤ maxL)
    (rightSmall : right.length ≤ maxL)
    (same : left.input crates ciphers = right.input crates ciphers) : left = right := by
  have fits {length : Nat} (small : length ≤ maxL) : length < 256 ^ 2 :=
    Nat.lt_of_le_of_lt small (by decide)
  obtain ⟨leftDomain, leftLabel, leftInfo, leftLength⟩ := left
  obtain ⟨rightDomain, rightLabel, rightInfo, rightLength⟩ := right
  simp only [input, List.append_assoc (BigEndian.encode _ _)] at same
  obtain ⟨lengths, following⟩ := List.append_inj same
    (by rw [BigEndian.length_encode, BigEndian.length_encode])
  have sameLength : leftLength = rightLength :=
    BigEndian.encode_injective (fits leftSmall) (fits rightSmall) lengths
  rw [List.append_assoc hpkeV1, List.append_assoc hpkeV1, List.append_assoc hpkeV1,
    List.append_assoc hpkeV1] at following
  obtain ⟨words, rfl⟩ := expand_isPrefixCode.append_inj ⟨leftDomain, leftLabel⟩
    ⟨rightDomain, rightLabel⟩ (List.append_cancel_left following)
  obtain ⟨rfl, labels⟩ := Sigma.mk.inj words
  obtain rfl := eq_of_heq labels
  rw [sameLength]

end Calls

/-! ## What the calls feed HKDF with -/

section Feeds

variable (crates : KemCrates) (ciphers : RustCrypto) (hkdf : Hkdf)

/-- What a suite derives from a shared secret and an info string: HKDF on the inputs of three
extractions and three expansions. -/
def SuiteDerives (kem : HpkeKem) (aead : HpkeAead) (sharedSecret info : Bytes) (nk : Nat)
    (material : HpkeKeyMaterial) : Prop :=
  let extract (salt : Bytes) (label : ExtractLabel (.suite kem aead)) (ikm : Bytes) :=
    (hkdf.extract salt (ExtractCall.input crates ciphers ⟨.suite kem aead, label, ikm⟩)).toList
  let secret := extract sharedSecret .secret []
  let context := 0 :: (extract [] .pskIdHash [] ++ extract [] .infoHash info)
  let expand (label : ExpandLabel (.suite kem aead)) (length : Nat) :=
    hkdf.expand secret
      (ExpandCall.input crates ciphers ⟨.suite kem aead, label, context, length⟩) length
  (∃ key, material.key = key.toList ∧ expand .key nk = some key) ∧
    expand .baseNonce 12 = some material.baseNonce ∧
    expand .exp 32 = some material.exporterSecret

/-- The labeled functions feed HKDF with the inputs of their calls, and the KEMs, the key schedule
and the exporter hand out what HKDF makes of them. -/
structure FeedsHkdf : Prop where
  labeledExtract : ∀ (salt : Bytes) (call : ExtractCall),
    labeledExtract hkdf (call.domain.suiteId crates ciphers) salt call.label.text call.ikm =
      hkdf.extract salt (call.input crates ciphers)
  labeledExpandChecked : ∀ (prk : Bytes) (call : ExpandCall) (okm : Vector UInt8 call.length),
    labeledExpandChecked hkdf (call.domain.suiteId crates ciphers) prk call.label.text call.info
        call.length = .ok okm ↔
      call.length ≤ 8160 ∧ 32 ≤ prk.length ∧
        hkdf.expand prk (call.input crates ciphers) call.length = some okm
  extractAndExpand : ∀ (kem : HpkeKem) (inputs : KemInputs) (ss : Digest),
    extractAndExpand hkdf kem.constants inputs = .ok ss ↔
      hkdf.expand
        (hkdf.extract [] (ExtractCall.input crates ciphers ⟨.kem kem, .eaePrk, inputs.dh⟩)).toList
        (ExpandCall.input crates ciphers ⟨.kem kem, .sharedSecret, inputs.kemContext, 32⟩) 32 =
          some ss
  keyScheduleBase : ∀ (kem : HpkeKem) (aead : HpkeAead) (sharedSecret info : Bytes) (nk : Nat)
      (material : HpkeKeyMaterial),
    keyScheduleBase hkdf (hpkeSuite crates ciphers kem aead).suiteId sharedSecret info nk =
        .ok material ↔
      nk ≤ 8160 ∧ SuiteDerives crates ciphers hkdf kem aead sharedSecret info nk material
  exportSecret : ∀ (kem : HpkeKem) (aead : HpkeAead) (ctx : HpkeCtx) (exporterContext : Bytes)
      (len : Nat) (exported : Bytes),
    ctx.suiteId = (hpkeSuite crates ciphers kem aead).suiteId →
    (ctx.exportSecret hkdf exporterContext len = .ok exported ↔
      len ≤ 8160 ∧ ∃ okm : Vector UInt8 len, exported = okm.toList ∧
        hkdf.expand ctx.exporterSecret.toList
          (ExpandCall.input crates ciphers ⟨.suite kem aead, .sec, exporterContext, len⟩) len =
            some okm)

variable {crates ciphers hkdf}

/-- An expansion in a suite from a digest, which is a key of full length. -/
theorem labeledExpandChecked_suite {kem : HpkeKem} {aead : HpkeAead} {prk : Digest}
    (label : ExpandLabel (.suite kem aead)) {info : Bytes} {length : Nat}
    {okm : Vector UInt8 length} :
    labeledExpandChecked hkdf (hpkeSuite crates ciphers kem aead).suiteId prk.toList label.text
        info length = .ok okm ↔
      length ≤ 8160 ∧ hkdf.expand prk.toList
        (ExpandCall.input crates ciphers ⟨.suite kem aead, label, info, length⟩) length =
          some okm := by
  have strong : 32 ≤ prk.toList.length := Nat.le_of_eq prk.length_toList.symm
  rw [labeledExpandChecked_eq_ok_iff, and_iff_right strong]
  rfl

theorem keyScheduleBase_calls {kem : HpkeKem} {aead : HpkeAead} {sharedSecret info : Bytes}
    {nk : Nat} {material : HpkeKeyMaterial} :
    keyScheduleBase hkdf (hpkeSuite crates ciphers kem aead).suiteId sharedSecret info nk =
        .ok material ↔
      nk ≤ 8160 ∧ SuiteDerives crates ciphers hkdf kem aead sharedSecret info nk material := by
  simp only [keyScheduleBase, labeledExpand, Except.bind_eq_ok_iff, Except.pure_eq_ok_iff]
  constructor
  · rintro ⟨key, expandedKey, nonce, expandedNonce, exporter, expandedExporter, rfl⟩
    obtain ⟨small, expandedKey⟩ := (labeledExpandChecked_suite .key).mp expandedKey
    exact ⟨small, ⟨key, rfl, expandedKey⟩,
      ((labeledExpandChecked_suite .baseNonce).mp expandedNonce).2,
      ((labeledExpandChecked_suite .exp).mp expandedExporter).2⟩
  · obtain ⟨_, nonce, exporter⟩ := material
    rintro ⟨small, ⟨key, rfl, expandedKey⟩, expandedNonce, expandedExporter⟩
    exact ⟨key, (labeledExpandChecked_suite .key).mpr ⟨small, expandedKey⟩, nonce,
      (labeledExpandChecked_suite .baseNonce).mpr ⟨by decide, expandedNonce⟩, exporter,
      (labeledExpandChecked_suite .exp).mpr ⟨by decide, expandedExporter⟩, rfl⟩

theorem exportSecret_call {kem : HpkeKem} {aead : HpkeAead} {ctx : HpkeCtx}
    {exporterContext exported : Bytes} {len : Nat}
    (ofSuite : ctx.suiteId = (hpkeSuite crates ciphers kem aead).suiteId) :
    ctx.exportSecret hkdf exporterContext len = .ok exported ↔
      len ≤ 8160 ∧ ∃ okm : Vector UInt8 len, exported = okm.toList ∧
        hkdf.expand ctx.exporterSecret.toList
          (ExpandCall.input crates ciphers ⟨.suite kem aead, .sec, exporterContext, len⟩) len =
            some okm := by
  rw [HpkeCtx.exportSecret, ofSuite]
  constructor
  · intro mapped
    obtain ⟨okm, expanded, rfl⟩ := Except.map_eq_ok_iff.mp mapped
    obtain ⟨small, expanded⟩ := (labeledExpandChecked_suite .sec).mp expanded
    exact ⟨small, okm, rfl, expanded⟩
  · rintro ⟨small, okm, rfl, expanded⟩
    exact Except.map_eq_ok_iff.mpr
      ⟨okm, (labeledExpandChecked_suite .sec).mpr ⟨small, expanded⟩, rfl⟩

theorem feedsHkdf (hkdf : Hkdf) : FeedsHkdf crates ciphers hkdf where
  labeledExtract _ _ := rfl
  labeledExpandChecked _ _ _ := labeledExpandChecked_eq_ok_iff
  extractAndExpand kem _ _ := extractAndExpand_eq_ok_iff (by cases kem <;> rfl)
  keyScheduleBase _ _ _ _ _ _ := keyScheduleBase_calls
  exportSecret _ _ _ _ _ _ := exportSecret_call

end Feeds

/-- The labeled functions feed HKDF with the inputs of their calls, at every call site.  Two calls
that feed HKDF with the same bytes are the same call: suite id, label and input keying material of
an extraction, and length, suite id, label and info of an expansion, can be told from the
concatenation. -/
theorem labeled_inputs_unambiguous (crates : KemCrates) (ciphers : RustCrypto) :
    (∀ hkdf, FeedsHkdf crates ciphers hkdf) ∧
      (∀ left right : ExtractCall, left.input crates ciphers = right.input crates ciphers →
        left.domain.suiteId crates ciphers = right.domain.suiteId crates ciphers ∧
          left.label.text = right.label.text ∧ left.ikm = right.ikm) ∧
      ∀ left right : ExpandCall, left.length ≤ 8160 → right.length ≤ 8160 →
        left.input crates ciphers = right.input crates ciphers →
        left.length = right.length ∧
          left.domain.suiteId crates ciphers = right.domain.suiteId crates ciphers ∧
          left.label.text = right.label.text ∧ left.info = right.info := by
  refine ⟨feedsHkdf, ?_, ?_⟩
  · intro left right same
    obtain rfl := ExtractCall.eq_of_input_eq same
    exact ⟨rfl, rfl, rfl⟩
  · intro left right leftSmall rightSmall same
    obtain rfl := ExpandCall.eq_of_input_eq leftSmall rightSmall same
    exact ⟨rfl, rfl, rfl, rfl⟩

end OxiTls
