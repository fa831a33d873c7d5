import OxiTls.Hpke.Suite

/-!
# The Diffie-Hellman KEMs

`hpke/kem.rs`: DHKEM over X25519 and over P-256, with the two curves and HKDF as parameters.  Sender
and receiver rebuild the context of the KEM from different data: the sender from the public key it
was given, the receiver from its secret key.  Random bytes come from a tape, 32 for every call of
`getrandom::fill`; a call on a tape that has run out fails.
-/

namespace OxiTls

/-- A value that must be there, or an error with a text. -/
def orGeneral {α : Type} (value : Option α) (text : String) : Except RustlsError α :=
  match value with
  | some value => .ok value
  | none => .error (.general text)

@[simp]
theorem orGeneral_some {α : Type} (value : α) (text : String) :
    orGeneral (some value) text = .ok value := rfl

@[simp]
theorem orGeneral_none {α : Type} (text : String) :
    orGeneral (none : Option α) text = .error (.general text) := rfl

/-! ## The curves -/

/-- The static secrets of the `x25519-dalek` crate; a secret is its 32 bytes. -/
structure X25519Static where
  publicKey : (secret : Vector UInt8 32) → Vector UInt8 32
  diffieHellman : (secret point : Vector UInt8 32) → Vector UInt8 32

namespace X25519Static

/-- `SharedSecret::was_contributory`. -/
def wasContributory (shared : Vector UInt8 32) : Bool := shared != Vector.replicate 32 0

theorem not_wasContributory (shared : Vector UInt8 32) :
    (!wasContributory shared) = true ↔ shared = Vector.replicate 32 0 := by
  simp [wasContributory]

/-- Both parties of a Diffie-Hellman exchange compute the same secret. -/
def Commutative (x25519 : X25519Static) : Prop :=
  ∀ mine theirs, x25519.diffieHellman mine (x25519.publicKey theirs) =
    x25519.diffieHellman theirs (x25519.publicKey mine)

end X25519Static

/-- The `p256` crate. -/
structure P256 where
  SecretKey : Type
  PublicKey : Type
  /-- `SecretKey::from_slice`, which refuses scalars out of range. -/
  secretKeyFromSlice : Bytes → Option SecretKey
  secretKeyToBytes : SecretKey → Vector UInt8 32
  publicKey : SecretKey → PublicKey
  /-- `PublicKey::from_sec1_bytes`. -/
  fromSec1Bytes : Bytes → Option PublicKey
  toUncompressedPoint : PublicKey → Vector UInt8 65
  toCompressedPoint : PublicKey → Vector UInt8 33
  /-- The X coordinate of the shared point. -/
  diffieHellman : SecretKey → PublicKey → Vector UInt8 32

/-- Points are read back from both of their encodings, secret keys from their bytes, and both
parties of a Diffie-Hellman exchange compute the same secret. -/
structure P256.Correct (p256 : P256) : Prop where
  commutative : ∀ mine theirs, p256.diffieHellman mine (p256.publicKey theirs) =
    p256.diffieHellman theirs (p256.publicKey mine)
  fromSec1Bytes_uncompressed : ∀ point,
    p256.fromSec1Bytes (p256.toUncompressedPoint point).toList = some point
  fromSec1Bytes_compressed : ∀ point,
    p256.fromSec1Bytes (p256.toCompressedPoint point).toList = some point
  secretKeyFromSlice_toBytes : ∀ secret,
    p256.secretKeyFromSlice (p256.secretKeyToBytes secret).toList = some secret

/-- What the KEMs are built from. -/
structure KemCrates where
  hkdf : Hkdf
  x25519 : X25519Static
  p256 : P256
  /-- The text of the error of `getrandom`. -/
  getrandomError : String

/-- The constants of the trait `DhKem`. -/
structure KemConstants where
  kemId : UInt16
  nenc : Nat
  npk : Nat
  nsk : Nat
  nsecret : Nat
  deriving DecidableEq, Repr

/-- `DhKem::kem_suite_id`. -/
def KemConstants.suiteId (kem : KemConstants) : Bytes :=
  ascii "KEM" ++ BigEndian.encode 2 kem.kemId.toNat

section Kem

variable (crates : KemCrates)

/-- `getrandom::fill` of a 32-byte buffer, with what is left of the tape. -/
def getrandomFill (random : Bytes) : Except String (Vector UInt8 32 × Bytes) :=
  match FixedLength.ofList? 32 (random.take 32) with
  | some buf => .ok (buf, random.drop 32)
  | none => .error crates.getrandomError

variable {crates} in
theorem getrandomFill_eq_ok_iff {random rest : Bytes} {buf : Vector UInt8 32} :
    getrandomFill crates random = .ok (buf, rest) ↔ random = buf.toList ++ rest := by
  constructor
  · intro filled
    rw [getrandomFill] at filled
    split at filled
    case h_1 read =>
      obtain ⟨rfl, rfl⟩ := Prod.mk.inj (Except.ok.inj filled)
      rw [FixedLength.eq_toList_of_ofList? read]
      exact (List.take_append_drop 32 random).symm
    case h_2 => contradiction
  · rintro rfl
    rw [getrandomFill, FixedLength.take_append, FixedLength.ofList?_toList,
      FixedLength.drop_append]

variable {crates} in
theorem length_lt_of_getrandomFill {random rest : Bytes} {buf : Vector UInt8 32}
    (filled : getrandomFill crates random = .ok (buf, rest)) : rest.length < random.length := by
  rw [getrandomFill_eq_ok_iff.mp filled, List.length_append, Vector.length_toList]
  omega

/-- What the shared secret of a KEM is derived from. -/
structure KemInputs where
  dh : Bytes
  kemContext : Bytes
  deriving DecidableEq, Repr

/-- `extract_and_expand`. -/
def extractAndExpand (hkdf : Hkdf) (kem : KemConstants) (inputs : KemInputs) :
    Except RustlsError Digest := do
  let eaePrk := labeledExtract hkdf kem.suiteId [] (ascii "eae_prk") inputs.dh
  let out ← labeledExpand hkdf kem.suiteId eaePrk.toList (ascii "shared_secret")
    inputs.kemContext kem.nsecret
  orGeneral (FixedLength.ofList? 32 (out.toList.take 32))
    "DHKEM ExtractAndExpand: shared secret shorter than 32 bytes"

/-- The shared secret of RFC 9180 for a Diffie-Hellman value and a context, as HKDF computes it. -/
def DerivesSecret (hkdf : Hkdf) (kem : KemConstants) (dh kemContext : Bytes) (ss : Digest) :
    Prop :=
  hkdf.expand
      (hkdf.extract [] (ascii "HPKE-v1" ++ kem.suiteId ++ ascii "eae_prk" ++ dh)).toList
      (BigEndian.encode 2 32 ++ ascii "HPKE-v1" ++ kem.suiteId ++ ascii "shared_secret" ++
        kemContext) 32 =
    some ss

/-- A KEM that asks for 32 bytes hands out what HKDF derives. -/
theorem extractAndExpand_eq_ok_iff {hkdf : Hkdf} {kem : KemConstants} {inputs : KemInputs}
    {ss : Digest} (nsecret : kem.nsecret = 32) :
    extractAndExpand hkdf kem inputs = .ok ss ↔
      DerivesSecret hkdf kem inputs.dh inputs.kemContext ss := by
  obtain ⟨kemId, nenc, npk, nsk, _⟩ := kem
  obtain rfl := nsecret
  have small : 32 ≤ maxL := by decide
  have whole (out : Vector UInt8 32) : FixedLength.ofList? 32 (out.toList.take 32) = some out := by
    rw [List.take_of_length_le (Nat.le_of_eq out.length_toList), FixedLength.ofList?_toList]
  simp only [extractAndExpand, labeledExpand, Except.bind_eq_ok_iff, whole, orGeneral_some,
    Except.ok.injEq, exists_eq_right, labeledExpandChecked_eq_ok_iff, small, true_and,
    Vector.length_toList, Nat.le_refl]
  rfl

/-- A KEM: its constants, and what its two sides derive the shared secret from. -/
structure KemImpl where
  constants : KemConstants
  /-- The inputs of the sender, and the encapsulated key. -/
  encapInputs : (random pkR : Bytes) → Except RustlsError (KemInputs × Bytes)
  decapInputs : (skR enc : Bytes) → Except RustlsError KemInputs

namespace KemImpl

variable (hkdf : Hkdf) (impl : KemImpl)

/-- `DhKem::encap`. -/
def encap (random pkR : Bytes) : Except RustlsError (Digest × Bytes) := do
  let (inputs, enc) ← impl.encapInputs random pkR
  let sharedSecret ← extractAndExpand hkdf impl.constants inputs
  pure (sharedSecret, enc)

/-- `DhKem::decap`. -/
def decap (skR enc : Bytes) : Except RustlsError Digest := do
  let inputs ← impl.decapInputs skR enc
  extractAndExpand hkdf impl.constants inputs

/-- The implementation as a `DhKem`. -/
def kem : DhKem := ⟨impl.constants.kemId, impl.encap hkdf, impl.decap hkdf⟩

/-- Whenever the sender gets a secret, the encapsulated key has its length and the receiver gets the
same secret.  Both sides derive it from the Diffie-Hellman value of the exchange, with the
encapsulated key and the serialized public key as their context. -/
def SharesSecret (exchange : (enc dh : Bytes) → Prop)
    (random publicKey serialized secretKey : Bytes) : Prop :=
  ∀ ss enc, impl.encap hkdf random publicKey = .ok (ss, enc) →
    enc.length = impl.constants.nenc ∧ impl.decap hkdf secretKey enc = .ok ss ∧
    ∃ dh, exchange enc dh ∧ DerivesSecret hkdf impl.constants dh (enc ++ serialized) ss ∧
      impl.encapInputs random publicKey = .ok (⟨dh, enc ++ serialized⟩, enc) ∧
      impl.decapInputs secretKey enc = .ok ⟨dh, enc ++ serialized⟩

variable {hkdf impl}

/-- The secrets agree when the inputs do. -/
theorem sharesSecret_of_inputs {exchange : (enc dh : Bytes) → Prop}
    {random publicKey serialized secretKey : Bytes} (nsecret : impl.constants.nsecret = 32)
    (same : ∀ inputs enc, impl.encapInputs random publicKey = .ok (inputs, enc) →
      enc.length = impl.constants.nenc ∧ impl.decapInputs secretKey enc = .ok inputs ∧
        exchange enc inputs.dh ∧ inputs.kemContext = enc ++ serialized) :
    impl.SharesSecret hkdf exchange random publicKey serialized secretKey := by
  intro ss enc encapsulated
  simp only [encap, Except.bind_eq_ok_iff, Except.pure_eq_ok_iff] at encapsulated
  obtain ⟨⟨⟨dh, context⟩, _⟩, sent, _, derived, secret⟩ := encapsulated
  obtain ⟨rfl, rfl⟩ := Prod.mk.inj secret
  obtain ⟨length, received, exchanged, rfl⟩ := same _ _ sent
  refine ⟨length, ?_, dh, exchanged, (extractAndExpand_eq_ok_iff nsecret).mp derived, sent,
    received⟩
  rw [decap, received, Except.ok_bind, derived]

end KemImpl

end Kem

/-! ## DHKEM(X25519, HKDF-SHA256) -/

namespace KemX25519

/-- The constants of `KemX25519`. -/
def constants : KemConstants where
  kemId := 0x0020
  nenc := 32
  npk := 32
  nsk := 32
  nsecret := 32

variable (crates : KemCrates)

/-- `KemX25519::generate`: the public and the secret key. -/
def generate (random : Bytes) : Except RustlsError (Bytes × Bytes) := do
  let (sk, _) ← (getrandomFill crates random).mapError fun failure =>
    .general ("X25519 keygen: getrandom failed: " ++ failure)
  pure ((crates.x25519.publicKey sk).toList, sk.toList)

/-- The error of an encapsulation to a small-order key. -/
def encapNonContributory : RustlsError :=
  .general "X25519 Encap: non-contributory DH (small-order recipient key)"

/-- The error of a decapsulation from a small-order key. -/
def decapNonContributory : RustlsError :=
  .general "X25519 Decap: non-contributory DH (small-order sender key)"

/-- What `KemX25519::encap` derives the shared secret from, and the encapsulated key. -/
def encapInputs (random pkR : Bytes) : Except RustlsError (KemInputs × Bytes) := do
  let pkR ← orGeneral (FixedLength.ofList? 32 pkR) "X25519 Encap: recipient pk must be 32 bytes"
  let (skEm, _) ← (getrandomFill crates random).mapError fun failure =>
    .general ("X25519 Encap: getrandom failed: " ++ failure)
  let pkEm := crates.x25519.publicKey skEm
  let dhResult := crates.x25519.diffieHellman skEm pkR
  if !X25519Static.wasContributory dhResult then .error encapNonContributory
  else .ok (⟨dhResult.toList, pkEm.toList ++ pkR.toList⟩, pkEm.toList)

/-- What `KemX25519::decap` derives the shared secret from. -/
def decapInputs (skR enc : Bytes) : Except RustlsError KemInputs := do
  let pkEm ← orGeneral (FixedLength.ofList? 32 enc) "X25519 Decap: enc must be 32 bytes"
  let skR ← orGeneral (FixedLength.ofList? 32 skR) "X25519 Decap: secret key must be 32 bytes"
  let pkR := crates.x25519.publicKey skR
  let dhResult := crates.x25519.diffieHellman skR pkEm
  if !X25519Static.wasContributory dhResult then .error decapNonContributory
  else .ok ⟨dhResult.toList, pkEm.toList ++ pkR.toList⟩

/-- `KemX25519`. -/
def impl : KemImpl := ⟨constants, encapInputs crates, decapInputs crates⟩

/-- `KemX25519::encap`. -/
def encap : (random pkR : Bytes) → Except RustlsError (Digest × Bytes) :=
  (impl crates).encap crates.hkdf

/-- `KemX25519::decap`. -/
def decap : (skR enc : Bytes) → Except RustlsError Digest := (impl crates).decap crates.hkdf

end KemX25519

/-! ## DHKEM(P-256, HKDF-SHA256) -/

namespace KemP256

/-- The constants of `KemP256`. -/
def constants : KemConstants where
  kemId := 0x0010
  nenc := 65
  npk := 65
  nsk := 32
  nsecret := 32

variable (crates : KemCrates)

/-- `p256_rejection_sample`. -/
def rejectionSample (random : Bytes) : Except RustlsError crates.p256.SecretKey :=
  match filled : getrandomFill crates random with
  | .error failure => .error (.general ("P-256 keygen: getrandom failed: " ++ failure))
  | .ok (buf, rest) =>
      have := length_lt_of_getrandomFill filled
      match crates.p256.secretKeyFromSlice buf.toList with
      | some sk => .ok sk
      | none => rejectionSample rest
termination_by random.length

/-- `KemP256::generate`: the public and the secret key. -/
def generate (random : Bytes) : Except RustlsError (Bytes × Bytes) := do
  let sk ← rejectionSample crates random
  let pk := crates.p256.publicKey sk
  pure ((crates.p256.toUncompressedPoint pk).toList, (crates.p256.secretKeyToBytes sk).toList)

/-- What `KemP256::encap` derives the shared secret from, and the encapsulated key. -/
def encapInputs (random pkR : Bytes) : Except RustlsError (KemInputs × Bytes) := do
  let pkR ← orGeneral (crates.p256.fromSec1Bytes pkR) "P-256 Encap: invalid recipient public key"
  let skEm ← rejectionSample crates random
  let pkEm := crates.p256.publicKey skEm
  let dh := crates.p256.diffieHellman skEm pkR
  let enc := crates.p256.toUncompressedPoint pkEm
  let pkRBytes := crates.p256.toUncompressedPoint pkR
  pure (⟨dh.toList, enc.toList ++ pkRBytes.toList⟩, enc.toList)

/-- What `KemP256::decap` derives the shared secret from. -/
def decapInputs (skR enc : Bytes) : Except RustlsError KemInputs := do
  let pkEm ← orGeneral (crates.p256.fromSec1Bytes enc)
    "P-256 Decap: invalid enc (sender ephemeral public key)"
  let skR ← orGeneral (crates.p256.secretKeyFromSlice skR)
    "P-256 Decap: invalid recipient secret key"
  let dh := crates.p256.diffieHellman skR pkEm
  let pkR := crates.p256.publicKey skR
  let pkRBytes := crates.p256.toUncompressedPoint pkR
  pure ⟨dh.toList, enc ++ pkRBytes.toList⟩

/-- `KemP256`. -/
def impl : KemImpl := ⟨constants, encapInputs crates, decapInputs crates⟩

/-- `KemP256::encap`. -/
def encap : (random pkR : Bytes) → Except RustlsError (Digest × Bytes) :=
  (impl crates).encap crates.hkdf

/-- `KemP256::decap`. -/
def decap : (skR enc : Bytes) → Except RustlsError Digest := (impl crates).decap crates.hkdf

end KemP256

/-! ## Agreement -/

section Agreement

variable {crates : KemCrates}

/-- Both KEMs ask HKDF for 32 bytes, which it always gives. -/
theorem extractAndExpand_eq_ok {hkdf : Hkdf} {kem : KemConstants} (inputs : KemInputs)
    (nsecret : kem.nsecret = 32) : ∃ ss, extractAndExpand hkdf kem inputs = .ok ss := by
  have strong (prk : Digest) : 32 ≤ prk.toList.length := Nat.le_of_eq prk.length_toList.symm
  have small : kem.nsecret ≤ maxL := by
    rw [nsecret]
    decide
  obtain ⟨out, expanded⟩ : ∃ out, labeledExpand hkdf kem.suiteId
      (labeledExtract hkdf kem.suiteId [] (ascii "eae_prk") inputs.dh).toList
      (ascii "shared_secret") inputs.kemContext kem.nsecret = .ok out :=
    labeledExpandChecked_eq_ok (strong _) small
  have whole : (out.toList.take 32).length = 32 := by
    rw [List.length_take_of_le]
    rw [Vector.length_toList, nsecret]
  obtain ⟨ss, taken⟩ := FixedLength.exists_toList whole
  refine ⟨ss, ?_⟩
  simp only [extractAndExpand, expanded, Except.bind_eq_ok_iff, Except.ok.injEq, exists_eq_left',
    ← taken, FixedLength.ofList?_toList, orGeneral_some]

/-- A KEM whose two sides share every secret agrees on a key pair. -/
theorem KemImpl.agrees {hkdf : Hkdf} {impl : KemImpl} {exchange : Bytes → Bytes → Bytes → Prop}
    {publicKey serialized secretKey : Bytes}
    (shares : ∀ random,
      impl.SharesSecret hkdf (exchange random) random publicKey serialized secretKey) :
    (impl.kem hkdf).Agrees publicKey secretKey :=
  fun random ss enc encapsulated => (shares random ss enc encapsulated).2.1

namespace KemX25519

/-- An encapsulation with an ephemeral key uses up 32 bytes of the tape, and is refused exactly when
the exchange is not contributory. -/
theorem encapInputs_eq (skEm pkR : Vector UInt8 32) (rest : Bytes) :
    encapInputs crates (skEm.toList ++ rest) pkR.toList =
      if crates.x25519.diffieHellman skEm pkR = Vector.replicate 32 0 then
        .error encapNonContributory
      else
        let pkEm := crates.x25519.publicKey skEm
        .ok (⟨(crates.x25519.diffieHellman skEm pkR).toList, pkEm.toList ++ pkR.toList⟩,
          pkEm.toList) := by
  have filled : getrandomFill crates (skEm.toList ++ rest) = .ok (skEm, rest) :=
    getrandomFill_eq_ok_iff.mpr rfl
  simp only [encapInputs, FixedLength.ofList?_toList, orGeneral_some, filled, Except.mapError,
    Except.ok_bind, X25519Static.not_wasContributory]

theorem decapInputs_eq (skR pkEm : Vector UInt8 32) :
    decapInputs crates skR.toList pkEm.toList =
      if crates.x25519.diffieHellman skR pkEm = Vector.replicate 32 0 then
        .error decapNonContributory
      else
        .ok ⟨(crates.x25519.diffieHellman skR pkEm).toList,
          pkEm.toList ++ (crates.x25519.publicKey skR).toList⟩ := by
  simp only [decapInputs, FixedLength.ofList?_toList, orGeneral_some, Except.ok_bind,
    X25519Static.not_wasContributory]

/-- An exchange with the ephemeral key at the front of the tape. -/
def Exchanges (crates : KemCrates) (sk : Vector UInt8 32) (random enc dh : Bytes) : Prop :=
  ∃ (skEm : Vector UInt8 32) (rest : Bytes), random = skEm.toList ++ rest ∧
    enc = (crates.x25519.publicKey skEm).toList ∧
    dh = (crates.x25519.diffieHellman skEm (crates.x25519.publicKey sk)).toList

/-- The only tape on which an encapsulation succeeds starts with an ephemeral key. -/
theorem exists_of_encapInputs_eq_ok {random enc : Bytes} {pkR : Vector UInt8 32}
    {inputs : KemInputs} (sent : encapInputs crates random pkR.toList = .ok (inputs, enc)) :
    ∃ (skEm : Vector UInt8 32) (rest : Bytes), random = skEm.toList ++ rest := by
  simp only [encapInputs, Except.bind_eq_ok_iff, Except.mapError_eq_ok_iff] at sent
  obtain ⟨_, -, ⟨skEm, rest⟩, filled, -⟩ := sent
  exact ⟨skEm, rest, getrandomFill_eq_ok_iff.mp filled⟩

theorem sharesSecret (commutes : crates.x25519.Commutative) (sk : Vector UInt8 32)
    (random : Bytes) :
    (impl crates).SharesSecret crates.hkdf (Exchanges crates sk random) random
      (crates.x25519.publicKey sk).toList (crates.x25519.publicKey sk).toList sk.toList := by
  apply KemImpl.sharesSecret_of_inputs rfl
  intro inputs enc sent
  obtain ⟨skEm, rest, rfl⟩ := exists_of_encapInputs_eq_ok sent
  have sent := (encapInputs_eq skEm (crates.x25519.publicKey sk) rest).symm.trans sent
  split_ifs at sent with zero
  obtain ⟨rfl, rfl⟩ := Prod.mk.inj (Except.ok.inj sent)
  refine ⟨Vector.length_toList, ?_, ⟨skEm, rest, rfl, rfl, rfl⟩, rfl⟩
  rw [commutes] at zero
  rw [commutes]
  exact (decapInputs_eq sk (crates.x25519.publicKey skEm)).trans (if_neg zero)

/-- The key pairs that are generated agree. -/
theorem generate_agrees (commutes : crates.x25519.Commutative)
    {random publicKey secretKey : Bytes}
    (generated : generate crates random = .ok (publicKey, secretKey)) :
    ((impl crates).kem crates.hkdf).Agrees publicKey secretKey := by
  simp only [generate, Except.bind_eq_ok_iff, Except.pure_eq_ok_iff] at generated
  obtain ⟨⟨sk, _⟩, _, pair⟩ := generated
  obtain ⟨rfl, rfl⟩ := Prod.mk.inj pair
  exact KemImpl.agrees (sharesSecret commutes sk)

/-- The two sides refuse the same exchanges, those with an all-zero secret. -/
theorem encap_decap_cases (commutes : crates.x25519.Commutative) (skEm sk : Vector UInt8 32)
    (rest : Bytes) :
    (crates.x25519.diffieHellman skEm (crates.x25519.publicKey sk) = Vector.replicate 32 0 ∧
        encap crates (skEm.toList ++ rest) (crates.x25519.publicKey sk).toList =
          .error encapNonContributory ∧
        decap crates sk.toList (crates.x25519.publicKey skEm).toList =
          .error decapNonContributory) ∨
      crates.x25519.diffieHellman skEm (crates.x25519.publicKey sk) ≠ Vector.replicate 32 0 ∧
        ∃ ss, encap crates (skEm.toList ++ rest) (crates.x25519.publicKey sk).toList =
            .ok (ss, (crates.x25519.publicKey skEm).toList) ∧
          decap crates sk.toList (crates.x25519.publicKey skEm).toList = .ok ss := by
  have sent : encapInputs crates _ _ = _ := encapInputs_eq skEm (crates.x25519.publicKey sk) rest
  have received : decapInputs crates _ _ = _ := decapInputs_eq sk (crates.x25519.publicKey skEm)
  rw [← commutes] at received
  simp only [encap, decap, KemImpl.encap, KemImpl.decap, impl, sent, received]
  by_cases zero :
    crates.x25519.diffieHellman skEm (crates.x25519.publicKey sk) = Vector.replicate 32 0
  · left
    rw [if_pos zero, if_pos zero]
    exact ⟨zero, rfl, rfl⟩
  · right
    rw [if_neg zero, if_neg zero]
    obtain ⟨ss, derived⟩ : ∃ ss, extractAndExpand crates.hkdf constants _ = .ok ss :=
      extractAndExpand_eq_ok _ rfl
    refine ⟨zero, ss, ?_, ?_⟩
    · rw [Except.ok_bind, derived]
      rfl
    · rw [Except.ok_bind, derived]

end KemX25519

namespace KemP256

/-- A public key in the uncompressed or in the compressed encoding. -/
def Encodes (p256 : P256) (publicKey : Bytes) (point : p256.PublicKey) : Prop :=
  publicKey = (p256.toUncompressedPoint point).toList ∨
    publicKey = (p256.toCompressedPoint point).toList

/-- A tape on which the blocks before the bytes of a scalar are out of range. -/
def Draws (crates : KemCrates) (random : Bytes) (sk : crates.p256.SecretKey) : Prop :=
  ∃ (refused : List (Vector UInt8 32)) (buf : Vector UInt8 32) (rest : Bytes),
    random = refused.flatMap Vector.toList ++ (buf.toList ++ rest) ∧
    (∀ block ∈ refused, crates.p256.secretKeyFromSlice block.toList = none) ∧
    crates.p256.secretKeyFromSlice buf.toList = some sk

/-- An exchange with the ephemeral key that the tape gives. -/
def Exchanges (crates : KemCrates) (sk : crates.p256.SecretKey) (random enc dh : Bytes) : Prop :=
  ∃ skEm, Draws crates random skEm ∧
    enc = (crates.p256.toUncompressedPoint (crates.p256.publicKey skEm)).toList ∧
    dh = (crates.p256.diffieHellman skEm (crates.p256.publicKey sk)).toList

theorem rejectionSample_append (buf : Vector UInt8 32) (rest : Bytes) :
    rejectionSample crates (buf.toList ++ rest) =
      match crates.p256.secretKeyFromSlice buf.toList with
      | some sk => .ok sk
      | none => rejectionSample crates rest := by
  have filled : getrandomFill crates (buf.toList ++ rest) = .ok (buf, rest) :=
    getrandomFill_eq_ok_iff.mpr rfl
  rw [rejectionSample]
  split
  next failed =>
    rw [filled] at failed
    contradiction
  next read =>
    obtain ⟨rfl, rfl⟩ := Prod.mk.inj (Except.ok.inj (filled.symm.trans read))
    rfl

/-- Rejection sampling finds the first scalar in range. -/
theorem rejectionSample_eq_ok_iff {random : Bytes} {sk : crates.p256.SecretKey} :
    rejectionSample crates random = .ok sk ↔ Draws crates random sk := by
  constructor
  · intro sampled
    induction random using rejectionSample.induct crates with
    | case1 random failure failed =>
        rw [rejectionSample] at sampled
        split at sampled
        · contradiction
        next read =>
          rw [failed] at read
          contradiction
    | case2 random buf rest filled _ found inRange =>
        obtain rfl := getrandomFill_eq_ok_iff.mp filled
        rw [rejectionSample_append, inRange] at sampled
        obtain rfl := Except.ok.inj sampled
        exact ⟨[], buf, rest, rfl, by nofun, inRange⟩
    | case3 random buf rest filled _ outOfRange induction =>
        obtain rfl := getrandomFill_eq_ok_iff.mp filled
        rw [rejectionSample_append, outOfRange] at sampled
        obtain ⟨refused, found, rest, rfl, allRefused, inRange⟩ := induction sampled
        exact ⟨buf :: refused, found, rest, by simp,
          List.forall_mem_cons.mpr ⟨outOfRange, allRefused⟩, inRange⟩
  · rintro ⟨refused, buf, rest, rfl, allRefused, inRange⟩
    induction refused with
    | nil =>
        rw [List.flatMap_nil, List.nil_append, rejectionSample_append, inRange]
    | cons block refused induction =>
        obtain ⟨outOfRange, later⟩ := List.forall_mem_cons.mp allRefused
        rw [List.flatMap_cons, List.append_assoc, rejectionSample_append, outOfRange]
        exact induction later

theorem read_of_encodes (correct : crates.p256.Correct) {publicKey : Bytes}
    {point : crates.p256.PublicKey} (encodes : Encodes crates.p256 publicKey point) :
    crates.p256.fromSec1Bytes publicKey = some point := by
  rcases encodes with rfl | rfl
  · exact correct.fromSec1Bytes_uncompressed _
  · exact correct.fromSec1Bytes_compressed _

/-- Encapsulation succeeds with every ephemeral key that a tape can give. -/
theorem encap_eq_ok (correct : crates.p256.Correct) {random publicKey : Bytes}
    {point : crates.p256.PublicKey} {skEm : crates.p256.SecretKey}
    (encodes : Encodes crates.p256 publicKey point) (drawn : Draws crates random skEm) :
    ∃ ss, encap crates random publicKey =
      .ok (ss, (crates.p256.toUncompressedPoint (crates.p256.publicKey skEm)).toList) := by
  have sampled := rejectionSample_eq_ok_iff.mpr drawn
  let enc := (crates.p256.toUncompressedPoint (crates.p256.publicKey skEm)).toList
  have sent : encapInputs crates random publicKey =
      .ok (⟨(crates.p256.diffieHellman skEm point).toList,
        enc ++ (crates.p256.toUncompressedPoint point).toList⟩, enc) := by
    rw [encapInputs, read_of_encodes correct encodes, orGeneral_some, Except.ok_bind, sampled]
    rfl
  obtain ⟨ss, derived⟩ : ∃ ss, extractAndExpand crates.hkdf constants _ = .ok ss :=
    extractAndExpand_eq_ok _ rfl
  refine ⟨ss, ?_⟩
  change (encapInputs crates random publicKey >>= _) = _
  rw [sent, Except.ok_bind]
  change (extractAndExpand crates.hkdf constants _ >>= _) = _
  rw [derived]
  rfl

theorem sharesSecret (correct : crates.p256.Correct) {sk : crates.p256.SecretKey}
    {secretKey publicKey : Bytes} (parsed : crates.p256.secretKeyFromSlice secretKey = some sk)
    (encodes : Encodes crates.p256 publicKey (crates.p256.publicKey sk)) (random : Bytes) :
    (impl crates).SharesSecret crates.hkdf (Exchanges crates sk random) random publicKey
      (crates.p256.toUncompressedPoint (crates.p256.publicKey sk)).toList secretKey := by
  apply KemImpl.sharesSecret_of_inputs rfl
  intro inputs enc (sent : encapInputs crates random publicKey = .ok (inputs, enc))
  rw [encapInputs, read_of_encodes correct encodes, orGeneral_some, Except.ok_bind] at sent
  simp only [Except.bind_eq_ok_iff, Except.pure_eq_ok_iff] at sent
  obtain ⟨skEm, sampled, sent⟩ := sent
  obtain ⟨rfl, rfl⟩ := Prod.mk.inj sent
  refine ⟨Vector.length_toList, ?_, ⟨skEm, rejectionSample_eq_ok_iff.mp sampled, rfl, rfl⟩, rfl⟩
  change decapInputs crates _ _ = _
  rw [decapInputs, correct.fromSec1Bytes_uncompressed, parsed, correct.commutative]
  rfl

/-- The key pairs that are generated agree. -/
theorem generate_agrees (correct : crates.p256.Correct) {random publicKey secretKey : Bytes}
    (generated : generate crates random = .ok (publicKey, secretKey)) :
    ((impl crates).kem crates.hkdf).Agrees publicKey secretKey := by
  simp only [generate, Except.bind_eq_ok_iff, Except.pure_eq_ok_iff] at generated
  obtain ⟨sk, -, pair⟩ := generated
  obtain ⟨rfl, rfl⟩ := Prod.mk.inj pair
  exact KemImpl.agrees
    (sharesSecret correct (correct.secretKeyFromSlice_toBytes sk) (.inl rfl))

end KemP256

end Agreement

/-- For every key pair and all randomness: whenever the sender gets a secret, the receiver gets it
too, and HKDF derives it from the Diffie-Hellman value of the ephemeral key and the recipient's key
with the same context on both sides, for X25519 and for both encodings of a P-256 key.  P-256
refuses no ephemeral key, and the two sides of an X25519 exchange refuse it together. -/
theorem dhkem_agreement (crates : KemCrates) (commutes : crates.x25519.Commutative)
    (correct : crates.p256.Correct) :
    (∀ (sk : Vector UInt8 32) (random : Bytes),
      (KemX25519.impl crates).SharesSecret crates.hkdf (KemX25519.Exchanges crates sk random)
        random (crates.x25519.publicKey sk).toList (crates.x25519.publicKey sk).toList
        sk.toList) ∧
      (∀ (sk : crates.p256.SecretKey) (secretKey publicKey random : Bytes),
        crates.p256.secretKeyFromSlice secretKey = some sk →
        KemP256.Encodes crates.p256 publicKey (crates.p256.publicKey sk) →
        (KemP256.impl crates).SharesSecret crates.hkdf (KemP256.Exchanges crates sk random) random
          publicKey (crates.p256.toUncompressedPoint (crates.p256.publicKey sk)).toList
          secretKey ∧
        ∀ skEm, KemP256.Draws crates random skEm →
          ∃ ss, KemP256.encap crates random publicKey =
            .ok (ss, (crates.p256.toUncompressedPoint (crates.p256.publicKey skEm)).toList)) ∧
      ∀ (skEm sk : Vector UInt8 32) (rest : Bytes),
        (crates.x25519.diffieHellman skEm (crates.x25519.publicKey sk) = Vector.replicate 32 0 ∧
          KemX25519.encap crates (skEm.toList ++ rest) (crates.x25519.publicKey sk).toList =
            .error KemX25519.encapNonContributory ∧
          KemX25519.decap crates sk.toList (crates.x25519.publicKey skEm).toList =
            .error KemX25519.decapNonContributory) ∨
        crates.x25519.diffieHellman skEm (crates.x25519.publicKey sk) ≠ Vector.replicate 32 0 ∧
          ∃ ss, KemX25519.encap crates (skEm.toList ++ rest)
              (crates.x25519.publicKey sk).toList =
                .ok (ss, (crates.x25519.publicKey skEm).toList) ∧
            KemX25519.decap crates sk.toList (crates.x25519.publicKey skEm).toList = .ok ss := by
  refine ⟨KemX25519.sharesSecret commutes, ?_, KemX25519.encap_decap_cases commutes⟩
  intro sk secretKey publicKey random parsed encodes
  exact ⟨KemP256.sharesSecret correct parsed encodes random,
    fun _ => KemP256.encap_eq_ok correct encodes⟩

/-- An HKDF that adds up the bytes it is given. -/
def summingHkdf : Hkdf where
  extract salt ikm := Vector.replicate 32 ((salt ++ ikm).foldl (· + ·) 0)
  expand prk info length := some (Vector.replicate length ((prk ++ info).foldl (· + ·) 0))
  expands _ _ _ _ _ := rfl

/-- A curve whose points are secrets and whose shared secrets are sums. -/
def summingX25519 : X25519Static where
  publicKey secret := secret
  diffieHellman secret point := secret.zipWith (· + ·) point

/-- A curve whose secrets are the bytes other than zero. -/
def summingP256 : P256 where
  SecretKey := { byte : UInt8 // byte ≠ 0 }
  PublicKey := UInt8
  secretKeyFromSlice bytes :=
    if valid : bytes.length = 32 ∧ bytes.headD 0 ≠ 0 then some ⟨bytes.headD 0, valid.2⟩ else none
  secretKeyToBytes secret := Vector.replicate 32 secret.1
  publicKey secret := secret.1
  fromSec1Bytes bytes :=
    if bytes.length = 65 ∨ bytes.length = 33 then some (bytes.headD 0) else none
  toUncompressedPoint point := Vector.replicate 65 point
  toCompressedPoint point := Vector.replicate 33 point
  diffieHellman secret point := Vector.replicate 32 (secret.1 + point)

theorem summingX25519_commutative : summingX25519.Commutative := by
  intro mine theirs
  apply Vector.ext
  intro index inside
  simp only [summingX25519, Vector.getElem_zipWith]
  exact UInt8.add_comm _ _

theorem summingP256_correct : summingP256.Correct where
  commutative mine theirs := congrArg (Vector.replicate 32) (UInt8.add_comm mine.1 theirs.1)
  fromSec1Bytes_uncompressed _ := rfl
  fromSec1Bytes_compressed _ := rfl
  secretKeyFromSlice_toBytes secret := dif_pos ⟨Vector.length_toList, secret.2⟩

/-- The KEMs over these curves. -/
def summingCrates : KemCrates := ⟨summingHkdf, summingX25519, summingP256, "no entropy"⟩

/-- A P-256 key in its compressed encoding, with a tape whose first scalar is refused, and an X25519
exchange that succeeds. -/
theorem dhkem_agreement_summing :
    (∃ ss, KemP256.encap summingCrates (List.replicate 32 0 ++ List.replicate 32 5)
          (List.replicate 33 7) = .ok (ss, List.replicate 65 5) ∧
        KemP256.decap summingCrates (List.replicate 32 7) (List.replicate 65 5) = .ok ss ∧
        DerivesSecret summingHkdf KemP256.constants (List.replicate 32 12)
          (List.replicate 65 5 ++ List.replicate 65 7) ss) ∧
      ∃ ss, KemX25519.encap summingCrates (List.replicate 32 5) (List.replicate 32 7) =
          .ok (ss, List.replicate 32 5) ∧
        KemX25519.decap summingCrates (List.replicate 32 7) (List.replicate 32 5) = .ok ss := by
  obtain ⟨-, p256, x25519⟩ :=
    dhkem_agreement summingCrates summingX25519_commutative summingP256_correct
  constructor
  · obtain ⟨shares, succeeds⟩ := p256 ⟨7, by decide⟩ (List.replicate 32 7) (List.replicate 33 7)
      (List.replicate 32 0 ++ List.replicate 32 5) rfl (.inr rfl)
    have drawn : KemP256.Draws summingCrates (List.replicate 32 0 ++ List.replicate 32 5)
        ⟨5, by decide⟩ :=
      ⟨[Vector.replicate 32 0], Vector.replicate 32 5, [], rfl, by simp; rfl, rfl⟩
    obtain ⟨ss, encapsulated⟩ := succeeds _ drawn
    obtain ⟨-, decapsulated, _, ⟨skEm, sampled, -, rfl⟩, derived, -⟩ := shares ss _ encapsulated
    -- A tape gives only one ephemeral key.
    have same : skEm = ⟨5, by decide⟩ :=
      Except.ok.inj ((KemP256.rejectionSample_eq_ok_iff.mpr sampled).symm.trans
        (KemP256.rejectionSample_eq_ok_iff.mpr drawn))
    subst same
    exact ⟨ss, encapsulated, decapsulated, derived⟩
  rcases x25519 (Vector.replicate 32 5) (Vector.replicate 32 7) [] with ⟨zero, -⟩ | ⟨-, shared⟩
  · have first := congrArg (fun shared : Vector UInt8 32 => shared[0]) zero
    simp only [summingCrates, summingX25519, Vector.getElem_zipWith, Vector.getElem_replicate]
      at first
    contradiction
  · exact shared

end OxiTls
