import OxiTls.Client.Config
import OxiTls.Library.FixedLength
import OxiTls.Pkcs11.Schemes

/-!
# Software signatures

`sign.rs` and `verify.rs` of the provider: how a private key is loaded, which scheme it signs with,
and the table that maps a scheme to the algorithms that verify it.  TLS 1.3 asks the first algorithm
of an entry only, so the order inside an entry decides whether a signature is accepted.
-/

namespace OxiTls

/-! ## The crates -/

/-- The paddings of an RSA signature. -/
inductive RsaPadding
  | pkcs1v15
  | pss
  deriving DecidableEq, Repr

/-- The `rsa` crate.  A signature that was made is its `to_vec`. -/
structure RsaCrate where
  PrivateKey : Type
  PublicKey : Type
  Signature : Type
  fromPkcs8Der : Bytes → Except String PrivateKey
  fromPkcs1Der : Bytes → Except String PrivateKey
  /-- The public half as the subject public key of a certificate. -/
  subjectPublicKey : PrivateKey → Bytes
  trySignWithRng : RsaPadding → HashAlgorithm → PrivateKey → (random message : Bytes) → Option Bytes
  publicKeyFromPkcs1Der : Bytes → Option PublicKey
  signatureTryFrom : RsaPadding → Bytes → Option Signature
  verify : RsaPadding → HashAlgorithm → PublicKey → (message : Bytes) → Signature → Bool

/-- The `ecdsa` module of a curve's crate.  It signs with the hash of the curve and verifies under a
digest of the caller's choice. -/
structure EcdsaCrate where
  SigningKey : Type
  VerifyingKey : Type
  Signature : Type
  fromPkcs8Der : Bytes → Except String SigningKey
  fromSec1Der : Bytes → Except String SigningKey
  subjectPublicKey : SigningKey → Bytes
  trySignWithRng : SigningKey → (random message : Bytes) → Option Bytes
  fromSec1Bytes : Bytes → Option VerifyingKey
  signatureFromDer : Bytes → Option Signature
  verifyPrehash : VerifyingKey → (digest : Bytes) → Signature → Bool

/-- The `ed25519-dalek` crate. -/
structure Ed25519Crate where
  SigningKey : Type
  VerifyingKey : Type
  Signature : Type
  fromPkcs8Der : Bytes → Except String SigningKey
  fromSec1Der : Bytes → Except String SigningKey
  subjectPublicKey : SigningKey → Vector UInt8 32
  trySign : SigningKey → (message : Bytes) → Option Bytes
  verifyingKeyFromBytes : Vector UInt8 32 → Option VerifyingKey
  signatureFromSlice : Bytes → Option Signature
  verify : VerifyingKey → (message : Bytes) → Signature → Bool

/-- The crates behind the signatures of the provider. -/
structure SignatureCrates where
  rsa : RsaCrate
  p256 : EcdsaCrate
  p384 : EcdsaCrate
  ed25519 : Ed25519Crate
  /-- The digests of `sha2`. -/
  digest : HashAlgorithm → Bytes → Bytes

/-- What a key signs verifies under its public half. -/
def RsaCrate.Correct (crate : RsaCrate) : Prop :=
  ∀ padding hash key random message signature,
    crate.trySignWithRng padding hash key random message = some signature →
    ∃ publicKey parsed, crate.publicKeyFromPkcs1Der (crate.subjectPublicKey key) = some publicKey ∧
      crate.signatureTryFrom padding signature = some parsed ∧
      crate.verify padding hash publicKey message parsed

/-- What a key signs verifies under its public half and the digest of the curve. -/
def EcdsaCrate.Correct (crate : EcdsaCrate) (digest : Bytes → Bytes) : Prop :=
  ∀ key random message signature, crate.trySignWithRng key random message = some signature →
    ∃ verifyingKey parsed, crate.fromSec1Bytes (crate.subjectPublicKey key) = some verifyingKey ∧
      crate.signatureFromDer signature = some parsed ∧
      crate.verifyPrehash verifyingKey (digest message) parsed

/-- What a key signs verifies under its public half. -/
def Ed25519Crate.Correct (crate : Ed25519Crate) : Prop :=
  ∀ key message signature, crate.trySign key message = some signature →
    ∃ verifyingKey parsed,
      crate.verifyingKeyFromBytes (crate.subjectPublicKey key) = some verifyingKey ∧
      crate.signatureFromSlice signature = some parsed ∧ crate.verify verifyingKey message parsed

/-! ## Signing keys -/

/-- `ED25519`. -/
def SignatureScheme.ed25519 : SignatureScheme := .other "ED25519"

/-- `ALL_RSA_SCHEMES`. -/
def allRsaSchemes : List SignatureScheme :=
  [.rsaPssSha512, .rsaPssSha384, .rsaPssSha256, .rsaPkcs1Sha512, .rsaPkcs1Sha384, .rsaPkcs1Sha256]

/-- `rustls::sign::Signer`.  A randomized signer draws on a random source. -/
structure SoftwareSigner where
  scheme : SignatureScheme
  sign : (random message : Bytes) → Except RustlsError Bytes

/-- `GenericRandomizedSigner` and `GenericSigner`: a signature, or one error for every failure. -/
def genericSigner (scheme : SignatureScheme) (trySign : (random message : Bytes) → Option Bytes) :
    SoftwareSigner where
  scheme := scheme
  sign random message :=
    match trySign random message with
    | some signature => .ok signature
    | none => .error (.general "signing failed")

/-- The four types behind `Arc<dyn SigningKey>`. -/
inductive SoftwareKey (crates : SignatureCrates)
  | rsa (key : crates.rsa.PrivateKey)
  | p256 (key : crates.p256.SigningKey)
  | p384 (key : crates.p384.SigningKey)
  | ed25519 (key : crates.ed25519.SigningKey)

section Keys

variable {crates : SignatureCrates}

/-- A failure of a decoder, as the keys report it. -/
def decoded {κ : Type} (answer : Except String κ) : Except String κ :=
  answer.mapError ("failed to decrypt private key: " ++ ·)

variable (crates) in
/-- `RsaSigningKey::try_from`. -/
def rsaSigningKey (der : PrivateKeyDer) : Except RustlsError (SoftwareKey crates) :=
  let pkey :=
    match der with
    | .pkcs8 der => decoded (crates.rsa.fromPkcs8Der der)
    | .pkcs1 der => decoded (crates.rsa.fromPkcs1Der der)
    | .sec1 _ => .error "RSA does not support SEC-1 key"
  (SoftwareKey.rsa <$> pkey).mapError .general

/-- `try_from` of the keys on an elliptic curve. -/
def curveSigningKey {κ : Type} (fromPkcs8Der fromSec1Der : Bytes → Except String κ)
    (pkcs1Refusal : String) (wrap : κ → SoftwareKey crates) (der : PrivateKeyDer) :
    Except RustlsError (SoftwareKey crates) :=
  let pkey :=
    match der with
    | .pkcs8 der => decoded (fromPkcs8Der der)
    | .sec1 der => decoded (fromSec1Der der)
    | .pkcs1 _ => .error pkcs1Refusal
  (wrap <$> pkey).mapError .general

variable (crates) in
/-- `EcdsaSigningKeyP256::try_from`. -/
def ecdsaSigningKeyP256 : PrivateKeyDer → Except RustlsError (SoftwareKey crates) :=
  curveSigningKey crates.p256.fromPkcs8Der crates.p256.fromSec1Der
    "ECDSA does not support PKCS#1 key" .p256

variable (crates) in
/-- `EcdsaSigningKeyP384::try_from`. -/
def ecdsaSigningKeyP384 : PrivateKeyDer → Except RustlsError (SoftwareKey crates) :=
  curveSigningKey crates.p384.fromPkcs8Der crates.p384.fromSec1Der
    "ECDSA does not support PKCS#1 key" .p384

variable (crates) in
/-- `Ed25519SigningKey::try_from`. -/
def ed25519SigningKey : PrivateKeyDer → Except RustlsError (SoftwareKey crates) :=
  curveSigningKey crates.ed25519.fromPkcs8Der crates.ed25519.fromSec1Der
    "ED25519 does not support PKCS#1 key" .ed25519

variable (crates) in
/-- `any_ecdsa_type`. -/
def anyEcdsaType (der : PrivateKeyDer) : Except RustlsError (SoftwareKey crates) :=
  (ecdsaSigningKeyP256 crates der).tryCatch fun _ => ecdsaSigningKeyP384 crates der

variable (crates) in
/-- `any_eddsa_type`. -/
def anyEddsaType (der : PrivateKeyDer) : Except RustlsError (SoftwareKey crates) :=
  ed25519SigningKey crates der

variable (crates) in
/-- `any_supported_type`, which is `load_private_key` of the provider. -/
def anySupportedType (der : PrivateKeyDer) : Except RustlsError (SoftwareKey crates) :=
  ((rsaSigningKey crates der).tryCatch fun _ => anyEcdsaType crates der).tryCatch
    fun _ => anyEddsaType crates der

/-- The signer of `RsaSigningKey` for a scheme. -/
def rsaSigner (key : crates.rsa.PrivateKey) (scheme : SignatureScheme) : Option SoftwareSigner :=
  let signer padding hash :=
    some (genericSigner scheme (crates.rsa.trySignWithRng padding hash key))
  match scheme with
  | .rsaPssSha512 => signer .pss .sha512
  | .rsaPssSha384 => signer .pss .sha384
  | .rsaPssSha256 => signer .pss .sha256
  | .rsaPkcs1Sha512 => signer .pkcs1v15 .sha512
  | .rsaPkcs1Sha384 => signer .pkcs1v15 .sha384
  | .rsaPkcs1Sha256 => signer .pkcs1v15 .sha256
  | _ => none

/-- `choose_scheme`. -/
def SoftwareKey.chooseScheme :
    SoftwareKey crates → (offered : List SignatureScheme) → Option SoftwareSigner
  | .rsa key, offered => (allRsaSchemes.find? offered.contains).bind (rsaSigner key)
  | .p256 key, offered =>
      (ecdsaChooseScheme .ecdsaNistp256Sha256 offered).map
        (genericSigner · (crates.p256.trySignWithRng key))
  | .p384 key, offered =>
      (ecdsaChooseScheme .ecdsaNistp384Sha384 offered).map
        (genericSigner · (crates.p384.trySignWithRng key))
  | .ed25519 key, offered =>
      (ecdsaChooseScheme .ed25519 offered).map
        (genericSigner · fun _ => crates.ed25519.trySign key)

/-- The schemes of a key, by preference. -/
def SoftwareKey.schemes : SoftwareKey crates → List SignatureScheme
  | .rsa _ => allRsaSchemes
  | .p256 _ => [.ecdsaNistp256Sha256]
  | .p384 _ => [.ecdsaNistp384Sha384]
  | .ed25519 _ => [.ed25519]

/-- The crate of the key's type reads the key from the encoding. -/
inductive SoftwareKey.DecodedFrom : SoftwareKey crates → PrivateKeyDer → Prop
  | rsaPkcs8 {key der} : crates.rsa.fromPkcs8Der der = .ok key → DecodedFrom (.rsa key) (.pkcs8 der)
  | rsaPkcs1 {key der} : crates.rsa.fromPkcs1Der der = .ok key → DecodedFrom (.rsa key) (.pkcs1 der)
  | p256Pkcs8 {key der} :
      crates.p256.fromPkcs8Der der = .ok key → DecodedFrom (.p256 key) (.pkcs8 der)
  | p256Sec1 {key der} : crates.p256.fromSec1Der der = .ok key → DecodedFrom (.p256 key) (.sec1 der)
  | p384Pkcs8 {key der} :
      crates.p384.fromPkcs8Der der = .ok key → DecodedFrom (.p384 key) (.pkcs8 der)
  | p384Sec1 {key der} : crates.p384.fromSec1Der der = .ok key → DecodedFrom (.p384 key) (.sec1 der)
  | ed25519Pkcs8 {key der} :
      crates.ed25519.fromPkcs8Der der = .ok key → DecodedFrom (.ed25519 key) (.pkcs8 der)
  | ed25519Sec1 {key der} :
      crates.ed25519.fromSec1Der der = .ok key → DecodedFrom (.ed25519 key) (.sec1 der)

end Keys

/-! ## Verification -/

/-- The `alg_id`s of public keys. -/
inductive PublicKeyAlgId
  | ecdsaP256
  | ecdsaP384
  | ed25519
  | rsaEncryption
  deriving DecidableEq, Repr

/-- The `alg_id`s of signatures. -/
inductive SignatureAlgId
  | ecdsa (hash : HashAlgorithm)
  | ed25519
  | rsa (padding : RsaPadding) (hash : HashAlgorithm)
  deriving DecidableEq, Repr

/-- `SignatureVerificationAlgorithm`; every failure of `verify_signature` is `InvalidSignature`. -/
structure SignatureVerificationAlgorithm where
  publicKeyAlgId : PublicKeyAlgId
  signatureAlgId : SignatureAlgId
  verifySignature : (publicKey message signature : Bytes) → Bool

/-- `impl_generic_ecdsa_verifer!`. -/
def ecdsaVerifier (publicKeyAlgo : PublicKeyAlgId) (crate : EcdsaCrate) (hash : HashAlgorithm)
    (digest : Bytes → Bytes) : SignatureVerificationAlgorithm where
  publicKeyAlgId := publicKeyAlgo
  signatureAlgId := .ecdsa hash
  verifySignature publicKey message signature :=
    match crate.signatureFromDer signature, crate.fromSec1Bytes publicKey with
    | some signature, some verifyingKey =>
        crate.verifyPrehash verifyingKey (digest message) signature
    | _, _ => false

/-- `impl_generic_rsa_verifer!`. -/
def rsaVerifier (crate : RsaCrate) (padding : RsaPadding) (hash : HashAlgorithm) :
    SignatureVerificationAlgorithm where
  publicKeyAlgId := .rsaEncryption
  signatureAlgId := .rsa padding hash
  verifySignature publicKey message signature :=
    match crate.publicKeyFromPkcs1Der publicKey, crate.signatureTryFrom padding signature with
    | some publicKey, some signature => crate.verify padding hash publicKey message signature
    | _, _ => false

/-- `Ed25519Verify`. -/
def ed25519Verify (crate : Ed25519Crate) : SignatureVerificationAlgorithm where
  publicKeyAlgId := .ed25519
  signatureAlgId := .ed25519
  verifySignature publicKey message signature :=
    match FixedLength.ofList? 32 publicKey, crate.signatureFromSlice signature with
    | some publicKey, some signature =>
        match crate.verifyingKeyFromBytes publicKey with
        | some verifyingKey => crate.verify verifyingKey message signature
        | none => false
    | _, _ => false

/-- `WebPkiSupportedAlgorithms`. -/
structure WebPkiSupportedAlgorithms where
  all : List SignatureVerificationAlgorithm
  mapping : List (SignatureScheme × List SignatureVerificationAlgorithm)

namespace Verify

variable (crates : SignatureCrates)

def ecdsaP256Sha256 := ecdsaVerifier .ecdsaP256 crates.p256 .sha256 (crates.digest .sha256)
def ecdsaP256Sha384 := ecdsaVerifier .ecdsaP256 crates.p256 .sha384 (crates.digest .sha384)
def ecdsaP384Sha256 := ecdsaVerifier .ecdsaP384 crates.p384 .sha256 (crates.digest .sha256)
def ecdsaP384Sha384 := ecdsaVerifier .ecdsaP384 crates.p384 .sha384 (crates.digest .sha384)
def ed25519 := ed25519Verify crates.ed25519
def rsaPkcs1Sha256 := rsaVerifier crates.rsa .pkcs1v15 .sha256
def rsaPkcs1Sha384 := rsaVerifier crates.rsa .pkcs1v15 .sha384
def rsaPkcs1Sha512 := rsaVerifier crates.rsa .pkcs1v15 .sha512
def rsaPssSha256 := rsaVerifier crates.rsa .pss .sha256
def rsaPssSha384 := rsaVerifier crates.rsa .pss .sha384
def rsaPssSha512 := rsaVerifier crates.rsa .pss .sha512

/-- `ALGORITHMS`. -/
def algorithms : WebPkiSupportedAlgorithms where
  all :=
    [ecdsaP256Sha256 crates, ecdsaP256Sha384 crates, ecdsaP384Sha256 crates,
      ecdsaP384Sha384 crates, ed25519 crates, rsaPkcs1Sha256 crates, rsaPkcs1Sha384 crates,
      rsaPkcs1Sha512 crates, rsaPssSha256 crates, rsaPssSha384 crates, rsaPssSha512 crates]
  mapping :=
    [(.ecdsaNistp384Sha384, [ecdsaP384Sha384 crates, ecdsaP256Sha384 crates]),
      (.ecdsaNistp256Sha256, [ecdsaP256Sha256 crates, ecdsaP384Sha256 crates]),
      (.ed25519, [ed25519 crates]),
      (.rsaPkcs1Sha256, [rsaPkcs1Sha256 crates]),
      (.rsaPkcs1Sha384, [rsaPkcs1Sha384 crates]),
      (.rsaPkcs1Sha512, [rsaPkcs1Sha512 crates]),
      (.rsaPssSha256, [rsaPssSha256 crates]),
      (.rsaPssSha384, [rsaPssSha384 crates]),
      (.rsaPssSha512, [rsaPssSha512 crates])]

end Verify

/-!
## The callers of the table

rustls and webpki read the table; what they do with an entry is taken with its documented meaning.
-/

/-- A public key in a certificate. -/
structure SubjectPublicKey where
  algorithm : PublicKeyAlgId
  bytes : Bytes
  deriving DecidableEq, Repr

/-- The outcomes of `verify_signature` of webpki. -/
inductive SignatureCheck
  | unsupportedForPublicKey
  | invalid
  | valid
  deriving DecidableEq, Repr

/-- `verify_signature` of webpki, as documented: the algorithm has to be for the type of the public
key. -/
def SubjectPublicKey.check (subject : SubjectPublicKey)
    (algorithm : SignatureVerificationAlgorithm) (message signature : Bytes) : SignatureCheck :=
  if algorithm.publicKeyAlgId ≠ subject.algorithm then .unsupportedForPublicKey
  else if algorithm.verifySignature subject.bytes message signature then .valid else .invalid

/-- `supported_in_tls13` of rustls: the schemes that TLS 1.3 keeps. -/
def SignatureScheme.supportedInTls13 (scheme : SignatureScheme) : Bool :=
  scheme ∈ [.ecdsaNistp256Sha256, .ecdsaNistp384Sha384, .other "ECDSA_NISTP521_SHA512",
    .rsaPssSha256, .rsaPssSha384, .rsaPssSha512, .ed25519, .other "ED448"]

namespace WebPkiSupportedAlgorithms

variable (supported : WebPkiSupportedAlgorithms) (subject : SubjectPublicKey)
    (scheme : SignatureScheme) (message signature : Bytes)

/-- `convert_scheme` of rustls: the algorithms of the first entry for the scheme. -/
def convertScheme : Option (List SignatureVerificationAlgorithm) :=
  (supported.mapping.find? (·.1 = scheme)).map Prod.snd

/-- `verify_tls13_signature` of rustls accepts: TLS 1.3 uses the first algorithm of an entry
only. -/
def verifyTls13Signature : Bool :=
  scheme.supportedInTls13 &&
    match supported.convertScheme scheme with
    | some (algorithm :: _) => subject.check algorithm message signature = .valid
    | _ => false

/-- `verify_tls12_signature` of rustls accepts: the algorithms of an entry are tried in order, and
the first one for the type of the key decides. -/
def verifyTls12Signature : Bool :=
  match supported.convertScheme scheme with
  | some possible =>
      (possible.map fun algorithm => subject.check algorithm message signature).find?
        (· ≠ .unsupportedForPublicKey) = some .valid
  | none => false

end WebPkiSupportedAlgorithms

/-- The public half of a key, as its certificate has it. -/
def SoftwareKey.subjectPublicKey {crates : SignatureCrates} : SoftwareKey crates → SubjectPublicKey
  | .rsa key => ⟨.rsaEncryption, crates.rsa.subjectPublicKey key⟩
  | .p256 key => ⟨.ecdsaP256, crates.p256.subjectPublicKey key⟩
  | .p384 key => ⟨.ecdsaP384, crates.p384.subjectPublicKey key⟩
  | .ed25519 key => ⟨.ed25519, (crates.ed25519.subjectPublicKey key).toList⟩

/-- The crates behave as documented: signatures verify, and an encoding names one algorithm, so that
one crate at most reads it. -/
structure SignatureCrates.Documented (crates : SignatureCrates) : Prop where
  rsa : crates.rsa.Correct
  p256 : crates.p256.Correct (crates.digest .sha256)
  p384 : crates.p384.Correct (crates.digest .sha384)
  ed25519 : crates.ed25519.Correct
  exclusive : ∀ der (left right : SoftwareKey crates), left.DecodedFrom der →
    right.DecodedFrom der → left = right

/-! ## Loading -/

section Loading

variable {crates : SignatureCrates} {der : PrivateKeyDer} {key : SoftwareKey crates}

theorem decoded_eq_ok_iff {κ : Type} {answer : Except String κ} {value : κ} :
    decoded answer = .ok value ↔ answer = .ok value :=
  Except.mapError_eq_ok_iff

theorem rsaSigningKey_eq_ok_iff :
    rsaSigningKey crates der = .ok key ↔ ∃ inner, key = .rsa inner ∧ key.DecodedFrom der := by
  constructor
  · intro loaded
    cases der <;>
      simp only [rsaSigningKey, Except.mapError_eq_ok_iff, Except.map_eq_ok_iff,
        decoded_eq_ok_iff, reduceCtorEq, false_and, exists_false] at loaded
    · obtain ⟨inner, read, rfl⟩ := loaded
      exact ⟨inner, rfl, .rsaPkcs1 read⟩
    · obtain ⟨inner, read, rfl⟩ := loaded
      exact ⟨inner, rfl, .rsaPkcs8 read⟩
  · rintro ⟨inner, rfl, read⟩
    cases read with
    | rsaPkcs8 read => simp [rsaSigningKey, decoded_eq_ok_iff, read]
    | rsaPkcs1 read => simp [rsaSigningKey, decoded_eq_ok_iff, read]

theorem curveSigningKey_eq_ok_iff {κ : Type} {fromPkcs8Der fromSec1Der : Bytes → Except String κ}
    {refusal : String} {wrap : κ → SoftwareKey crates} :
    curveSigningKey fromPkcs8Der fromSec1Der refusal wrap der = .ok key ↔
      ∃ inner, wrap inner = key ∧ ((∃ bytes, der = .pkcs8 bytes ∧ fromPkcs8Der bytes = .ok inner) ∨
        ∃ bytes, der = .sec1 bytes ∧ fromSec1Der bytes = .ok inner) := by
  cases der <;>
    simp [curveSigningKey, decoded_eq_ok_iff, and_comm]

theorem ecdsaSigningKeyP256_eq_ok_iff :
    ecdsaSigningKeyP256 crates der = .ok key ↔
      ∃ inner, .p256 inner = key ∧ key.DecodedFrom der := by
  refine curveSigningKey_eq_ok_iff.trans (exists_congr fun inner => and_congr_right ?_)
  rintro rfl
  constructor
  · rintro (⟨bytes, rfl, read⟩ | ⟨bytes, rfl, read⟩)
    · exact .p256Pkcs8 read
    · exact .p256Sec1 read
  · intro read
    cases read with
    | p256Pkcs8 read => exact .inl ⟨_, rfl, read⟩
    | p256Sec1 read => exact .inr ⟨_, rfl, read⟩

theorem ecdsaSigningKeyP384_eq_ok_iff :
    ecdsaSigningKeyP384 crates der = .ok key ↔
      ∃ inner, .p384 inner = key ∧ key.DecodedFrom der := by
  refine curveSigningKey_eq_ok_iff.trans (exists_congr fun inner => and_congr_right ?_)
  rintro rfl
  constructor
  · rintro (⟨bytes, rfl, read⟩ | ⟨bytes, rfl, read⟩)
    · exact .p384Pkcs8 read
    · exact .p384Sec1 read
  · intro read
    cases read with
    | p384Pkcs8 read => exact .inl ⟨_, rfl, read⟩
    | p384Sec1 read => exact .inr ⟨_, rfl, read⟩

theorem ed25519SigningKey_eq_ok_iff :
    ed25519SigningKey crates der = .ok key ↔
      ∃ inner, .ed25519 inner = key ∧ key.DecodedFrom der := by
  refine curveSigningKey_eq_ok_iff.trans (exists_congr fun inner => and_congr_right ?_)
  rintro rfl
  constructor
  · rintro (⟨bytes, rfl, read⟩ | ⟨bytes, rfl, read⟩)
    · exact .ed25519Pkcs8 read
    · exact .ed25519Sec1 read
  · intro read
    cases read with
    | ed25519Pkcs8 read => exact .inl ⟨_, rfl, read⟩
    | ed25519Sec1 read => exact .inr ⟨_, rfl, read⟩

/-- A key that was loaded is one that its crate reads. -/
theorem decodedFrom_of_loaded (loaded : anySupportedType crates der = .ok key) :
    key.DecodedFrom der := by
  simp only [anySupportedType, anyEcdsaType, anyEddsaType, Except.tryCatch_eq_ok_iff] at loaded
  rcases loaded with (rsa | ⟨-, -, p256 | ⟨-, -, p384⟩⟩) | ⟨-, -, ed25519⟩
  · exact (rsaSigningKey_eq_ok_iff.mp rsa).elim fun _ read => read.2
  · exact (ecdsaSigningKeyP256_eq_ok_iff.mp p256).elim fun _ read => read.2
  · exact (ecdsaSigningKeyP384_eq_ok_iff.mp p384).elim fun _ read => read.2
  · exact (ed25519SigningKey_eq_ok_iff.mp ed25519).elim fun _ read => read.2

/-- A failure to load is a failure of all four. -/
theorem attempts_of_error {failure : RustlsError}
    (failed : anySupportedType crates der = .error failure) :
    (∃ error, rsaSigningKey crates der = .error error) ∧
      (∃ error, ecdsaSigningKeyP256 crates der = .error error) ∧
      (∃ error, ecdsaSigningKeyP384 crates der = .error error) ∧
      ed25519SigningKey crates der = .error failure := by
  simp only [anySupportedType, anyEcdsaType, anyEddsaType, Except.tryCatch_eq_error_iff] at failed
  obtain ⟨p384, ⟨rsa, noRsa, p256, noP256, noP384⟩, noEd25519⟩ := failed
  exact ⟨⟨rsa, noRsa⟩, ⟨p256, noP256⟩, ⟨p384, noP384⟩, noEd25519⟩

theorem not_decodedFrom_of_error {failure : RustlsError}
    (failed : anySupportedType crates der = .error failure) : ¬key.DecodedFrom der := by
  obtain ⟨⟨_, noRsa⟩, ⟨_, noP256⟩, ⟨_, noP384⟩, noEd25519⟩ := attempts_of_error failed
  intro read
  cases key with
  | rsa inner => cases noRsa.symm.trans (rsaSigningKey_eq_ok_iff.mpr ⟨inner, rfl, read⟩)
  | p256 inner => cases noP256.symm.trans (ecdsaSigningKeyP256_eq_ok_iff.mpr ⟨inner, rfl, read⟩)
  | p384 inner => cases noP384.symm.trans (ecdsaSigningKeyP384_eq_ok_iff.mpr ⟨inner, rfl, read⟩)
  | ed25519 inner => cases noEd25519.symm.trans (ed25519SigningKey_eq_ok_iff.mpr ⟨inner, rfl, read⟩)

/-- The order of the attempts does not matter: a key is loaded exactly when its crate reads it. -/
theorem anySupportedType_eq_ok_iff (documented : crates.Documented) :
    anySupportedType crates der = .ok key ↔ key.DecodedFrom der := by
  refine ⟨decodedFrom_of_loaded, fun read => ?_⟩
  cases loaded : anySupportedType crates der with
  | ok other => rw [documented.exclusive der other key (decodedFrom_of_loaded loaded) read]
  | error failure => exact (not_decodedFrom_of_error loaded read).elim

end Loading

/-! ## Choosing a scheme -/

section Choosing

variable {crates : SignatureCrates} {key : SoftwareKey crates} {offered : List SignatureScheme}
  {signer : SoftwareSigner}

/-- A key with one scheme signs with it when it is offered. -/
theorem ecdsaChooseScheme_map_scheme (own : SignatureScheme)
    (trySign : (random message : Bytes) → Option Bytes) :
    ((ecdsaChooseScheme own offered).map (genericSigner · trySign)).map (·.scheme) =
      [own].find? offered.contains := by
  rw [List.find?_singleton, ecdsaChooseScheme]
  split_ifs <;> rfl

theorem eq_genericSigner_of_chosen {own : SignatureScheme}
    {trySign : (random message : Bytes) → Option Bytes}
    (chosen : (ecdsaChooseScheme own offered).map (genericSigner · trySign) = some signer) :
    signer = genericSigner own trySign := by
  rw [ecdsaChooseScheme] at chosen
  split_ifs at chosen
  · exact (Option.some.inj chosen).symm
  · cases chosen

/-- Each scheme of an RSA key has a signer. -/
theorem rsaSigner_map_scheme (inner : crates.rsa.PrivateKey) {scheme : SignatureScheme}
    (known : scheme ∈ allRsaSchemes) : (rsaSigner inner scheme).map (·.scheme) = some scheme := by
  simp only [allRsaSchemes, List.mem_cons, List.not_mem_nil, or_false] at known
  rcases known with rfl | rfl | rfl | rfl | rfl | rfl <;> rfl

/-- A key signs with the first of its schemes that is offered. -/
theorem SoftwareKey.chooseScheme_map_scheme :
    (key.chooseScheme offered).map (·.scheme) = key.schemes.find? offered.contains := by
  cases key with
  | rsa inner =>
      rw [chooseScheme, schemes]
      cases found : allRsaSchemes.find? offered.contains with
      | none => rfl
      | some scheme => exact rsaSigner_map_scheme inner (List.mem_of_find?_eq_some found)
  | p256 inner => exact ecdsaChooseScheme_map_scheme _ _
  | p384 inner => exact ecdsaChooseScheme_map_scheme _ _
  | ed25519 inner => exact ecdsaChooseScheme_map_scheme _ _

theorem SoftwareKey.find?_of_chosen (chosen : key.chooseScheme offered = some signer) :
    key.schemes.find? offered.contains = some signer.scheme := by
  rw [← chooseScheme_map_scheme, chosen, Option.map_some]

theorem SoftwareKey.chooseScheme_eq_none_iff :
    key.chooseScheme offered = none ↔ ∀ scheme ∈ key.schemes, scheme ∉ offered := by
  rw [← Option.map_eq_none_iff (f := (·.scheme)), chooseScheme_map_scheme, List.find?_eq_none]
  simp only [List.contains_iff_mem]

/-- The schemes of TLS 1.3 come first. -/
theorem SoftwareKey.schemes_split :
    ∃ modern legacy, key.schemes = modern ++ legacy ∧
      (∀ scheme ∈ modern, scheme.supportedInTls13) ∧
        ∀ scheme ∈ legacy, ¬scheme.supportedInTls13 := by
  cases key with
  | rsa inner =>
      exact ⟨[.rsaPssSha512, .rsaPssSha384, .rsaPssSha256],
        [.rsaPkcs1Sha512, .rsaPkcs1Sha384, .rsaPkcs1Sha256], rfl, by decide, by decide⟩
  | p256 inner => exact ⟨[.ecdsaNistp256Sha256], [], rfl, by decide, by decide⟩
  | p384 inner => exact ⟨[.ecdsaNistp384Sha384], [], rfl, by decide, by decide⟩
  | ed25519 inner => exact ⟨[.ed25519], [], rfl, by decide, by decide⟩

/-- A key falls back to a scheme that TLS 1.3 forbids only when nothing else is offered. -/
theorem SoftwareKey.supportedInTls13_of_chosen (chosen : key.chooseScheme offered = some signer)
    {scheme : SignatureScheme} (own : scheme ∈ key.schemes) (offers : scheme ∈ offered)
    (modernScheme : scheme.supportedInTls13) : signer.scheme.supportedInTls13 := by
  obtain ⟨modern, legacy, split, supported, unsupported⟩ := key.schemes_split
  have found := find?_of_chosen chosen
  rw [split] at own found
  have inModern : scheme ∈ modern := by
    rcases List.mem_append.mp own with modern | legacy
    · exact modern
    · exact absurd modernScheme (unsupported scheme legacy)
  rw [List.find?_append] at found
  cases first : modern.find? offered.contains with
  | none =>
      have absent := List.find?_eq_none.mp first scheme inModern
      exact absurd (List.contains_iff_mem.mpr offers) absent
  | some other =>
      rw [first, Option.some_or, Option.some.injEq] at found
      rw [← found]
      exact supported other (List.mem_of_find?_eq_some first)

end Choosing

/-! ## Signatures verify -/

section Verifying

variable {crates : SignatureCrates} {message signature : Bytes}

/-- The first algorithm of the entry for the scheme is for the key and accepts the signature. -/
def VerifiedByFirst (subject : SubjectPublicKey) (scheme : SignatureScheme)
    (message signature : Bytes) (crates : SignatureCrates) : Prop :=
  ∃ algorithm others, (Verify.algorithms crates).convertScheme scheme = some (algorithm :: others) ∧
    subject.check algorithm message signature = .valid

/-- TLS 1.2 accepts what the first algorithm accepts. -/
theorem VerifiedByFirst.tls12 {subject : SubjectPublicKey} {scheme : SignatureScheme}
    (verified : VerifiedByFirst subject scheme message signature crates) :
    (Verify.algorithms crates).verifyTls12Signature subject scheme message signature := by
  obtain ⟨algorithm, others, entry, valid⟩ := verified
  simp [WebPkiSupportedAlgorithms.verifyTls12Signature, entry, valid]

/-- TLS 1.3 accepts it when the scheme is one of its own. -/
theorem VerifiedByFirst.tls13 {subject : SubjectPublicKey} {scheme : SignatureScheme}
    (verified : VerifiedByFirst subject scheme message signature crates)
    (modern : scheme.supportedInTls13) :
    (Verify.algorithms crates).verifyTls13Signature subject scheme message signature := by
  obtain ⟨algorithm, others, entry, valid⟩ := verified
  simp [WebPkiSupportedAlgorithms.verifyTls13Signature, modern, entry, valid]

theorem genericSigner_sign_eq_ok_iff {scheme : SignatureScheme}
    {trySign : (random message : Bytes) → Option Bytes} {random : Bytes} :
    (genericSigner scheme trySign).sign random message = .ok signature ↔
      trySign random message = some signature := by
  rw [genericSigner]
  dsimp only
  split <;> simp [*]

theorem SubjectPublicKey.check_eq_valid {subject : SubjectPublicKey}
    {algorithm : SignatureVerificationAlgorithm}
    (sameType : algorithm.publicKeyAlgId = subject.algorithm)
    (verifies : algorithm.verifySignature subject.bytes message signature) :
    subject.check algorithm message signature = .valid := by
  rw [check, if_neg (not_not.mpr sameType), if_pos verifies]

theorem ecdsaVerifier_verifySignature {crate : EcdsaCrate} {digest : Bytes → Bytes}
    (correct : crate.Correct digest) (algo : PublicKeyAlgId) (hash : HashAlgorithm)
    {key : crate.SigningKey} {random : Bytes}
    (signed : crate.trySignWithRng key random message = some signature) :
    (ecdsaVerifier algo crate hash digest).verifySignature (crate.subjectPublicKey key) message
      signature := by
  obtain ⟨verifyingKey, parsed, read, parses, verifies⟩ :=
    correct key random message signature signed
  simpa only [ecdsaVerifier, read, parses] using verifies

theorem rsaVerifier_verifySignature {crate : RsaCrate} (correct : crate.Correct)
    {padding : RsaPadding} {hash : HashAlgorithm} {key : crate.PrivateKey} {random : Bytes}
    (signed : crate.trySignWithRng padding hash key random message = some signature) :
    (rsaVerifier crate padding hash).verifySignature (crate.subjectPublicKey key) message
      signature := by
  obtain ⟨publicKey, parsed, read, parses, verifies⟩ :=
    correct padding hash key random message signature signed
  simpa only [rsaVerifier, read, parses] using verifies

theorem ed25519Verify_verifySignature {crate : Ed25519Crate} (correct : crate.Correct)
    {key : crate.SigningKey} (signed : crate.trySign key message = some signature) :
    (ed25519Verify crate).verifySignature (crate.subjectPublicKey key).toList message
      signature := by
  obtain ⟨verifyingKey, parsed, read, parses, verifies⟩ := correct key message signature signed
  simpa only [ed25519Verify, FixedLength.ofList?_toList, read, parses] using verifies

/-- The padding and the hash of the signer for a scheme are those of the scheme's algorithm. -/
theorem rsaSigner_verified (correct : crates.rsa.Correct) {key : crates.rsa.PrivateKey}
    {scheme : SignatureScheme} {signer : SoftwareSigner} (made : rsaSigner key scheme = some signer)
    {random : Bytes} (signed : signer.sign random message = .ok signature) :
    VerifiedByFirst ⟨.rsaEncryption, crates.rsa.subjectPublicKey key⟩ signer.scheme message
      signature crates := by
  simp only [rsaSigner] at made
  split at made <;> cases made
  all_goals
    have signed := genericSigner_sign_eq_ok_iff.mp signed
    have verifies := rsaVerifier_verifySignature correct signed
    exact ⟨_, _, rfl, SubjectPublicKey.check_eq_valid rfl verifies⟩

/-- What a key signs is accepted by the first algorithm of its scheme. -/
theorem SoftwareKey.verifiedByFirst (documented : crates.Documented) {key : SoftwareKey crates}
    {offered : List SignatureScheme} {signer : SoftwareSigner}
    (chosen : key.chooseScheme offered = some signer) {random : Bytes}
    (signed : signer.sign random message = .ok signature) :
    VerifiedByFirst key.subjectPublicKey signer.scheme message signature crates := by
  cases key with
  | rsa inner =>
      obtain ⟨scheme, -, made⟩ := Option.bind_eq_some_iff.mp chosen
      exact rsaSigner_verified documented.rsa made signed
  | p256 inner =>
      obtain rfl := eq_genericSigner_of_chosen chosen
      have signed := genericSigner_sign_eq_ok_iff.mp signed
      exact ⟨_, _, rfl, SubjectPublicKey.check_eq_valid rfl
        (ecdsaVerifier_verifySignature documented.p256 _ _ signed)⟩
  | p384 inner =>
      obtain rfl := eq_genericSigner_of_chosen chosen
      have signed := genericSigner_sign_eq_ok_iff.mp signed
      exact ⟨_, _, rfl, SubjectPublicKey.check_eq_valid rfl
        (ecdsaVerifier_verifySignature documented.p384 _ _ signed)⟩
  | ed25519 inner =>
      obtain rfl := eq_genericSigner_of_chosen chosen
      have signed := genericSigner_sign_eq_ok_iff.mp signed
      exact ⟨_, _, rfl, SubjectPublicKey.check_eq_valid rfl
        (ed25519Verify_verifySignature documented.ed25519 signed)⟩

end Verifying

/-- A key is loaded exactly when one of the four crates reads it.  It signs whenever one of its
schemes is offered, with a scheme of TLS 1.3 if one is, and the table of the provider accepts what
it signs under its public half. -/
theorem loaded_key_signs_for_own_table (crates : SignatureCrates) (documented : crates.Documented)
    (der : PrivateKeyDer) (key : SoftwareKey crates) :
    (anySupportedType crates der = .ok key ↔ key.DecodedFrom der) ∧
      ∀ offered, (key.chooseScheme offered = none ↔ ∀ scheme ∈ key.schemes, scheme ∉ offered) ∧
        ∀ signer, key.chooseScheme offered = some signer →
          signer.scheme ∈ key.schemes ∧ signer.scheme ∈ offered ∧
          ((∃ scheme ∈ key.schemes, scheme ∈ offered ∧ scheme.supportedInTls13) →
            signer.scheme.supportedInTls13) ∧
          ∀ random message signature, signer.sign random message = .ok signature →
            (Verify.algorithms crates).verifyTls12Signature key.subjectPublicKey signer.scheme
                message signature ∧
              (signer.scheme.supportedInTls13 →
                (Verify.algorithms crates).verifyTls13Signature key.subjectPublicKey signer.scheme
                  message signature) := by
  refine ⟨anySupportedType_eq_ok_iff documented, fun offered =>
    ⟨SoftwareKey.chooseScheme_eq_none_iff, fun signer chosen => ?_⟩⟩
  have found := SoftwareKey.find?_of_chosen chosen
  refine ⟨List.mem_of_find?_eq_some found, List.contains_iff_mem.mp (List.find?_some found), ?_,
    fun random message signature signed => ?_⟩
  · rintro ⟨scheme, own, offers, modern⟩
    exact SoftwareKey.supportedInTls13_of_chosen chosen own offers modern
  · have verified := SoftwareKey.verifiedByFirst documented chosen signed
    exact ⟨verified.tls12, verified.tls13⟩

/-- A key is an encoding that starts with the number of its algorithm. -/
def numberedKey (number : UInt8) (der : Bytes) : Except String Bytes :=
  if der.head? = some number then .ok der else .error "wrong algorithm"

theorem numberedKey_eq_ok_iff {number : UInt8} {der key : Bytes} :
    numberedKey number der = .ok key ↔ der.head? = some number ∧ der = key := by
  rw [numberedKey]
  split_ifs with numbered <;> simp [numbered]

/-- Crates with numbered keys whose signatures repeat the message. -/
def echoCrates : SignatureCrates :=
  let curve (number : UInt8) : EcdsaCrate :=
    { SigningKey := Bytes
      VerifyingKey := Bytes
      Signature := Bytes
      fromPkcs8Der := numberedKey number
      fromSec1Der := numberedKey number
      subjectPublicKey := id
      trySignWithRng := fun _ _ message => some message
      fromSec1Bytes := some
      signatureFromDer := some
      verifyPrehash := fun _ digest signature => digest == signature }
  { rsa :=
      { PrivateKey := Bytes
        PublicKey := Bytes
        Signature := Bytes
        fromPkcs8Der := numberedKey 0
        fromPkcs1Der := .ok
        subjectPublicKey := id
        trySignWithRng := fun _ _ _ _ message => some message
        publicKeyFromPkcs1Der := some
        signatureTryFrom := fun _ => some
        verify := fun _ _ _ message signature => message == signature }
    p256 := curve 1
    p384 := curve 2
    ed25519 :=
      { SigningKey := Bytes
        VerifyingKey := Unit
        Signature := Bytes
        fromPkcs8Der := numberedKey 3
        fromSec1Der := fun _ => .error "wrong algorithm"
        subjectPublicKey := fun _ => .replicate 32 0
        trySign := fun _ message => some message
        verifyingKeyFromBytes := fun _ => some ()
        signatureFromSlice := some
        verify := fun _ message signature => message == signature }
    digest := fun _ message => message }

/-- The key that an encoding is read as. -/
def echoKey : PrivateKeyDer → SoftwareKey echoCrates
  | .pkcs1 der => .rsa der
  | .sec1 der => if der.head? = some 1 then .p256 der else .p384 der
  | .pkcs8 der =>
      if der.head? = some 0 then .rsa der
      else if der.head? = some 1 then .p256 der
      else if der.head? = some 2 then .p384 der
      else .ed25519 der

theorem eq_echoKey {key : SoftwareKey echoCrates} {der : PrivateKeyDer}
    (read : key.DecodedFrom der) : key = echoKey der := by
  cases read with
  | rsaPkcs1 read =>
      obtain rfl := Except.ok.inj read
      rfl
  | ed25519Sec1 read => cases read
  | rsaPkcs8 read | p256Pkcs8 read | p256Sec1 read | p384Pkcs8 read | p384Sec1 read
  | ed25519Pkcs8 read =>
      obtain ⟨number, rfl⟩ := numberedKey_eq_ok_iff.mp read
      simp [echoKey, number]

theorem echoCrates_documented : echoCrates.Documented where
  rsa := by
    rintro padding hash key random message signature ⟨⟩
    exact ⟨key, message, rfl, rfl, beq_self_eq_true message⟩
  p256 := by
    rintro key random message signature ⟨⟩
    exact ⟨key, message, rfl, rfl, beq_self_eq_true message⟩
  p384 := by
    rintro key random message signature ⟨⟩
    exact ⟨key, message, rfl, rfl, beq_self_eq_true message⟩
  ed25519 := by
    rintro key message signature ⟨⟩
    exact ⟨(), message, rfl, rfl, beq_self_eq_true message⟩
  exclusive := by
    intro der left right first second
    exact (eq_echoKey first).trans (eq_echoKey second).symm

theorem loaded_key_signs_for_own_table_echo :
    anySupportedType echoCrates (.pkcs8 [1, 7]) = .ok (.p256 [1, 7]) ∧
      (Verify.algorithms echoCrates).verifyTls13Signature ⟨.ecdsaP256, [1, 7]⟩
        .ecdsaNistp256Sha256 [5] [5] := by
  obtain ⟨loads, choice⟩ := loaded_key_signs_for_own_table echoCrates echoCrates_documented
    (.pkcs8 [1, 7]) (.p256 [1, 7])
  have chosen : ((SoftwareKey.p256 [1, 7] : SoftwareKey echoCrates).chooseScheme
      [.rsaPssSha256, .ecdsaNistp256Sha256]) =
        some (genericSigner .ecdsaNistp256Sha256 (echoCrates.p256.trySignWithRng [1, 7])) := rfl
  obtain ⟨-, -, -, accepts⟩ := (choice _).2 _ chosen
  exact ⟨loads.mpr (.p256Pkcs8 rfl), (accepts [] [5] [5] rfl).2 rfl⟩

end OxiTls
