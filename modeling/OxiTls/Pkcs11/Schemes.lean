import OxiTls.Pkcs11.Pool
import OxiTls.Pkcs11.Signer

/-!
# The signature scheme of a PKCS#11 key

`Pkcs11SigningKey` of `signer.rs`, with the helpers of `session.rs`.  A key is probed once, for its
type; the curve of an elliptic curve key stays on the token, and the scheme is chosen by the type.
The software keys of the provider, which are bound to the scheme of their curve, are next to it.
-/

namespace OxiTls

/-! ## The token -/

/-- The curve of an elliptic curve key, which `CKA_EC_PARAMS` holds. -/
inductive EcCurve
  | p256
  | p384
  | p521
  | other (oid : ObjectIdentifier)
  deriving DecidableEq, Repr

/-- The curve that a signature scheme of TLS 1.3 signs with.  rustls knows the scheme of P-521, and
the adapter does not. -/
def SignatureScheme.curve : SignatureScheme → Option EcCurve
  | .ecdsaNistp256Sha256 => some .p256
  | .ecdsaNistp384Sha384 => some .p384
  | .other debug => if debug = "ECDSA_NISTP521_SHA512" then some .p521 else none
  | _ => none

/-- The scheme of TLS 1.3 that signs with a curve. -/
def EcCurve.scheme : EcCurve → Option SignatureScheme
  | .p256 => some .ecdsaNistp256Sha256
  | .p384 => some .ecdsaNistp384Sha384
  | .p521 => some (.other "ECDSA_NISTP521_SHA512")
  | .other _ => none

theorem curve_eq_some_iff {scheme : SignatureScheme} {curve : EcCurve} :
    scheme.curve = some curve ↔ curve.scheme = some scheme := by
  cases scheme with
  | other debug => cases curve <;> simp [SignatureScheme.curve, EcCurve.scheme, eq_comm]
  | _ => cases curve <;> simp [SignatureScheme.curve, EcCurve.scheme]

/-- No offered scheme is usable with a curve exactly when its own scheme is not offered. -/
theorem unusable_iff {curve : EcCurve} {offered : List SignatureScheme} :
    (∀ scheme ∈ offered, scheme.curve ≠ some curve) ↔
      ∀ scheme, curve.scheme = some scheme → scheme ∉ offered := by
  constructor
  · intro unusable scheme own present
    exact unusable scheme present (curve_eq_some_iff.mpr own)
  · intro absent scheme present usable
    exact absent scheme (curve_eq_some_iff.mp usable) present

/-- The `cryptoki::object::KeyType`s the code tells apart; any other one is known by its debug
text. -/
inductive KeyType
  | ec
  | rsa
  | other (debug : String)
  deriving DecidableEq, Repr

/-- The `cryptoki::object::Attribute`s the code tells apart. -/
inductive Attribute
  | keyType (keyType : KeyType)
  | other
  deriving DecidableEq, Repr

/-- A session with a token, given what the token answers.  Handles are numbers. -/
structure TokenSession where
  /-- `find_objects` for private keys with a label. -/
  findObjects : (label : String) → Except String (List Nat)
  /-- `get_attributes` for the key type. -/
  getAttributes : (handle : Nat) → Except String (List Attribute)
  /-- The curves of the elliptic curve keys. -/
  ecParams : (handle : Nat) → EcCurve

/-- `Display` of `PkcsSignError`. -/
def PkcsSignError.display : PkcsSignError → String
  | .sessionError message => "PKCS#11 session error: " ++ message
  | .keyNotFound label => "PKCS#11 key not found for label: " ++ label
  | .signError message => "PKCS#11 sign error: " ++ message
  | .invalidSignatureLength expected got =>
      "PKCS#11 invalid signature length: expected " ++ toString expected ++ ", got " ++ toString got

section Session

variable (session : TokenSession)

/-- `find_private_key_by_label`. -/
def findPrivateKeyByLabel (label : String) : Except PkcsSignError Nat := do
  let handles ← (session.findObjects label).mapError fun failure =>
    .keyNotFound ("find_objects failed: " ++ failure)
  match handles with
  | handle :: _ => .ok handle
  | [] => .error (.keyNotFound label)

/-- The key type of an attribute. -/
def Attribute.asKeyType : Attribute → Option KeyType
  | .keyType kt => some kt
  | .other => none

/-- `probe_key_type`. -/
def probeKeyType (handle : Nat) : Except PkcsSignError KeyType := do
  let attrs ← (session.getAttributes handle).mapError fun failure =>
    .sessionError ("get_attributes failed: " ++ failure)
  match attrs.findSome? Attribute.asKeyType with
  | some kt => .ok kt
  | none => .error (.sessionError "CKA_KEY_TYPE attribute not found on private key")

end Session

/-- `key_type_to_algorithm`. -/
def keyTypeToAlgorithm : KeyType → Except PkcsSignError SignatureAlgorithm
  | .ec => .ok .ecdsa
  | .rsa => .ok .rsa
  | .other debug => .error (.keyNotFound ("unsupported PKCS#11 key type: " ++ debug))

/-! ## Signing keys -/

/-- The `Pkcs11Error`s that the construction of a key raises: those of the pool, and others. -/
inductive SigningKeyError
  | pool (error : Pkcs11Error)
  | keyNotFound (message : String)
  | signError (message : String)
  | other (message : String)
  deriving DecidableEq, Repr

/-- `From<PkcsSignError> for Pkcs11Error`. -/
def SigningKeyError.ofSignError : PkcsSignError → SigningKeyError
  | .sessionError message => .pool (.sessionError message)
  | .keyNotFound message => .keyNotFound message
  | .signError message => .signError message
  | .invalidSignatureLength expected got =>
      .signError ("invalid ECDSA signature length: expected " ++ toString expected ++ ", got " ++
        toString got)

/-- The errors of `new_direct`: `PkcsSignError::InitError`, and the others. -/
inductive DirectKeyError
  | initError (message : String)
  | sign (error : PkcsSignError)
  deriving DecidableEq, Repr

/-- `SigningKeyBackend`, over session pools and loaded modules. -/
inductive SigningKeyBackend (Pool Module : Type)
  | pool (pool : Pool)
  | direct (pkcs11 : Module) (slot : Nat) (pin : String)

/-- `Pkcs11SigningKey`. -/
structure Pkcs11SigningKey (Pool Module : Type) where
  backend : SigningKeyBackend Pool Module
  keyLabel : String
  algorithm : SignatureAlgorithm

/-- `Pkcs11PooledSigner` and `Pkcs11Signer`, by their backend. -/
structure Pkcs11Signer (Pool Module : Type) where
  backend : SigningKeyBackend Pool Module
  keyLabel : String
  scheme : SignatureScheme

/-- A PKCS#11 library. -/
structure Cryptoki (Module : Type) where
  /-- `Pkcs11::new` of a path. -/
  load : String → Except String Module
  /-- `C_Initialize`. -/
  cInitialize : Module → Except String Unit
  openRoSession : Module → (slot : Nat) → Except String TokenSession
  login : TokenSession → (pin : String) → Except String Unit

/-- `open_user_session`. -/
def openUserSession {Module : Type} (cryptoki : Cryptoki Module) (pkcs11 : Module) (slot : Nat)
    (pin : String) : Except PkcsSignError TokenSession := do
  let session ← (cryptoki.openRoSession pkcs11 slot).mapError .sessionError
  (cryptoki.login session pin).mapError fun failure => .sessionError ("login failed: " ++ failure)
  pure session

namespace Pkcs11SigningKey

variable {Pool Module : Type}

/-- `Pkcs11SigningKey::new`, given what `acquire` answers. -/
def new (pool : Pool) (acquire : Except Pkcs11Error TokenSession) (keyLabel : String) :
    Except SigningKeyError (Pkcs11SigningKey Pool Module) := do
  let session ← acquire.mapError .pool
  let handle ← (findPrivateKeyByLabel session keyLabel).mapError SigningKeyError.ofSignError
  let kt ← (probeKeyType session handle).mapError SigningKeyError.ofSignError
  let algorithm ← (keyTypeToAlgorithm kt).mapError fun failure =>
    .other ("unsupported key type: " ++ failure.display)
  pure ⟨.pool pool, keyLabel, algorithm⟩

/-- `Pkcs11SigningKey::new_direct`. -/
def newDirect (cryptoki : Cryptoki Module) (modulePath : String) (slot : Nat)
    (pin keyLabel : String) : Except DirectKeyError (Pkcs11SigningKey Pool Module) := do
  let pkcs11 ← (cryptoki.load modulePath).mapError .initError
  (cryptoki.cInitialize pkcs11).mapError fun failure =>
    .initError ("C_Initialize failed: " ++ failure)
  let session ← (openUserSession cryptoki pkcs11 slot pin).mapError .sign
  let handle ← (findPrivateKeyByLabel session keyLabel).mapError .sign
  let kt ← (probeKeyType session handle).mapError .sign
  let algorithm ← (keyTypeToAlgorithm kt).mapError .sign
  pure ⟨.direct pkcs11 slot pin, keyLabel, algorithm⟩

/-- `choose_scheme`. -/
def chooseScheme (key : Pkcs11SigningKey Pool Module) (offered : List SignatureScheme) :
    Option (Pkcs11Signer Pool Module) :=
  ((preferredSchemes key.algorithm).find? offered.contains).map fun scheme =>
    ⟨key.backend, key.keyLabel, scheme⟩

/-- The key was built for the private key of this handle, over either backend. -/
inductive BuiltFor (session : TokenSession) (handle : Nat) (key : Pkcs11SigningKey Pool Module) :
    Prop
  | pooled (pool : Pool) (label : String) (built : new pool (.ok session) label = .ok key)
      (found : findPrivateKeyByLabel session label = .ok handle)
  | direct (cryptoki : Cryptoki Module) (modulePath : String) (pkcs11 : Module) (slot : Nat)
      (pin label : String) (loaded : cryptoki.load modulePath = .ok pkcs11)
      (opened : openUserSession cryptoki pkcs11 slot pin = .ok session)
      (built : newDirect cryptoki modulePath slot pin label = .ok key)
      (found : findPrivateKeyByLabel session label = .ok handle)

/-- A key is of the algorithm of the type that was probed. -/
theorem BuiltFor.algorithm_eq {session : TokenSession} {handle : Nat}
    {key : Pkcs11SigningKey Pool Module} {keyType : KeyType} (built : key.BuiltFor session handle)
    (probed : probeKeyType session handle = .ok keyType) :
    keyTypeToAlgorithm keyType = .ok key.algorithm := by
  cases built with
  | pooled pool label built found =>
      simp only [new, Except.bind_eq_ok_iff, Except.mapError_eq_ok_iff,
        Except.pure_eq_ok_iff, Except.ok.injEq] at built
      obtain ⟨_, rfl, other, again, kt, probedAgain, algorithm, known, rfl⟩ := built
      obtain rfl := Except.ok_unique found again
      obtain rfl := Except.ok_unique probed probedAgain
      exact known
  | direct cryptoki modulePath pkcs11 slot pin label loaded opened built found =>
      simp only [newDirect, Except.bind_eq_ok_iff, Except.mapError_eq_ok_iff,
        Except.pure_eq_ok_iff] at built
      obtain ⟨_, loadedAgain, -, -, _, openedAgain, other, again, kt, probedAgain, algorithm, known,
        rfl⟩ := built
      obtain rfl := Except.ok_unique loaded loadedAgain
      obtain rfl := Except.ok_unique opened openedAgain
      obtain rfl := Except.ok_unique found again
      obtain rfl := Except.ok_unique probed probedAgain
      exact known

/-! ## Own curves -/

/-- What is chosen is offered and of the curve of the key, and when nothing is chosen no offered
scheme is usable with the key. -/
def SignsOnCurve (curve : EcCurve) (offered : List SignatureScheme)
    (chosen : Option SignatureScheme) : Prop :=
  match chosen with
  | some scheme => scheme ∈ offered ∧ scheme.curve = some curve
  | none => ∀ scheme ∈ offered, scheme.curve ≠ some curve

/-- The offers that a key of the curve can be used with: the P-384 scheme is preferred, whatever the
curve, and then the P-256 scheme, and there is no other. -/
def MeetsOffer (offered : List SignatureScheme) : EcCurve → Prop
  | .p256 => .ecdsaNistp384Sha384 ∉ offered
  | .p384 => .ecdsaNistp384Sha384 ∈ offered ∨ .ecdsaNistp256Sha256 ∉ offered
  | .p521 => .ecdsaNistp384Sha384 ∉ offered ∧ .ecdsaNistp256Sha256 ∉ offered ∧
      .other "ECDSA_NISTP521_SHA512" ∉ offered
  | .other _ => .ecdsaNistp384Sha384 ∉ offered ∧ .ecdsaNistp256Sha256 ∉ offered

/-- The scheme of an elliptic curve key is the first one of P-384 and P-256 that is offered. -/
theorem scheme_chooseScheme {key : Pkcs11SigningKey Pool Module} (ecdsa : key.algorithm = .ecdsa)
    (offered : List SignatureScheme) :
    (key.chooseScheme offered).map Pkcs11Signer.scheme =
      if .ecdsaNistp384Sha384 ∈ offered then some .ecdsaNistp384Sha384
      else if .ecdsaNistp256Sha256 ∈ offered then some .ecdsaNistp256Sha256
      else none := by
  rw [chooseScheme, ecdsa, preferredSchemes, Option.map_map]
  split_ifs with p384 p256
  · simp [p384]
  · simp [p384, p256]
  · simp [p384, p256]

/-- A key of the token signs on its own curve exactly with the offers that its curve can be used
with. -/
theorem signsOnCurve_iff {session : TokenSession} {handle : Nat}
    {key : Pkcs11SigningKey Pool Module} (built : key.BuiltFor session handle)
    (ec : probeKeyType session handle = .ok .ec) (offered : List SignatureScheme) :
    SignsOnCurve (session.ecParams handle) offered
        ((key.chooseScheme offered).map Pkcs11Signer.scheme) ↔
      MeetsOffer offered (session.ecParams handle) := by
  have ecdsa : key.algorithm = .ecdsa := (Except.ok.inj (built.algorithm_eq ec)).symm
  rw [scheme_chooseScheme ecdsa]
  generalize session.ecParams handle = curve
  split_ifs with p384 p256
  · cases curve <;> simp [SignsOnCurve, MeetsOffer, SignatureScheme.curve, p384]
  · cases curve <;> simp [SignsOnCurve, MeetsOffer, SignatureScheme.curve, p384, p256]
  · rw [SignsOnCurve, unusable_iff]
    cases curve <;> simp [MeetsOffer, EcCurve.scheme, p384, p256]

/-- A token with one elliptic curve key. -/
def oneKeyToken (curve : EcCurve) : TokenSession where
  findObjects _ := .ok [1]
  getAttributes _ := .ok [.keyType .ec]
  ecParams _ := curve

/-- The signing key for it. -/
def oneKey : Pkcs11SigningKey Unit Unit := ⟨.pool (), "tls", .ecdsa⟩

theorem signsOnCurve_iff_p256_offer :
    SignsOnCurve .p256 [.ecdsaNistp256Sha256]
      ((oneKey.chooseScheme [.ecdsaNistp256Sha256]).map Pkcs11Signer.scheme) := by
  have built : oneKey.BuiltFor (oneKeyToken .p256) 1 := .pooled () "tls" rfl rfl
  apply (signsOnCurve_iff built rfl [.ecdsaNistp256Sha256]).mpr
  change SignatureScheme.ecdsaNistp384Sha384 ∉ [SignatureScheme.ecdsaNistp256Sha256]
  decide

/-- A P-256 key signs with the P-384 scheme when both are offered, and a P-521 key with the P-256
scheme. -/
theorem p256_key_not_signsOnCurve :
    oneKey.BuiltFor (oneKeyToken .p256) 1 ∧ oneKey.BuiltFor (oneKeyToken .p521) 1 ∧
    ¬SignsOnCurve .p256 [.ecdsaNistp256Sha256, .ecdsaNistp384Sha384]
      ((oneKey.chooseScheme [.ecdsaNistp256Sha256, .ecdsaNistp384Sha384]).map
        Pkcs11Signer.scheme) ∧
    ¬SignsOnCurve .p521 [.ecdsaNistp256Sha256]
      ((oneKey.chooseScheme [.ecdsaNistp256Sha256]).map Pkcs11Signer.scheme) := by
  refine ⟨.pooled () "tls" rfl rfl, .pooled () "tls" rfl rfl, ?_, ?_⟩
  · rintro ⟨-, curve⟩
    exact absurd curve (by decide)
  · rintro ⟨-, curve⟩
    exact absurd curve (by decide)

end Pkcs11SigningKey

/-! ## Software keys -/

/-- `choose_scheme` of the ECDSA keys of the provider, which hold the scheme of their curve. -/
def ecdsaChooseScheme (own : SignatureScheme) (offered : List SignatureScheme) :
    Option SignatureScheme :=
  if offered.contains own then some own else none

/-- A key that is bound to the scheme of its curve signs on its curve with every offer. -/
theorem ecdsa_signsOnCurve {curve : EcCurve} {own : SignatureScheme}
    (bound : curve.scheme = some own) (offered : List SignatureScheme) :
    Pkcs11SigningKey.SignsOnCurve curve offered (ecdsaChooseScheme own offered) := by
  rw [ecdsaChooseScheme]
  split_ifs with present
  · exact ⟨List.contains_iff_mem.mp present, curve_eq_some_iff.mpr bound⟩
  · rw [Pkcs11SigningKey.SignsOnCurve, unusable_iff]
    intro scheme own_scheme offers
    rw [bound] at own_scheme
    obtain rfl := Option.some.inj own_scheme
    exact present (List.contains_iff_mem.mpr offers)

end OxiTls
