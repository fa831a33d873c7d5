import Mathlib.Logic.Unique
import OxiTls.Client.Config

/-!
# Verifiers a client configuration is assembled from

`pin.rs`, `crl.rs`, `custom.rs`, `raw_public_key.rs` and `danger.rs`, together with the `webpki`
verifier they wrap.  Each wrapper is characterised by the chains it accepts and by what it offers
to an intermediate cache.
-/

namespace OxiTls

/-! ## The `webpki` verifier -/

namespace Platform

variable (platform : Platform)

/-- A built `WebPkiServerVerifier`. -/
def webpkiServerVerifier (provider : CryptoProvider) (roots : RootCertStore)
    (crls : List Bytes) : ServerCertVerifier where
  verifyServerCert presented := ⟨platform.webpki provider roots crls presented, []⟩

/-- `WebPkiServerVerifier::builder_with_provider(..).with_crls(..).build()`. -/
def buildWebpki (provider : CryptoProvider) (roots : RootCertStore) (crls : List Bytes) :
    Except String ServerCertVerifier :=
  if roots.isEmpty then .error "no root trust anchors were provided"
  else do
    (crls.forM platform.checkCrl).mapError
      fun e => "provided CRL could not be parsed: " ++ e
    pure (platform.webpkiServerVerifier provider roots crls)

/-- `CrlAwareServerVerifier::new`. -/
def crlAwareServerVerifier (roots : RootCertStore) (crls : List Bytes) :
    Except TlsError ServerCertVerifier :=
  (platform.buildWebpki platform.pureProvider roots crls).mapError
    fun e => .invalidConfig ("CRL verifier: " ++ e)

@[simp]
theorem webpkiServerVerifier_accepts_iff {provider : CryptoProvider} {roots : RootCertStore}
    {crls : List Bytes} {presented : Presented} :
    (platform.webpkiServerVerifier provider roots crls).Accepts presented ↔
      platform.webpki provider roots crls presented = .ok () :=
  Iff.rfl

/-- A built `webpki` verifier has anchors and validates under exactly the given inputs. -/
theorem buildWebpki_eq_ok_iff {provider : CryptoProvider} {roots : RootCertStore}
    {crls : List Bytes} {verifier : ServerCertVerifier} :
    platform.buildWebpki provider roots crls = .ok verifier ↔
      roots ≠ [] ∧ crls.forM platform.checkCrl = .ok () ∧
        verifier = platform.webpkiServerVerifier provider roots crls := by
  cases roots with
  | nil => simp [buildWebpki]
  | cons anchor anchors => simp [buildWebpki, Unique.exists_iff, eq_comm (a := verifier)]

end Platform

/-! ## Certificate pinning -/

/-- `CertPinVerifier`. -/
structure CertPinVerifier where
  pinned : List Digest
  inner : ServerCertVerifier

namespace CertPinVerifier

variable (crates : Crates) (verifier : CertPinVerifier)

def verifyServerCert (presented : Presented) : Verification :=
  let fingerprint := crates.sha256 presented.endEntity
  if fingerprint ∉ verifier.pinned then
    .refuse (.invalidCertificate .applicationVerificationFailure)
  else verifier.inner.verifyServerCert presented

/-- The verifier as rustls sees it. -/
def toVerifier : ServerCertVerifier where
  verifyServerCert := verifier.verifyServerCert crates
  signatureCheck := verifier.inner.signatureCheck

@[simp]
theorem accepts_iff {presented : Presented} :
    (verifier.toVerifier crates).Accepts presented ↔
      crates.sha256 presented.endEntity ∈ verifier.pinned ∧ verifier.inner.Accepts presented := by
  by_cases member : crates.sha256 presented.endEntity ∈ verifier.pinned <;>
    simp [ServerCertVerifier.Accepts, toVerifier, verifyServerCert, member]

end CertPinVerifier

/-! ## The intermediate cache -/

/-- `CustomServerVerifier` with the predicate the adapter installs: after the inner verifier has
accepted, every intermediate is offered to the cache and the chain is accepted. -/
structure CachingVerifier where
  inner : ServerCertVerifier
  cache : CacheHandle

namespace CachingVerifier

variable (verifier : CachingVerifier)

def verifyServerCert (presented : Presented) : Verification :=
  let verification := verifier.inner.verifyServerCert presented
  match verification.result with
  | .error error => ⟨.error error, verification.recorded⟩
  | .ok () =>
      ⟨.ok (), verification.recorded ++
        presented.intermediates.map fun cert => (verifier.cache, cert)⟩

/-- The verifier as rustls sees it. -/
def toVerifier : ServerCertVerifier where
  verifyServerCert := verifier.verifyServerCert
  signatureCheck := verifier.inner.signatureCheck

@[simp]
theorem accepts_iff {presented : Presented} :
    verifier.toVerifier.Accepts presented ↔ verifier.inner.Accepts presented := by
  unfold ServerCertVerifier.Accepts toVerifier verifyServerCert
  dsimp only
  cases (verifier.inner.verifyServerCert presented).result <;> simp

end CachingVerifier

/-! ## Raw public keys -/

/-- `RawPublicKeyServerVerifier`; the end entity is the presented public key. -/
structure RawPublicKeyServerVerifier where
  trustedSpki : List Bytes

namespace RawPublicKeyServerVerifier

variable (verifier : RawPublicKeyServerVerifier)

def verifyServerCert (presented : Presented) : Verification :=
  if verifier.trustedSpki.any fun pin => pin == presented.endEntity then .accept
  else .refuse (.invalidCertificate .applicationVerificationFailure)

/-- The verifier as rustls sees it. -/
def toVerifier : ServerCertVerifier where
  verifyServerCert := verifier.verifyServerCert
  requiresRawPublicKeys := true
  signatureCheck := .rawPublicKey

@[simp]
theorem accepts_iff {presented : Presented} :
    verifier.toVerifier.Accepts presented ↔ presented.endEntity ∈ verifier.trustedSpki := by
  by_cases member : presented.endEntity ∈ verifier.trustedSpki <;>
    simp [ServerCertVerifier.Accepts, toVerifier, verifyServerCert, member]

end RawPublicKeyServerVerifier

/-! ## Danger verifiers -/

/-- Whether an error only reports that the name does not match. -/
def RustlsError.isNameMismatch : RustlsError → Bool
  | .invalidCertificate .notValidForName => true
  | .invalidCertificate (.notValidForNameContext _ _) => true
  | _ => false

/-- `DangerHostnameIgnoreVerifier`. -/
structure DangerHostnameIgnoreVerifier where
  inner : ServerCertVerifier

namespace DangerHostnameIgnoreVerifier

variable (verifier : DangerHostnameIgnoreVerifier)

def verifyServerCert (presented : Presented) : Verification :=
  let verification := verifier.inner.verifyServerCert presented
  match verification.result with
  | .ok () => verification
  | .error error =>
      if error.isNameMismatch then ⟨.ok (), verification.recorded⟩ else verification

/-- The verifier as rustls sees it. -/
def toVerifier : ServerCertVerifier where
  verifyServerCert := verifier.verifyServerCert
  signatureCheck := verifier.inner.signatureCheck

/-- A chain is accepted when it validates up to the name. -/
theorem accepts_iff {presented : Presented} :
    verifier.toVerifier.Accepts presented ↔
      verifier.inner.Accepts presented ∨
        ∃ error, (verifier.inner.verifyServerCert presented).result = .error error ∧
          error.isNameMismatch = true := by
  unfold ServerCertVerifier.Accepts toVerifier verifyServerCert
  cases answer : (verifier.inner.verifyServerCert presented).result with
  | ok value => simp [answer]
  | error error =>
      by_cases mismatch : error.isNameMismatch = true <;> simp [answer, mismatch]

end DangerHostnameIgnoreVerifier

/-- `DangerousNoCertVerifier`. -/
def dangerousNoCertVerifier : ServerCertVerifier where
  verifyServerCert _ := .accept
  signatureCheck := .unchecked

@[simp]
theorem dangerousNoCertVerifier_accepts (presented : Presented) :
    dangerousNoCertVerifier.Accepts presented := rfl

end OxiTls
