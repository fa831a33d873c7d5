import OxiTls.Pki

/-!
# The rustls interface

The part of rustls the crates build on: its errors, the `ServerCertVerifier` trait, and the
arguments rustls passes to a verifier.  A verifier may write to an intermediate cache, so its answer
carries the certificates it recorded.
-/

namespace OxiTls

/-- The `rustls::CertificateError` variants the code raises or inspects. -/
inductive CertificateError
  | revoked
  | notValidForName
  | notValidForNameContext (expected : String) (presented : List String)
  | applicationVerificationFailure
  | other (text : String)
  deriving DecidableEq, Repr

/-- The `rustls::PeerIncompatible` variant the code raises. -/
inductive PeerIncompatible
  | tls12NotOffered
  deriving DecidableEq, Repr

/-- The `rustls::Error` variants the code raises or inspects. -/
inductive RustlsError
  | invalidCertificate (reason : CertificateError)
  | peerIncompatible (reason : PeerIncompatible)
  | general (message : String)
  | other (text : String)
  deriving DecidableEq, Repr

/-- The `oxitls_core::TlsError` variants the builders and the ticketer raise. -/
inductive TlsError
  | badCert (message : String)
  | invalidConfig (message : String)
  | other (message : String)
  deriving DecidableEq, Repr

/-- The arguments of `ServerCertVerifier::verify_server_cert`. -/
structure Presented where
  endEntity : Bytes
  intermediates : List Bytes
  serverName : String
  ocspResponse : Bytes
  /-- `UnixTime`, in seconds. -/
  now : Nat
  deriving DecidableEq, Repr

/-- Identity of an `Arc<IntermediateCertCache>`. -/
structure CacheHandle where
  id : Nat
  deriving DecidableEq, Repr

/-- The answer of a verifier and the certificates it offered to a cache, in order. -/
structure Verification where
  result : Except RustlsError Unit
  recorded : List (CacheHandle × Bytes)

namespace Verification

/-- Accept without touching any cache. -/
def accept : Verification := ⟨.ok (), []⟩

/-- Refuse without touching any cache. -/
def refuse (error : RustlsError) : Verification := ⟨.error error, []⟩

@[simp] theorem result_accept : accept.result = .ok () := rfl

@[simp] theorem result_refuse (error : RustlsError) : (refuse error).result = .error error := rfl

end Verification

/-- What `verify_tls12_signature` and `verify_tls13_signature` of a verifier come to: the check of
rustls against the key of a certificate, its check against a raw public key, which is for TLS 1.3
only, or no check. -/
inductive HandshakeCheck
  | certificate
  | rawPublicKey
  | unchecked
  deriving DecidableEq, Repr

/-- A `rustls::client::danger::ServerCertVerifier`. -/
structure ServerCertVerifier where
  verifyServerCert : Presented → Verification
  requiresRawPublicKeys : Bool := false
  signatureCheck : HandshakeCheck := .certificate

namespace ServerCertVerifier

/-- The verifier answers `Ok`. -/
def Accepts (verifier : ServerCertVerifier) (presented : Presented) : Prop :=
  (verifier.verifyServerCert presented).result = .ok ()

/-- The verifier that accepts every chain. -/
def acceptAll : ServerCertVerifier where
  verifyServerCert _ := .accept

@[simp] theorem acceptAll_accepts (presented : Presented) : acceptAll.Accepts presented := rfl

end ServerCertVerifier

end OxiTls
