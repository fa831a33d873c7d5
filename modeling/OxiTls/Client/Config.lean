import OxiTls.Rustls

/-!
# Client configurations

The values a client configuration is made of, and the typed stages of the rustls configuration
builder: a provider, then the protocol versions, then a verifier, then client authentication.
-/

namespace OxiTls

/-- `rustls::SupportedProtocolVersion`. -/
inductive ProtocolVersion
  | tls12
  | tls13
  deriving DecidableEq, Repr

/-- The encodings of a private key that `rustls-pki-types` distinguishes. -/
inductive PrivateKeyDer
  | pkcs1 (der : Bytes)
  | sec1 (der : Bytes)
  | pkcs8 (der : Bytes)
  deriving DecidableEq, Repr

/-- `rustls::sign::CertifiedKey`; a signing key is identified with the key it was loaded from. -/
structure CertifiedKey where
  certChain : List Bytes
  key : PrivateKeyDer
  deriving DecidableEq, Repr

/-- `rustls::client::EchMode`, with the encoded configuration it was made from. -/
inductive EchMode
  | enable (config : Bytes)
  | grease (placeholderKey : Bytes)
  deriving DecidableEq, Repr

/-- `oxitls_core::KeyLogPolicy`; a custom logger is identified by its address. -/
inductive KeyLogPolicy
  | disabled
  | file (path : String)
  | custom (logger : Nat)
  deriving DecidableEq, Repr

/-- Where session secrets go. -/
inductive KeyLogSink
  | file (path : String)
  | custom (logger : Nat)
  deriving DecidableEq, Repr

/-- The sink a policy forwards to; a disabled policy behaves like `NoKeyLog`. -/
def KeyLogPolicy.sink : KeyLogPolicy → Option KeyLogSink
  | .disabled => none
  | .file path => some (.file path)
  | .custom logger => some (.custom logger)

/-- `rustls::client::Resumption`. -/
inductive Resumption
  | disabled
  | inMemorySessions (capacity : Nat)
  deriving DecidableEq, Repr

/-- The number of sessions a resumption setting can store. -/
def Resumption.capacity : Resumption → Nat
  | .disabled => 0
  | .inMemorySessions capacity => capacity

/-- A certificate compression algorithm a configuration can carry. -/
inductive CertCompression
  | oxiArcZlib
  deriving DecidableEq, Repr

/-- A trust anchor: a name and the key that goes with it. -/
structure TrustAnchor where
  subject : Bytes
  subjectPublicKeyInfo : Bytes
  deriving DecidableEq, Repr

/-- `rustls::RootCertStore`. -/
abbrev RootCertStore := List TrustAnchor

/-- The part of a `rustls::crypto::CryptoProvider` a client configuration is built with. -/
structure CryptoProvider where
  /-- The checks of `with_protocol_versions` on the suites and groups of the provider. -/
  checkVersions : List ProtocolVersion → Except String Unit
  /-- `KeyProvider::load_private_key`. -/
  loadPrivateKey : PrivateKeyDer → Except String Unit
  /-- The consistency check of `with_client_auth_cert` between a chain and its loaded key. -/
  keysMatch : List Bytes → PrivateKeyDer → Except String Unit

/-- `rustls::DigitallySignedStruct`; a scheme is its number. -/
structure DigitallySignedStruct where
  scheme : UInt16
  sig : Bytes
  deriving DecidableEq, Repr

/-- The signature of an end over the handshake, with what it signs. -/
structure HandshakeSignature where
  message : Bytes
  dss : DigitallySignedStruct
  deriving DecidableEq, Repr

/-- The signature checks of rustls, with the algorithms of a provider. -/
structure HandshakeChecks where
  /-- `verify_tls12_signature` and `verify_tls13_signature` of the `webpki` verifiers. -/
  certificate : CryptoProvider → ProtocolVersion → (cert : Bytes) → HandshakeSignature →
    Except RustlsError Unit
  /-- `verify_tls13_signature_with_raw_key`. -/
  rawPublicKey : CryptoProvider → (spki : Bytes) → HandshakeSignature → Except RustlsError Unit

/-- `verify_tls12_signature` and `verify_tls13_signature` of a verifier. -/
def HandshakeCheck.verify (checks : HandshakeChecks) (provider : CryptoProvider) :
    HandshakeCheck → ProtocolVersion → (cert : Bytes) → HandshakeSignature → Except RustlsError Unit
  | .certificate, version, cert, proof => checks.certificate provider version cert proof
  | .rawPublicKey, .tls12, _, _ => .error (.peerIncompatible .tls12NotOffered)
  | .rawPublicKey, .tls13, cert, proof => checks.rawPublicKey provider cert proof
  | .unchecked, _, _, _ => .ok ()

@[simp]
theorem HandshakeCheck.verify_rawPublicKey_eq_ok_iff {checks : HandshakeChecks}
    {provider : CryptoProvider} {version : ProtocolVersion} {cert : Bytes}
    {proof : HandshakeSignature} :
    HandshakeCheck.rawPublicKey.verify checks provider version cert proof = .ok () ↔
      version = .tls13 ∧ checks.rawPublicKey provider cert proof = .ok () := by
  cases version <;> simp [verify]

/-- Third-party code and process-wide values the client builders rely on. -/
structure Platform where
  crates : Crates
  /-- `RootCertStore::add`: the trust anchor of a DER certificate. -/
  trustAnchor : Bytes → Except String TrustAnchor
  /-- `oxitls_webpki_roots::webpki_root_certs`. -/
  webpkiRootCerts : RootCertStore
  /-- Whether `webpki` can parse a revocation list. -/
  checkCrl : Bytes → Except String Unit
  /-- Chain and name validation by `webpki`, under the given anchors and revocation lists. -/
  webpki : CryptoProvider → RootCertStore → (crls : List Bytes) → Presented →
    Except RustlsError Unit
  /-- Whether a revocation list is authoritative for a certificate and lists its serial. -/
  crlRevokes : (crl certificate : Bytes) → Bool
  /-- `pure_provider()`. -/
  pureProvider : CryptoProvider
  /-- `pure_provider()`, or `pure_provider_with_pq()` when that feature is on. -/
  defaultProvider : CryptoProvider

/-- A provider that supports every version and loads every key. -/
def CryptoProvider.permissive : CryptoProvider where
  checkVersions _ := .ok ()
  loadPrivateKey _ := .ok ()
  keysMatch _ _ := .ok ()

/-- A platform for concrete handshakes.  A certificate is its issuer byte and its serial byte, a
revocation list is the serials it revokes, and every certificate is for `leaf.example`. -/
def Platform.miniature : Platform where
  crates := Crates.inert
  trustAnchor der := .ok ⟨der, der⟩
  webpkiRootCerts := [⟨[0], [0]⟩]
  checkCrl _ := .ok ()
  webpki _ roots crls presented :=
    if ¬ roots.any fun anchor => anchor.subject == presented.endEntity.take 1 then
      .error (.invalidCertificate (.other "UnknownIssuer"))
    else if crls.any fun crl => crl.contains (presented.endEntity.getD 1 0) then
      .error (.invalidCertificate .revoked)
    else if presented.serverName ≠ "leaf.example" then
      .error (.invalidCertificate .notValidForName)
    else .ok ()
  crlRevokes crl certificate := crl.contains (certificate.getD 1 0)
  pureProvider := .permissive
  defaultProvider := .permissive

/-- A `rustls::ClientConfig`. -/
structure ClientConfig where
  provider : CryptoProvider
  versions : List ProtocolVersion
  echMode : Option EchMode
  verifier : ServerCertVerifier
  /-- The certificate the client presents; `none` after `with_no_client_auth`. -/
  clientAuth : Option CertifiedKey
  alpnProtocols : List Bytes := []
  /-- The installed key-log bridge; `none` is rustls' `NoKeyLog`. -/
  keyLog : Option KeyLogPolicy := none
  resumption : Resumption := .inMemorySessions 256
  enableEarlyData : Bool := false
  certCompressors : List CertCompression := []
  certDecompressors : List CertCompression := []

/-- The sink that receives the session secrets of a configuration. -/
def ClientConfig.keyLogSink (config : ClientConfig) : Option KeyLogSink :=
  config.keyLog.bind KeyLogPolicy.sink

/-! ## The stages of the rustls builder -/

/-- `ConfigBuilder<ClientConfig, WantsVerifier>`. -/
structure WantsVerifier where
  provider : CryptoProvider
  versions : List ProtocolVersion
  echMode : Option EchMode

/-- `ConfigBuilder<ClientConfig, WantsClientCert>`. -/
structure WantsClientCert extends WantsVerifier where
  verifier : ServerCertVerifier

namespace CryptoProvider

variable (provider : CryptoProvider)

/-- `builder_with_provider(provider).with_protocol_versions(versions)`. -/
def withProtocolVersions (versions : List ProtocolVersion) : Except String WantsVerifier := do
  provider.checkVersions versions
  pure { provider, versions, echMode := none }

/-- `builder_with_provider(provider).with_safe_default_protocol_versions()`. -/
def withSafeDefaultProtocolVersions : Except String WantsVerifier :=
  provider.withProtocolVersions [.tls13, .tls12]

/-- `builder_with_provider(provider).with_ech(mode)`, which is limited to TLS 1.3. -/
def withEch (mode : EchMode) : Except String WantsVerifier := do
  let wants ← provider.withProtocolVersions [.tls13]
  pure { wants with echMode := some mode }

end CryptoProvider

/-- `with_custom_certificate_verifier`. -/
def WantsVerifier.withVerifier (wants : WantsVerifier) (verifier : ServerCertVerifier) :
    WantsClientCert :=
  { wants with verifier }

namespace WantsClientCert

variable (wants : WantsClientCert)

/-- `with_client_cert_resolver` for a resolver that always answers with `clientAuth`. -/
def withResolver (clientAuth : Option CertifiedKey) : ClientConfig where
  provider := wants.provider
  versions := wants.versions
  echMode := wants.echMode
  verifier := wants.verifier
  clientAuth := clientAuth

/-- `with_no_client_auth`. -/
def withNoClientAuth : ClientConfig := wants.withResolver none

/-- `with_client_auth_cert`. -/
def withClientAuthCert (certChain : List Bytes) (key : PrivateKeyDer) :
    Except String ClientConfig := do
  wants.provider.loadPrivateKey key
  wants.provider.keysMatch certChain key
  pure (wants.withResolver (some { certChain, key }))

end WantsClientCert

end OxiTls
