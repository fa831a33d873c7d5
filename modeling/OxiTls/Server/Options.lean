import OxiTls.Library.Setters
import OxiTls.Server.Stapling

/-!
# Options of a server

`tls13/server.rs` and `verifier/raw_public_key.rs`: every call of `ServerBuilder` sets one option,
and `build` prefers raw public keys to certificates on both sides of the handshake.  Calls of
different options commute; within an option the last call decides.
-/

namespace OxiTls

/-! ## Client authentication -/

/-- What a client authenticates with: the end entity and the intermediates of its certificate
message, and the signature of its `CertificateVerify` message. -/
structure ClientCertificate where
  endEntity : Bytes
  intermediates : List Bytes
  proof : HandshakeSignature
  deriving DecidableEq, Repr

/-- Chain validation by `webpki` under a set of roots. -/
abbrev ChainValidation := RootCertStore → Bytes → List Bytes → Except RustlsError Unit

/-- `RawPublicKeyClientVerifier::verify_client_cert`; the end entity is the presented public key. -/
def RawPublicKeyClientVerifier.verifyClientCert (trustedSpki : List Bytes) (endEntity : Bytes) :
    Except RustlsError Unit :=
  if trustedSpki.any (· == endEntity) then .ok ()
  else .error (.invalidCertificate .applicationVerificationFailure)

namespace ClientVerifier

/-- `client_auth_mandatory`, with which `offer_client_auth` agrees. -/
def clientAuthMandatory : ClientVerifier → Bool
  | .noClientAuth => false
  | .webPki _ => true
  | .rawPublicKeys _ => true

/-- `verify_client_cert`; `NoClientAuth` is never asked. -/
def verifyClientCert (webpki : ChainValidation) :
    ClientVerifier → Bytes → List Bytes → Except RustlsError Unit
  | .noClientAuth, _, _ => .ok ()
  | .webPki roots, endEntity, intermediates => webpki roots endEntity intermediates
  | .rawPublicKeys trusted, endEntity, _ =>
      RawPublicKeyClientVerifier.verifyClientCert trusted endEntity

/-- `verify_tls12_signature` and `verify_tls13_signature`; `NoClientAuth` is never asked. -/
def signatureCheck : ClientVerifier → HandshakeCheck
  | .noClientAuth => .unchecked
  | .webPki _ => .certificate
  | .rawPublicKeys _ => .rawPublicKey

/-- How rustls uses the verifier in a full handshake: without a mandatory check the client is let
in, otherwise it must present what the verifier accepts, with a signature that the verifier
accepts. -/
def Admits (webpki : ChainValidation) (checks : HandshakeChecks) (provider : CryptoProvider)
    (verifier : ClientVerifier) (version : ProtocolVersion)
    (presented : Option ClientCertificate) : Prop :=
  verifier.clientAuthMandatory = true →
    ∃ client, presented = some client ∧
      verifier.verifyClientCert webpki client.endEntity client.intermediates = .ok () ∧
      verifier.signatureCheck.verify checks provider version client.endEntity client.proof = .ok ()

end ClientVerifier

/-! ## One option per call -/

/-- The options. -/
inductive ServerOption
  | certificate
  | clientCertVerifier
  | provider
  | alpnProtocols
  | sniCert
  | protocolVersions
  | ticketer
  | ocspResponse
  | maxFragmentSize
  | maxEarlyDataSize
  | serverRawPublicKey
  | clientRawPublicKeys
  | keyLog
  | certCompression
  deriving DecidableEq, Repr

/-- The option that a call sets. -/
def ServerCall.option : ServerCall → ServerOption
  | .withPemCertAndKey _ _ | .withDerCertAndKey _ _ => .certificate
  | .withClientCertVerifier _ => .clientCertVerifier
  | .withProvider _ => .provider
  | .withAlpnProtocols _ => .alpnProtocols
  | .withSniCert _ _ => .sniCert
  | .withProtocolVersions _ => .protocolVersions
  | .withTicketer _ | .withAntiReplay _ | .withTicketerRotationInterval _ _ => .ticketer
  | .withOcspResponse _ | .withOcspResponseResolver _ _ => .ocspResponse
  | .withMaxFragmentSize _ => .maxFragmentSize
  | .withMaxEarlyDataSize _ => .maxEarlyDataSize
  | .withServerRawPublicKey _ => .serverRawPublicKey
  | .withClientRawPublicKeys _ => .clientRawPublicKeys
  | .withKeyLogFile _ | .withKeyLogCustom _ => .keyLog
  | .withCertCompression => .certCompression

/-- The values of an option. -/
def ServerOption.Value : ServerOption → Type
  | .certificate => Option (List Bytes) × Option PrivateKeyDer
  | .clientCertVerifier => Option RootCertStore
  | .provider => Option CryptoProvider
  | .alpnProtocols => List Bytes
  | .sniCert => List (String × ServerCertifiedKey)
  | .protocolVersions => Option (List ProtocolVersion)
  | .ticketer => ServerBuilder
  | .ocspResponse => Option Bytes
  | .maxFragmentSize | .maxEarlyDataSize => Option Nat
  | .serverRawPublicKey => Option ServerCertifiedKey
  | .clientRawPublicKeys => Option (List Bytes)
  | .keyLog => Option KeyLogPolicy
  | .certCompression => Bool

namespace TlsServerBuilder

/-- The value of an option. -/
def view : (option : ServerOption) → TlsServerBuilder → option.Value
  | .certificate, builder => (builder.certs, builder.key)
  | .clientCertVerifier, builder => builder.clientVerifierRoots
  | .provider, builder => builder.provider
  | .alpnProtocols, builder => builder.alpn
  | .sniCert, builder => builder.sniMap
  | .protocolVersions, builder => builder.protocolVersions
  | .ticketer, builder => builder.toServerBuilder
  | .ocspResponse, builder => builder.ocspResponse
  | .maxFragmentSize, builder => builder.maxFragmentSize
  | .maxEarlyDataSize, builder => builder.maxEarlyDataSize
  | .serverRawPublicKey, builder => builder.serverRawPublicKey
  | .clientRawPublicKeys, builder => builder.clientRawPublicKeys
  | .keyLog, builder => builder.keyLogPolicy
  | .certCompression, builder => builder.enableCertCompression

theorem ext_view {builder builder' : TlsServerBuilder}
    (same : ∀ option, view option builder = view option builder') : builder = builder' := by
  have certificate := same .certificate
  cases builder
  cases builder'
  rw [mk.injEq]
  exact ⟨same .ticketer, congrArg Prod.fst certificate, congrArg Prod.snd certificate,
    same .clientCertVerifier, same .alpnProtocols, same .sniCert, same .protocolVersions,
    same .ocspResponse, same .maxFragmentSize, same .maxEarlyDataSize, same .provider,
    same .serverRawPublicKey, same .clientRawPublicKeys, same .keyLog, same .certCompression⟩

variable {platform : ServerPlatform} {builder : TlsServerBuilder}

/-- Reading PEM does not look at the builder. -/
theorem withPemCertAndKey_any {certPem keyPem : Bytes} {next : TlsServerBuilder}
    (loaded : builder.withPemCertAndKey platform certPem keyPem = .ok next) :
    ∃ certs key, next = { builder with certs := some certs, key := some key } ∧
      ∀ builder' : TlsServerBuilder, builder'.withPemCertAndKey platform certPem keyPem =
        .ok { builder' with certs := some certs, key := some key } := by
  obtain ⟨certs, read, loaded⟩ := Except.bind_eq_ok_iff.mp loaded
  split at loaded
  · exact absurd loaded (by simp)
  next nonempty =>
  obtain ⟨found, keyed, loaded⟩ := Except.bind_eq_ok_iff.mp loaded
  cases found with
  | none => exact absurd loaded Except.throw_ne_ok
  | some key =>
      refine ⟨certs, key, (Except.pure_eq_ok_iff.mp loaded).symm, fun builder' => ?_⟩
      refine Except.bind_eq_ok_iff.mpr ⟨certs, read, ?_⟩
      rw [if_neg nonempty]
      exact Except.bind_eq_ok_iff.mpr ⟨some key, keyed, rfl⟩

theorem withOcspResponseResolver_eq (builder : TlsServerBuilder) (resolver : OcspResponseResolver)
    (now : Nat) :
    builder.withOcspResponseResolver resolver now =
      { builder with ocspResponse := (resolver.ocspResponse now).or builder.ocspResponse } := by
  unfold withOcspResponseResolver
  cases resolver.ocspResponse now <;> rfl

theorem independent (platform : ServerPlatform) :
    Setters.Independent (apply platform) ServerCall.option view where
  other {builder call next} applied option different := by
    cases call
    case withPemCertAndKey certPem keyPem =>
      obtain ⟨certs, key, rfl, -⟩ := withPemCertAndKey_any applied
      cases option <;> first | rfl | exact absurd rfl different
    case withAntiReplay entropy =>
      obtain ⟨ticketing, -, applied⟩ := Except.bind_eq_ok_iff.mp applied
      obtain rfl := Except.pure_eq_ok_iff.mp applied
      cases option <;> first | rfl | exact absurd rfl different
    case withOcspResponseResolver resolver now =>
      obtain rfl := Except.ok.inj applied
      simp only [withOcspResponseResolver_eq]
      cases option <;> first | rfl | exact absurd rfl different
    all_goals
      obtain rfl := Except.ok.inj applied
      cases option <;> first | rfl | exact absurd rfl different
  own {builder call next} applied builder' same := by
    cases call
    case withPemCertAndKey certPem keyPem =>
      obtain ⟨certs, key, rfl, any⟩ := withPemCertAndKey_any applied
      exact ⟨_, any builder', rfl⟩
    case withAntiReplay entropy =>
      obtain ⟨ticketing, guarded, applied⟩ := Except.bind_eq_ok_iff.mp applied
      obtain rfl := Except.pure_eq_ok_iff.mp applied
      have same : builder.toServerBuilder = builder'.toServerBuilder := same
      rw [same] at guarded
      exact ⟨_, Except.bind_eq_ok_iff.mpr ⟨ticketing, guarded, rfl⟩, rfl⟩
    case withOcspResponseResolver resolver now =>
      obtain rfl := Except.ok.inj applied
      simp only [apply, withOcspResponseResolver_eq]
      exact ⟨_, rfl, congrArg (Option.or (resolver.ocspResponse now)) same⟩
    case withTicketer ticketer =>
      obtain rfl := Except.ok.inj applied
      have same : builder.toServerBuilder = builder'.toServerBuilder := same
      exact ⟨_, rfl, congrArg (·.withTicketer ticketer) same⟩
    case withTicketerRotationInterval interval entropy =>
      obtain rfl := Except.ok.inj applied
      have same : builder.toServerBuilder = builder'.toServerBuilder := same
      exact ⟨_, rfl, congrArg (·.withTicketerRotationInterval interval entropy) same⟩
    case withSniCert serverName key =>
      obtain rfl := Except.ok.inj applied
      exact ⟨_, rfl, congrArg (· ++ [(serverName, key)]) same⟩
    all_goals
      obtain rfl := Except.ok.inj applied
      exact ⟨_, rfl, rfl⟩
  ext := ext_view

/-- The single certificate with its key. -/
def single (builder : TlsServerBuilder) : Option (List Bytes × PrivateKeyDer) :=
  builder.certs.bind fun certs => builder.key.map fun key => (certs, key)

end TlsServerBuilder

/-! ## What a call asks for -/

namespace ServerCall

def certificate (platform : ServerPlatform) : ServerCall → Option (List Bytes × PrivateKeyDer)
  | .withPemCertAndKey certPem keyPem =>
      (TlsServerBuilder.withPemCertAndKey platform {} certPem keyPem).toOption.bind
        TlsServerBuilder.single
  | .withDerCertAndKey certChain key => some (certChain, key)
  | _ => none

def clientRoots : ServerCall → Option RootCertStore
  | .withClientCertVerifier roots => some roots
  | _ => none

def provider : ServerCall → Option CryptoProvider
  | .withProvider provider => some provider
  | _ => none

def alpnProtocols : ServerCall → Option (List Bytes)
  | .withAlpnProtocols protocols => some protocols
  | _ => none

def protocolVersions : ServerCall → Option (List ProtocolVersion)
  | .withProtocolVersions versions => some versions
  | _ => none

def maxEarlyDataSize : ServerCall → Option Nat
  | .withMaxEarlyDataSize size => some size
  | _ => none

def serverRawPublicKey : ServerCall → Option ServerCertifiedKey
  | .withServerRawPublicKey key => some key
  | _ => none

def clientRawPublicKeys : ServerCall → Option (List Bytes)
  | .withClientRawPublicKeys trustedSpki => some trustedSpki
  | _ => none

def keyLogPolicy : ServerCall → Option KeyLogPolicy
  | .withKeyLogFile path => some (.file path)
  | .withKeyLogCustom logger => some (.custom logger)
  | _ => none

end ServerCall

namespace TlsServerBuilder

variable {platform : ServerPlatform} {builder : TlsServerBuilder} {calls : List ServerCall}

/-- What a call that succeeds does to the options that the last call decides. -/
structure Overwrites (platform : ServerPlatform) (builder : TlsServerBuilder) (call : ServerCall)
    (next : TlsServerBuilder) : Prop where
  single : next.single = (call.certificate platform).or builder.single
  clientVerifierRoots : next.clientVerifierRoots = call.clientRoots.or builder.clientVerifierRoots
  provider : next.provider = call.provider.or builder.provider
  alpn : some next.alpn = call.alpnProtocols.or (some builder.alpn)
  protocolVersions : next.protocolVersions = call.protocolVersions.or builder.protocolVersions
  maxEarlyDataSize : next.maxEarlyDataSize = call.maxEarlyDataSize.or builder.maxEarlyDataSize
  serverRawPublicKey :
    next.serverRawPublicKey = call.serverRawPublicKey.or builder.serverRawPublicKey
  clientRawPublicKeys :
    next.clientRawPublicKeys = call.clientRawPublicKeys.or builder.clientRawPublicKeys
  keyLogPolicy : next.keyLogPolicy = call.keyLogPolicy.or builder.keyLogPolicy

theorem overwrites_of_apply {call : ServerCall} {next : TlsServerBuilder}
    (applied : builder.apply platform call = .ok next) : Overwrites platform builder call next := by
  cases call
  case withPemCertAndKey certPem keyPem =>
    obtain ⟨certs, key, rfl, any⟩ := withPemCertAndKey_any applied
    refine ⟨?_, rfl, rfl, rfl, rfl, rfl, rfl, rfl, rfl⟩
    rw [ServerCall.certificate, any]
    rfl
  case withAntiReplay entropy =>
    obtain ⟨ticketing, -, applied⟩ := Except.bind_eq_ok_iff.mp applied
    obtain rfl := Except.pure_eq_ok_iff.mp applied
    exact ⟨rfl, rfl, rfl, rfl, rfl, rfl, rfl, rfl, rfl⟩
  case withOcspResponseResolver resolver now =>
    obtain rfl := Except.ok.inj applied
    rw [withOcspResponseResolver_eq]
    exact ⟨rfl, rfl, rfl, rfl, rfl, rfl, rfl, rfl, rfl⟩
  all_goals
    obtain rfl := Except.ok.inj applied
    exact ⟨rfl, rfl, rfl, rfl, rfl, rfl, rfl, rfl, rfl⟩

/-- An option of a configured builder is what the last call of it asked for. -/
theorem eq_last_of_configure {α : Type*} (get : TlsServerBuilder → Option α)
    (picks : ServerCall → Option α)
    (overwrites : ∀ builder call next, Overwrites platform builder call next →
      get next = (picks call).or (get builder))
    (configured : configure platform calls = .ok builder) :
    get builder = (Setters.last picks calls).or (get {}) :=
  Setters.foldlM_overwrite get picks
    (fun builder call next applied => overwrites builder call next (overwrites_of_apply applied))
    configured

end TlsServerBuilder

/-! ## The configuration that is built -/

/-- What a configuration owes to the calls. -/
structure TlsServerConfig.FollowsCalls (platform : ServerPlatform) (calls : List ServerCall)
    (config : TlsServerConfig) : Prop where
  /-- Raw public keys of clients are pinned, whatever roots are set, and a client signs with the
  key that it presents. -/
  pinned : ∀ trusted, Setters.last ServerCall.clientRawPublicKeys calls = some trusted →
    ∀ webpki checks version presented,
      config.clientVerifier.Admits webpki checks config.provider version presented ↔
        version = .tls13 ∧ ∃ client, presented = some client ∧ client.endEntity ∈ trusted ∧
          checks.rawPublicKey config.provider client.endEntity client.proof = .ok ()
  /-- Otherwise chains of clients end in the last roots, and a client signs with the key of its
  certificate. -/
  chained : Setters.last ServerCall.clientRawPublicKeys calls = none →
    ∀ roots, Setters.last ServerCall.clientRoots calls = some roots →
      ∀ webpki checks version presented,
        config.clientVerifier.Admits webpki checks config.provider version presented ↔
          ∃ client, presented = some client ∧
            webpki roots client.endEntity client.intermediates = .ok () ∧
            checks.certificate config.provider version client.endEntity client.proof = .ok ()
  anonymous : Setters.last ServerCall.clientRawPublicKeys calls = none →
    Setters.last ServerCall.clientRoots calls = none →
      ∀ webpki checks version presented,
        config.clientVerifier.Admits webpki checks config.provider version presented
  /-- A raw public key of the server is presented to every client. -/
  raw : ∀ key, Setters.last ServerCall.serverRawPublicKey calls = some key →
    ∀ name, config.certResolver.resolve name = some key
  /-- Otherwise the names that were registered decide. -/
  named : Setters.last ServerCall.serverRawPublicKey calls = none →
    calls.filterMap ServerCall.sniCert ≠ [] →
      ∀ name, config.certResolver.resolve name =
        name.bind (TlsServerBuilder.registered platform (calls.filterMap ServerCall.sniCert))
  /-- Otherwise every client gets the last certificate, with the latest staple. -/
  single : Setters.last ServerCall.serverRawPublicKey calls = none →
    calls.filterMap ServerCall.sniCert = [] →
      ∃ certChain key, Setters.last (ServerCall.certificate platform) calls =
          some (certChain, key) ∧
        ∀ name, config.certResolver.resolve name =
          some ⟨⟨certChain, key⟩, ServerCall.latestResponse calls⟩
  provider : config.provider =
    (Setters.last ServerCall.provider calls).getD platform.defaultProvider
  versions : config.versions = (Setters.last ServerCall.protocolVersions calls).getD [.tls13]
  alpn : config.alpnProtocols = (Setters.last ServerCall.alpnProtocols calls).getD []
  earlyData : config.maxEarlyDataSize = (Setters.last ServerCall.maxEarlyDataSize calls).getD 0
  keyLog : config.keyLog = Setters.last ServerCall.keyLogPolicy calls

namespace TlsServerBuilder

variable {platform : ServerPlatform} {builder : TlsServerBuilder} {calls : List ServerCall}
  {config : TlsServerConfig}

/-- The parts of a configuration. -/
theorem build_parts (built : builder.build platform = .ok config) :
    builder.buildClientVerifier platform config.provider = .ok config.clientVerifier ∧
      builder.buildCertResolver platform config.provider = .ok config.certResolver ∧
      config.provider = builder.provider.getD platform.defaultProvider ∧
      config.versions = builder.protocolVersions.getD [.tls13] ∧
      config.alpnProtocols = builder.alpn ∧
      config.maxEarlyDataSize = builder.maxEarlyDataSize.getD 0 ∧
      config.keyLog = builder.keyLogPolicy := by
  obtain ⟨_, _, built⟩ := Except.bind_eq_ok_iff.mp built
  obtain ⟨_, verifier, built⟩ := Except.bind_eq_ok_iff.mp built
  obtain ⟨_, resolver, built⟩ := Except.bind_eq_ok_iff.mp built
  obtain rfl := Except.pure_eq_ok_iff.mp built
  exact ⟨verifier, resolver, rfl, rfl, rfl, rfl, rfl⟩

section Admission

variable {webpki : ChainValidation} {checks : HandshakeChecks} {provider : CryptoProvider}
  {version : ProtocolVersion} {presented : Option ClientCertificate}

/-- Pinned keys admit exactly the clients that present one of them under TLS 1.3 and sign with
it. -/
theorem admits_rawPublicKeys_iff {trusted : List Bytes} :
    (ClientVerifier.rawPublicKeys trusted).Admits webpki checks provider version presented ↔
      version = .tls13 ∧ ∃ client, presented = some client ∧ client.endEntity ∈ trusted ∧
        checks.rawPublicKey provider client.endEntity client.proof = .ok () := by
  have accepts (endEntity : Bytes) :
      RawPublicKeyClientVerifier.verifyClientCert trusted endEntity = .ok () ↔
        endEntity ∈ trusted := by
    simp [RawPublicKeyClientVerifier.verifyClientCert]
  simp only [ClientVerifier.Admits, ClientVerifier.clientAuthMandatory, forall_const,
    ClientVerifier.verifyClientCert, accepts, ClientVerifier.signatureCheck,
    HandshakeCheck.verify_rawPublicKey_eq_ok_iff]
  constructor
  · rintro ⟨client, same, trusted, version, signed⟩
    exact ⟨version, client, same, trusted, signed⟩
  · rintro ⟨version, client, same, trusted, signed⟩
    exact ⟨client, same, trusted, version, signed⟩

theorem admits_webPki_iff {roots : RootCertStore} :
    (ClientVerifier.webPki roots).Admits webpki checks provider version presented ↔
      ∃ client, presented = some client ∧
        webpki roots client.endEntity client.intermediates = .ok () ∧
        checks.certificate provider version client.endEntity client.proof = .ok () := by
  simp only [ClientVerifier.Admits, ClientVerifier.clientAuthMandatory, forall_const,
    ClientVerifier.verifyClientCert, ClientVerifier.signatureCheck, HandshakeCheck.verify]

end Admission

/-- Without an SNI map, the resolver holds the single certificate and the response. -/
theorem singleCert_of_build {provider : CryptoProvider} {chosen : CertResolver}
    (certified : builder.serverRawPublicKey = none) (unmapped : builder.sniMap = [])
    (built : builder.buildCertResolver platform provider = .ok chosen) :
    ∃ certChain key, builder.single = some (certChain, key) ∧
      chosen = .singleCert ⟨⟨certChain, key⟩, builder.ocspResponse⟩ := by
  have empty : (!builder.sniMap.isEmpty) = false := by simpa using unmapped
  rw [buildCertResolver, certified] at built
  simp only [empty, Bool.false_eq_true, if_false] at built
  obtain ⟨certChain, hasChain, built⟩ := Except.bind_eq_ok_iff.mp built
  obtain ⟨key, hasKey, built⟩ := Except.bind_eq_ok_iff.mp built
  obtain ⟨_, _, built⟩ := Except.bind_eq_ok_iff.mp (Except.mapError_eq_ok_iff.mp built)
  obtain ⟨_, _, built⟩ := Except.bind_eq_ok_iff.mp built
  obtain rfl := Except.pure_eq_ok_iff.mp built
  refine ⟨certChain, key, ?_, rfl⟩
  cases certs : builder.certs with
  | none => exact absurd (certs ▸ hasChain) Except.throw_ne_ok
  | some chain =>
      cases held : builder.key with
      | none => exact absurd (held ▸ hasKey) Except.throw_ne_ok
      | some loaded =>
          rw [certs] at hasChain
          rw [held] at hasKey
          rw [single, certs, held, ← Except.pure_eq_ok_iff.mp hasChain,
            ← Except.pure_eq_ok_iff.mp hasKey]
          rfl

theorem followsCalls_of_build (configured : configure platform calls = .ok builder)
    (built : builder.build platform = .ok config) : config.FollowsCalls platform calls := by
  obtain ⟨verifier, resolver, provided, versions, alpn, early, logged⟩ := build_parts built
  have pins : builder.clientRawPublicKeys = Setters.last ServerCall.clientRawPublicKeys calls :=
    (eq_last_of_configure clientRawPublicKeys _ (fun _ _ _ call => call.clientRawPublicKeys)
      configured).trans Option.or_none
  have roots : builder.clientVerifierRoots = Setters.last ServerCall.clientRoots calls :=
    (eq_last_of_configure clientVerifierRoots _ (fun _ _ _ call => call.clientVerifierRoots)
      configured).trans Option.or_none
  have rawKey : builder.serverRawPublicKey = Setters.last ServerCall.serverRawPublicKey calls :=
    (eq_last_of_configure serverRawPublicKey _ (fun _ _ _ call => call.serverRawPublicKey)
      configured).trans Option.or_none
  have held : builder.single = Setters.last (ServerCall.certificate platform) calls :=
    (eq_last_of_configure single _ (fun _ _ _ call => call.single) configured).trans Option.or_none
  have entries := sniMap_of_configure configured
  rw [buildClientVerifier, pins, roots] at verifier
  constructor
  · intro trusted last webpki checks version presented
    rw [last] at verifier
    rw [← Except.pure_eq_ok_iff.mp verifier, admits_rawPublicKeys_iff]
  · intro unpinned anchors last webpki checks version presented
    rw [unpinned, last] at verifier
    obtain ⟨_, _, verifier⟩ := Except.bind_eq_ok_iff.mp verifier
    rw [← Except.pure_eq_ok_iff.mp verifier, admits_webPki_iff]
  · intro unpinned unrooted webpki checks version presented
    rw [unpinned, unrooted] at verifier
    rw [← Except.pure_eq_ok_iff.mp verifier]
    exact fun mandatory => absurd mandatory Bool.false_ne_true
  · intro key last name
    rw [buildCertResolver, rawKey, last] at resolver
    rw [← Except.pure_eq_ok_iff.mp resolver]
    rfl
  · intro certified mapped name
    rw [← rawKey] at certified
    rw [← entries] at mapped ⊢
    exact resolve_of_sniMap certified mapped resolver name
  · intro certified unmapped
    rw [← rawKey] at certified
    rw [← entries] at unmapped
    obtain ⟨certChain, key, single, chosen⟩ := singleCert_of_build certified unmapped resolver
    refine ⟨certChain, key, held ▸ single, fun name => ?_⟩
    rw [chosen, ocspResponse_of_configure configured]
    rfl
  · rw [provided, eq_last_of_configure provider _ (fun _ _ _ call => call.provider) configured,
      Option.or_none]
  · rw [versions, eq_last_of_configure protocolVersions _ (fun _ _ _ call => call.protocolVersions)
      configured, Option.or_none]
  · have last := eq_last_of_configure (fun builder => some builder.alpn) _
      (fun _ _ _ call => call.alpn) configured
    rw [alpn]
    cases picked : Setters.last ServerCall.alpnProtocols calls <;> simpa [picked] using last
  · rw [early, eq_last_of_configure maxEarlyDataSize _ (fun _ _ _ call => call.maxEarlyDataSize)
      configured, Option.or_none]
  · rw [logged, eq_last_of_configure keyLogPolicy _ (fun _ _ _ call => call.keyLogPolicy)
      configured, Option.or_none]

end TlsServerBuilder

end OxiTls
