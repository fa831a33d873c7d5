import OxiTls.Client.Calls
import OxiTls.Server.Options

/-!
# A client meets a server

What the configurations of `tls13/client.rs` and of `tls13/server.rs` decide in one handshake of
rustls: the resolver of the server picks a key, the verifier of the client decides on its chain and
on its signature, and the verifier of the server decides on what the client presents.  The calls on
the two builders decide what the ends offer and whether they accept each other.
-/

namespace OxiTls

/-! ## The handshake -/

/-- What a client connects with.  The server name is sent when it is a DNS name. -/
structure Hello where
  serverName : String
  isDnsName : Bool := true
  now : Nat
  deriving DecidableEq, Repr

/-- The server name indication. -/
def Hello.sni (hello : Hello) : Option String :=
  if hello.isDnsName then some hello.serverName else none

/-- What comes out of a handshake before the ends decide on each other: the version, and the
signatures that they make. -/
structure Flight where
  version : ProtocolVersion
  server : HandshakeSignature
  client : HandshakeSignature
  deriving DecidableEq, Repr

/-- `only_raw_public_keys` of the server's resolvers. -/
def CertResolver.onlyRawPublicKeys : CertResolver → Bool
  | .rawPublicKey _ => true
  | .usingSni _ | .singleCert _ => false

/-- `requires_raw_public_keys` of the server's verifiers. -/
def ClientVerifier.requiresRawPublicKeys : ClientVerifier → Bool
  | .rawPublicKeys _ => true
  | .noClientAuth | .webPki _ => false

/-- The certificate message of a chain: the end entity and the intermediates. -/
def CertifiedKey.message (key : CertifiedKey) : Option (Bytes × List Bytes) :=
  match key.certChain with
  | [] => none
  | endEntity :: intermediates => some (endEntity, intermediates)

/-- What the client's verifier is given of the key that the server resolved. -/
def ServerCertifiedKey.presented (key : ServerCertifiedKey) (hello : Hello) : Option Presented :=
  key.message.map fun (endEntity, intermediates) =>
    { endEntity, intermediates
      serverName := hello.serverName
      ocspResponse := key.ocsp.getD []
      now := hello.now }

/-- What the client presents, with its signature. -/
def ClientConfig.presented (client : ClientConfig) (proof : HandshakeSignature) :
    Option ClientCertificate :=
  (client.clientAuth.bind CertifiedKey.message).map fun (endEntity, intermediates) =>
    ⟨endEntity, intermediates, proof⟩

/-- The two ends accept each other, with the key that the server presents.  The types of the
certificates must be those that the verifiers require, and a client built here has no raw public key
to present. -/
structure Authenticates (webpki : ChainValidation) (checks : HandshakeChecks)
    (client : ClientConfig) (server : TlsServerConfig) (hello : Hello) (flight : Flight)
    (key : ServerCertifiedKey) : Prop where
  serverType : client.verifier.requiresRawPublicKeys = server.certResolver.onlyRawPublicKeys
  clientType : server.clientVerifier.requiresRawPublicKeys = false
  resolved : server.certResolver.resolve hello.sni = some key
  accepted : ∃ presented, key.presented hello = some presented ∧
    client.verifier.Accepts presented ∧
    client.verifier.signatureCheck.verify checks client.provider flight.version
      presented.endEntity flight.server = .ok ()
  admitted : server.clientVerifier.Admits webpki checks server.provider flight.version
    (client.presented flight.client)

/-! ## What the client contributes -/

namespace ClientBuilder

variable (builder : ClientBuilder)

instance : Decidable builder.TakesAdapter :=
  inferInstanceAs (Decidable (_ ∧ _ ∧ _ ∧ _))

/-- The versions that the built client offers; the adapter path offers both. -/
def offeredVersions : List ProtocolVersion :=
  if builder.TakesAdapter then [.tls13, .tls12] else builder.allowedVersions

/-- The chain that the built client presents; the adapter path presents none. -/
def offeredIdentity : Option CertifiedKey :=
  if builder.TakesAdapter then none else builder.identity

/-- The ECH mode of the built client; the adapter path drops it. -/
def offeredEch : Option EchMode :=
  if builder.TakesAdapter then none else builder.echMode

/-- The protocols that the built client announces; `h3` is reserved on three of the five paths. -/
def offeredAlpn : List Bytes :=
  if builder.TakesAdapter ∨ builder.serverRawPublicKeys ≠ none then builder.alpn
  else builder.announcedAlpn

/-- How the built client checks the signature of the server. -/
def offeredCheck : HandshakeCheck :=
  if builder.serverRawPublicKeys.isSome then .rawPublicKey
  else if builder.dangerAcceptInvalidCerts then .unchecked
  else .certificate

/-- The provider of the built client; the adapter path has its own. -/
def offeredProvider (platform : Platform) : CryptoProvider :=
  if builder.TakesAdapter then platform.pureProvider else builder.resolvedProvider platform

variable {builder} {platform : Platform} {config : ClientConfig}

/-- The verifier stack of the adapter asks for certificates, and checks signatures as the `webpki`
verifier at its bottom does. -/
theorem certified_adapted {roots : RootCertStore} {base : ServerCertVerifier}
    (based : (builder.adapter roots).baseVerifier platform = .ok base) :
    (builder.adapted platform roots base).verifier.requiresRawPublicKeys = false ∧
      (builder.adapted platform roots base).verifier.signatureCheck = .certificate := by
  have bottom : base.requiresRawPublicKeys = false ∧ base.signatureCheck = .certificate := by
    unfold RustcryptoClientConfigBuilder.baseVerifier at based
    split_ifs at based
    · simp only [Except.bind_eq_ok_iff, Except.mapError_eq_ok_iff, Platform.buildWebpki_eq_ok_iff,
        Except.pure_eq_ok_iff] at based
      obtain ⟨_, ⟨_, _, rfl⟩, rfl⟩ := based
      exact ⟨rfl, rfl⟩
    · simp only [Platform.crlAwareServerVerifier, Except.mapError_eq_ok_iff,
        Platform.buildWebpki_eq_ok_iff] at based
      obtain ⟨_, _, rfl⟩ := based
      exact ⟨rfl, rfl⟩
    · simp only [Except.mapError_eq_ok_iff, Platform.buildWebpki_eq_ok_iff] at based
      obtain ⟨_, _, rfl⟩ := based
      exact ⟨rfl, rfl⟩
  have cached : ((builder.adapter roots).cacheVerifier base).requiresRawPublicKeys = false ∧
      ((builder.adapter roots).cacheVerifier base).signatureCheck = .certificate := by
    unfold RustcryptoClientConfigBuilder.cacheVerifier
    split
    · exact ⟨rfl, bottom.2⟩
    · exact bottom
  change ((builder.adapter roots).sctVerifier platform _).requiresRawPublicKeys = false ∧
    ((builder.adapter roots).sctVerifier platform _).signatureCheck = .certificate
  unfold RustcryptoClientConfigBuilder.sctVerifier
  split
  · exact cached
  · exact cached
  · exact ⟨rfl, cached.2⟩

/-- What a built client brings to a handshake. -/
structure Offered (builder : ClientBuilder) (platform : Platform) (config : ClientConfig) :
    Prop where
  versions : config.versions = builder.offeredVersions
  identity : config.clientAuth = builder.offeredIdentity
  alpn : config.alpnProtocols = builder.offeredAlpn
  ech : config.echMode = builder.offeredEch
  provider : config.provider = builder.offeredProvider platform
  raw : config.verifier.requiresRawPublicKeys = builder.serverRawPublicKeys.isSome
  check : config.verifier.signatureCheck = builder.offeredCheck

theorem offered_of_build (built : builder.build platform = .ok config) :
    builder.Offered platform config := by
  cases built_of_build built with
  | rawPublicKeys keys =>
      have untaken : ¬ builder.TakesAdapter := fun taken => by simp [taken.1] at keys
      constructor <;> simp [offeredVersions, offeredIdentity, offeredAlpn, offeredEch,
        offeredProvider, offeredCheck, untaken, keys, assembled,
        RawPublicKeyServerVerifier.toVerifier]
  | dangerCerts keys flag =>
      have untaken : ¬ builder.TakesAdapter := fun taken => by simp [taken.2.1] at flag
      constructor <;> simp [offeredVersions, offeredIdentity, offeredAlpn, offeredEch,
        offeredProvider, offeredCheck, untaken, keys, flag, finished, assembled,
        dangerousNoCertVerifier]
  | dangerHostnames keys checked flag rooted =>
      have untaken : ¬ builder.TakesAdapter := fun taken => by simp [taken.2.2.1] at flag
      constructor <;> simp [offeredVersions, offeredIdentity, offeredAlpn, offeredEch,
        offeredProvider, offeredCheck, untaken, keys, checked, finished, assembled,
        DangerHostnameIgnoreVerifier.toVerifier, Platform.webpkiServerVerifier]
  | adapter keys checked named used rooted based =>
      have taken : builder.TakesAdapter := ⟨keys, checked, named, used⟩
      obtain ⟨raw, check⟩ := certified_adapted based
      constructor
      case raw =>
        rw [raw, keys]
        rfl
      case check =>
        rw [check, offeredCheck, keys, checked]
        rfl
      all_goals
        simp [offeredVersions, offeredIdentity, offeredAlpn, offeredEch, offeredProvider, taken,
          adapted, adapter, RustcryptoClientConfigBuilder.configuration]
  | plain keys checked named unused rooted =>
      have untaken : ¬ builder.TakesAdapter := fun taken => by simp [taken.2.2.2] at unused
      constructor <;> simp [offeredVersions, offeredIdentity, offeredAlpn, offeredEch,
        offeredProvider, offeredCheck, untaken, keys, checked, finished, assembled,
        Platform.webpkiServerVerifier]

end ClientBuilder

/-! ## What the server contributes -/

/-- The key that calls tell a server to present: the raw public key, else the key registered for
the name, else the last certificate with the latest staple. -/
def ServerCall.presentedKey (platform : ServerPlatform) (calls : List ServerCall)
    (sni : Option String) : Option ServerCertifiedKey :=
  match Setters.last ServerCall.serverRawPublicKey calls with
  | some key => some key
  | none =>
      if calls.filterMap ServerCall.sniCert = [] then
        (Setters.last (ServerCall.certificate platform) calls).map fun (certChain, key) =>
          ⟨⟨certChain, key⟩, ServerCall.latestResponse calls⟩
      else sni.bind (TlsServerBuilder.registered platform (calls.filterMap ServerCall.sniCert))

namespace TlsServerBuilder

variable {platform : ServerPlatform} {calls : List ServerCall} {builder : TlsServerBuilder}
  {config : TlsServerConfig}

theorem resolve_eq_presentedKey (follows : config.FollowsCalls platform calls)
    (sni : Option String) :
    config.certResolver.resolve sni = ServerCall.presentedKey platform calls sni := by
  unfold ServerCall.presentedKey
  cases raw : Setters.last ServerCall.serverRawPublicKey calls with
  | some key => exact follows.raw key raw sni
  | none =>
      by_cases unmapped : calls.filterMap ServerCall.sniCert = []
      · obtain ⟨certChain, key, last, resolved⟩ := follows.single raw unmapped
        simp [unmapped, last, resolved]
      · simp [unmapped, follows.named raw unmapped]

theorem onlyRawPublicKeys_of_build (configured : configure platform calls = .ok builder)
    (built : builder.build platform = .ok config) :
    config.certResolver.onlyRawPublicKeys =
      (Setters.last ServerCall.serverRawPublicKey calls).isSome := by
  obtain ⟨-, resolver, -⟩ := build_parts built
  have rawKey : builder.serverRawPublicKey = Setters.last ServerCall.serverRawPublicKey calls :=
    (eq_last_of_configure serverRawPublicKey _ (fun _ _ _ call => call.serverRawPublicKey)
      configured).trans Option.or_none
  rw [← rawKey]
  cases raw : builder.serverRawPublicKey with
  | some key =>
      rw [buildCertResolver, raw] at resolver
      rw [← Except.pure_eq_ok_iff.mp resolver]
      rfl
  | none =>
      by_cases unmapped : builder.sniMap = []
      · obtain ⟨certChain, key, -, chosen⟩ := singleCert_of_build raw unmapped resolver
        rw [chosen]
        rfl
      · have mapped : (!builder.sniMap.isEmpty) = true := by simpa using unmapped
        rw [buildCertResolver, raw] at resolver
        simp only [mapped, if_true] at resolver
        obtain ⟨byName, -, resolver⟩ := Except.bind_eq_ok_iff.mp resolver
        rw [← Except.pure_eq_ok_iff.mp resolver]
        rfl

theorem requiresRawPublicKeys_of_build (configured : configure platform calls = .ok builder)
    (built : builder.build platform = .ok config) :
    config.clientVerifier.requiresRawPublicKeys =
      (Setters.last ServerCall.clientRawPublicKeys calls).isSome := by
  obtain ⟨verifier, -⟩ := build_parts built
  have pins : builder.clientRawPublicKeys = Setters.last ServerCall.clientRawPublicKeys calls :=
    (eq_last_of_configure clientRawPublicKeys _ (fun _ _ _ call => call.clientRawPublicKeys)
      configured).trans Option.or_none
  rw [← pins]
  unfold buildClientVerifier at verifier
  cases keyed : builder.clientRawPublicKeys with
  | some trusted =>
      rw [keyed] at verifier
      rw [← Except.pure_eq_ok_iff.mp verifier]
      rfl
  | none =>
      cases rooted : builder.clientVerifierRoots with
      | some roots =>
          rw [keyed, rooted] at verifier
          obtain ⟨_, -, verifier⟩ := Except.bind_eq_ok_iff.mp verifier
          rw [← Except.pure_eq_ok_iff.mp verifier]
          rfl
      | none =>
          rw [keyed, rooted] at verifier
          rw [← Except.pure_eq_ok_iff.mp verifier]
          rfl

end TlsServerBuilder

/-! ## Both together -/

theorem CertifiedKey.message_eq_some_iff {key : CertifiedKey} {endEntity : Bytes}
    {intermediates : List Bytes} :
    key.message = some (endEntity, intermediates) ↔
      key.certChain = endEntity :: intermediates := by
  unfold message
  cases key.certChain with
  | nil => simp
  | cons first rest => simp

/-- What the calls on a client and on a server agree on. -/
structure Agreed (webpki : ChainValidation) (checks : HandshakeChecks)
    (clientPlatform : ClientPlatform) (serverPlatform : ServerPlatform)
    (clientCalls : List ClientCall) (serverCalls : List ServerCall) (hello : Hello)
    (flight : Flight) (key : ServerCertifiedKey) : Prop where
  /-- A raw public key is presented to exactly the clients that pin one. -/
  keyed : (Setters.last ClientCall.serverRawPublicKeys clientCalls).isSome =
    (Setters.last ServerCall.serverRawPublicKey serverCalls).isSome
  /-- The client trusts what the server was told to present, and its signature passes. -/
  presents : ServerCall.presentedKey serverPlatform serverCalls hello.sni = some key
  trusted : ∃ presented, key.presented hello = some presented ∧
    (ClientCall.asked clientPlatform clientCalls).TrustsServer clientPlatform.toPlatform
      presented ∧
    (ClientCall.asked clientPlatform clientCalls).offeredCheck.verify checks
      ((ClientCall.asked clientPlatform clientCalls).offeredProvider clientPlatform.toPlatform)
      flight.version presented.endEntity flight.server = .ok ()
  /-- The server pins no raw public key of its clients. -/
  unpinned : Setters.last ServerCall.clientRawPublicKeys serverCalls = none
  /-- A client chain ends in the roots of the server, if it has any, and the client's signature
  passes. -/
  chained : ∀ roots, Setters.last ServerCall.clientRoots serverCalls = some roots →
    ∃ identity endEntity intermediates,
      (ClientCall.asked clientPlatform clientCalls).offeredIdentity = some identity ∧
      identity.certChain = endEntity :: intermediates ∧
      webpki roots endEntity intermediates = .ok () ∧
      checks.certificate ((Setters.last ServerCall.provider serverCalls).getD
        serverPlatform.defaultProvider) flight.version endEntity flight.client = .ok ()

section Meeting

variable {webpki : ChainValidation} {checks : HandshakeChecks} {clientPlatform : ClientPlatform}
  {serverPlatform : ServerPlatform} {clientCalls : List ClientCall}
  {serverCalls : List ServerCall} {clientBuilder : ClientBuilder}
  {serverBuilder : TlsServerBuilder} {client : ClientConfig} {server : TlsServerConfig}
  {hello : Hello} {flight : Flight} {key : ServerCertifiedKey}

/-- A server without pinned client keys admits a client whose chain ends in its roots and whose
signature passes. -/
theorem admits_iff_chained (follows : server.FollowsCalls serverPlatform serverCalls)
    (unpinned : Setters.last ServerCall.clientRawPublicKeys serverCalls = none) :
    server.clientVerifier.Admits webpki checks server.provider flight.version
        (client.presented flight.client) ↔
      ∀ roots, Setters.last ServerCall.clientRoots serverCalls = some roots →
        ∃ identity endEntity intermediates, client.clientAuth = some identity ∧
          identity.certChain = endEntity :: intermediates ∧
          webpki roots endEntity intermediates = .ok () ∧
          checks.certificate server.provider flight.version endEntity flight.client = .ok () := by
  cases last : Setters.last ServerCall.clientRoots serverCalls with
  | none =>
      exact iff_of_true (follows.anonymous unpinned last webpki checks _ _) (by nofun)
  | some roots =>
      rw [follows.chained unpinned roots last webpki checks]
      simp only [ClientConfig.presented, Option.map_eq_some_iff, Option.bind_eq_some_iff,
        Option.some.injEq, forall_eq']
      constructor
      · rintro ⟨_, ⟨⟨endEntity, intermediates⟩, ⟨identity, same, message⟩, rfl⟩, valid, signed⟩
        exact ⟨identity, endEntity, intermediates, same,
          CertifiedKey.message_eq_some_iff.mp message, valid, signed⟩
      · rintro ⟨identity, endEntity, intermediates, same, chain, valid, signed⟩
        exact ⟨_, ⟨(endEntity, intermediates),
          ⟨identity, same, CertifiedKey.message_eq_some_iff.mpr chain⟩, rfl⟩, valid, signed⟩

/-- The ends offer what the calls on the two builders asked for, and they accept each other exactly
when the calls agree, whatever version rustls negotiates and whatever is signed. -/
theorem handshake_follows_calls
    (asked : ClientBuilder.configure clientPlatform clientCalls = .ok clientBuilder)
    (clientBuilt : clientBuilder.build clientPlatform.toPlatform = .ok client)
    (configured : TlsServerBuilder.configure serverPlatform serverCalls = .ok serverBuilder)
    (serverBuilt : serverBuilder.build serverPlatform = .ok server) :
    (ClientCall.asked clientPlatform clientCalls).Offered clientPlatform.toPlatform client ∧
      server.versions = (Setters.last ServerCall.protocolVersions serverCalls).getD [.tls13] ∧
      server.alpnProtocols = (Setters.last ServerCall.alpnProtocols serverCalls).getD [] ∧
      ∀ webpki checks hello flight key,
        Authenticates webpki checks client server hello flight key ↔
          Agreed webpki checks clientPlatform serverPlatform clientCalls serverCalls hello flight
            key := by
  obtain ⟨-, rfl⟩ := ClientBuilder.configure_eq_ok_iff.mp asked
  have offered := ClientBuilder.offered_of_build clientBuilt
  have follows := TlsServerBuilder.followsCalls_of_build configured serverBuilt
  have onlyRaw := TlsServerBuilder.onlyRawPublicKeys_of_build configured serverBuilt
  have requiresRaw := TlsServerBuilder.requiresRawPublicKeys_of_build configured serverBuilt
  have raw : client.verifier.requiresRawPublicKeys =
      (Setters.last ClientCall.serverRawPublicKeys clientCalls).isSome := offered.raw
  refine ⟨offered, follows.versions, follows.alpn, fun webpki checks hello flight key => ?_⟩
  constructor
  · intro authenticates
    have unpinned : Setters.last ServerCall.clientRawPublicKeys serverCalls = none := by
      simpa [requiresRaw] using authenticates.clientType
    obtain ⟨presented, message, accepted, signed⟩ := authenticates.accepted
    rw [offered.check, offered.provider] at signed
    exact
      { keyed := by simpa [raw, onlyRaw] using authenticates.serverType
        presents := (TlsServerBuilder.resolve_eq_presentedKey follows _).symm.trans
          authenticates.resolved
        trusted := ⟨presented, message,
          (ClientBuilder.accepts_iff_trustsServer clientBuilt).mp accepted, signed⟩
        unpinned := unpinned
        chained := by
          have admitted := authenticates.admitted
          rwa [admits_iff_chained follows unpinned, offered.identity, follows.provider]
            at admitted }
  · intro agreed
    obtain ⟨presented, message, trusted, signed⟩ := agreed.trusted
    rw [← offered.check, ← offered.provider] at signed
    exact
      { serverType := by simpa [raw, onlyRaw] using agreed.keyed
        clientType := by rw [requiresRaw, agreed.unpinned]; rfl
        resolved := (TlsServerBuilder.resolve_eq_presentedKey follows _).trans agreed.presents
        accepted := ⟨presented, message,
          (ClientBuilder.accepts_iff_trustsServer clientBuilt).mpr trusted, signed⟩
        admitted := by
          rw [admits_iff_chained follows agreed.unpinned, offered.identity, follows.provider]
          exact agreed.chained }

end Meeting

/-- A platform for a concrete client. -/
def ClientPlatform.miniature : ClientPlatform where
  toPlatform := .miniature
  pemCerts _ := []
  echConfigNew _ := .ok ()

/-- Chain validation that looks for an anchor of the issuer. -/
def issuerValidation : ChainValidation := fun roots endEntity _ =>
  if roots.any fun anchor => anchor.subject == endEntity.take 1 then .ok ()
  else .error (.invalidCertificate (.other "UnknownIssuer"))

/-- Signature checks for which the signature is the certificate or the raw public key itself. -/
def namingChecks : HandshakeChecks where
  certificate _ _ cert signature :=
    if signature.dss.sig = cert then .ok ()
    else .error (.invalidCertificate (.other "BadSignature"))
  rawPublicKey _ spki signature :=
    if signature.dss.sig = spki then .ok ()
    else .error (.invalidCertificate (.other "BadSignature"))

/-- A client that trusts issuer 7 and presents a certificate of issuer 9. -/
def mutualClientCalls : List ClientCall :=
  [.withClientCert [[9, 1]] (.pkcs8 [9]), .withTrustedCertDer [7]]

/-- A server that presents a certificate of issuer 7 and trusts clients of issuer 9. -/
def mutualServerCalls : List ServerCall :=
  [.withClientCertVerifier [⟨[9], [9]⟩], .withDerCertAndKey [[7, 1]] (.pkcs8 [7])]

theorem handshake_follows_calls_mutual :
    ∃ clientBuilder client serverBuilder server,
      ClientBuilder.configure .miniature mutualClientCalls = .ok clientBuilder ∧
      clientBuilder.build .miniature = .ok client ∧
      TlsServerBuilder.configure .miniature mutualServerCalls = .ok serverBuilder ∧
      serverBuilder.build .miniature = .ok server ∧
      Authenticates issuerValidation namingChecks client server ⟨"leaf.example", true, 0⟩
        ⟨.tls13, ⟨[], ⟨0x0807, [7, 1]⟩⟩, ⟨[], ⟨0x0807, [9, 1]⟩⟩⟩ ⟨⟨[[7, 1]], .pkcs8 [7]⟩, none⟩ ∧
      ¬ Authenticates issuerValidation namingChecks client server ⟨"leaf.example", true, 0⟩
        ⟨.tls13, ⟨[], ⟨0x0807, [7, 1]⟩⟩, ⟨[], ⟨0x0807, [9, 2]⟩⟩⟩
        ⟨⟨[[7, 1]], .pkcs8 [7]⟩, none⟩ := by
  obtain ⟨clientBuilder, client, serverBuilder, server, asked, clientBuilt, configured, built⟩ :
      ∃ clientBuilder client serverBuilder server,
        ClientBuilder.configure .miniature mutualClientCalls = .ok clientBuilder ∧
        clientBuilder.build .miniature = .ok client ∧
        TlsServerBuilder.configure .miniature mutualServerCalls = .ok serverBuilder ∧
        serverBuilder.build .miniature = .ok server :=
    ⟨_, _, _, _, rfl, rfl, rfl, rfl⟩
  obtain ⟨-, -, -, agree⟩ := handshake_follows_calls asked clientBuilt configured built
  refine ⟨clientBuilder, client, serverBuilder, server, asked, clientBuilt, configured, built,
    (agree _ _ _ _ _).mpr ?_, (agree _ _ _ _ _).not.mpr ?_⟩
  · exact
      { keyed := rfl
        presents := rfl
        trusted := ⟨_, rfl, .inr ⟨_, rfl, by nofun, by nofun, rfl⟩, rfl⟩
        unpinned := rfl
        chained := by
          rintro roots ⟨⟩
          exact ⟨_, _, _, rfl, rfl, rfl, rfl⟩ }
  · intro agreed
    obtain ⟨_, _, _, ⟨⟩, ⟨⟩, -, signed⟩ := agreed.chained _ rfl
    contradiction

end OxiTls
