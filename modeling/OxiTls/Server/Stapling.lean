import OxiTls.Client.Config
import OxiTls.Library.Fallible
import OxiTls.Server.Ticketing

/-!
# OCSP stapling of a server

`tls13/server.rs`: the calls of `ServerBuilder` and the branches of `build` that choose a
certificate.  A resolver is asked once, when it is given to the builder, and only the single
certificate gets the response; a certificate of the SNI map keeps the one it came with.
-/

namespace OxiTls

open Std (TreeMap)

/-- `rustls::sign::CertifiedKey` on the server, with the OCSP response that goes with it. -/
structure ServerCertifiedKey extends CertifiedKey where
  ocsp : Option Bytes := none
  deriving DecidableEq, Repr

/-- `OcspResponseResolver`: the response that is current at a time. -/
structure OcspResponseResolver where
  ocspResponse : (now : Nat) → Option Bytes

/-- Third-party code the server builder calls. -/
structure ServerPlatform where
  /-- `pure_provider()`, or `pure_provider_with_pq()` when that feature is on. -/
  defaultProvider : CryptoProvider
  /-- `rustls_pemfile::certs`. -/
  pemCerts : Bytes → List (Except String Bytes)
  /-- `rustls_pemfile::private_key`. -/
  pemPrivateKey : Bytes → Except String (Option PrivateKeyDer)
  /-- The checks of the `WebPkiClientVerifier` builder. -/
  checkClientVerifier : CryptoProvider → RootCertStore → Except String Unit
  /-- The checks of `ResolvesServerCertUsingSni::add`, with the name the key is stored under. -/
  sniName : String → ServerCertifiedKey → Except String String

/-- A `ServerBuilder` with all its fields. -/
structure TlsServerBuilder extends ServerBuilder where
  certs : Option (List Bytes) := none
  key : Option PrivateKeyDer := none
  clientVerifierRoots : Option RootCertStore := none
  alpn : List Bytes := []
  sniMap : List (String × ServerCertifiedKey) := []
  protocolVersions : Option (List ProtocolVersion) := none
  ocspResponse : Option Bytes := none
  maxFragmentSize : Option Nat := none
  maxEarlyDataSize : Option Nat := none
  provider : Option CryptoProvider := none
  serverRawPublicKey : Option ServerCertifiedKey := none
  clientRawPublicKeys : Option (List Bytes) := none
  keyLogPolicy : Option KeyLogPolicy := none
  enableCertCompression : Bool := false

/-- The client verifier of a server configuration. -/
inductive ClientVerifier
  | noClientAuth
  | webPki (roots : RootCertStore)
  | rawPublicKeys (trusted : List Bytes)

/-- A `ResolvesServerCert` that `build` installs. -/
inductive CertResolver
  | rawPublicKey (key : ServerCertifiedKey)
  | usingSni (byName : TreeMap String ServerCertifiedKey)
  | singleCert (key : ServerCertifiedKey)

/-- `resolve`, given the server name of the client. -/
def CertResolver.resolve : CertResolver → Option String → Option ServerCertifiedKey
  | .rawPublicKey key, _ => some key
  | .usingSni byName, some name => byName[name]?
  | .usingSni _, none => none
  | .singleCert key, _ => some key

/-- A `ServerConfig` with all the fields that `build` sets. -/
structure TlsServerConfig extends ServerConfig where
  provider : CryptoProvider
  versions : List ProtocolVersion
  clientVerifier : ClientVerifier
  certResolver : CertResolver
  alpnProtocols : List Bytes := []
  maxFragmentSize : Option Nat := none
  maxEarlyDataSize : Nat := 0
  keyLog : Option KeyLogPolicy := none
  certCompressors : List CertCompression := []
  certDecompressors : List CertCompression := []

/-- The calls of `ServerBuilder`.  A call that asks a resolver or the operating system's generator
carries the time or the answer. -/
inductive ServerCall
  | withPemCertAndKey (certPem keyPem : Bytes)
  | withDerCertAndKey (certChain : List Bytes) (key : PrivateKeyDer)
  | withClientCertVerifier (roots : RootCertStore)
  | withProvider (provider : CryptoProvider)
  | withAlpnProtocols (protocols : List Bytes)
  | withSniCert (serverName : String) (key : ServerCertifiedKey)
  | withProtocolVersions (versions : List ProtocolVersion)
  | withTicketer (ticketer : Ticketer)
  | withAntiReplay (entropy : Except String (Vector UInt8 32))
  | withTicketerRotationInterval (interval : Nat) (entropy : Except String (Vector UInt8 32))
  | withOcspResponse (ocspDer : Bytes)
  | withOcspResponseResolver (resolver : OcspResponseResolver) (now : Nat)
  | withMaxFragmentSize (size : Option Nat)
  | withMaxEarlyDataSize (size : Nat)
  | withServerRawPublicKey (key : ServerCertifiedKey)
  | withClientRawPublicKeys (trustedSpki : List Bytes)
  | withKeyLogFile (path : String)
  | withKeyLogCustom (logger : Nat)
  | withCertCompression

namespace TlsServerBuilder

variable (platform : ServerPlatform) (builder : TlsServerBuilder)

/-- `with_pem_cert_and_key`, and its alias `with_pem_cert_chain_and_key`. -/
def withPemCertAndKey (certPem keyPem : Bytes) : Except TlsError TlsServerBuilder := do
  let certs ← (platform.pemCerts certPem).mapM fun read => read.mapError .badCert
  if certs.isEmpty then throw (.badCert "no certificates found in PEM")
  let found ← (platform.pemPrivateKey keyPem).mapError .invalidConfig
  match found with
  | some key => pure { builder with certs := some certs, key := some key }
  | none => throw (.badCert "no private key found in PEM")

/-- `with_ocsp_response_resolver`; without an answer the response stays as it is. -/
def withOcspResponseResolver (builder : TlsServerBuilder) (resolver : OcspResponseResolver)
    (now : Nat) : TlsServerBuilder :=
  match resolver.ocspResponse now with
  | some bytes => { builder with ocspResponse := some bytes }
  | none => builder

/-- One call. -/
def apply (builder : TlsServerBuilder) : ServerCall → Except TlsError TlsServerBuilder
  | .withPemCertAndKey certPem keyPem => builder.withPemCertAndKey platform certPem keyPem
  | .withDerCertAndKey certChain key =>
      .ok { builder with certs := some certChain, key := some key }
  | .withClientCertVerifier roots => .ok { builder with clientVerifierRoots := some roots }
  | .withProvider provider => .ok { builder with provider := some provider }
  | .withAlpnProtocols protocols => .ok { builder with alpn := protocols }
  | .withSniCert serverName key =>
      .ok { builder with sniMap := builder.sniMap ++ [(serverName, key)] }
  | .withProtocolVersions versions => .ok { builder with protocolVersions := some versions }
  | .withTicketer ticketer =>
      .ok { builder with toServerBuilder := builder.toServerBuilder.withTicketer ticketer }
  | .withAntiReplay entropy => do
      let ticketing ← builder.toServerBuilder.withAntiReplay entropy
      pure { builder with toServerBuilder := ticketing }
  | .withTicketerRotationInterval interval entropy =>
      .ok { builder with
        toServerBuilder := builder.toServerBuilder.withTicketerRotationInterval interval entropy }
  | .withOcspResponse ocspDer => .ok { builder with ocspResponse := some ocspDer }
  | .withOcspResponseResolver resolver now => .ok (builder.withOcspResponseResolver resolver now)
  | .withMaxFragmentSize size => .ok { builder with maxFragmentSize := size }
  | .withMaxEarlyDataSize size => .ok { builder with maxEarlyDataSize := some size }
  | .withServerRawPublicKey key => .ok { builder with serverRawPublicKey := some key }
  | .withClientRawPublicKeys trustedSpki =>
      .ok { builder with clientRawPublicKeys := some trustedSpki }
  | .withKeyLogFile path => .ok { builder with keyLogPolicy := some (.file path) }
  | .withKeyLogCustom logger => .ok { builder with keyLogPolicy := some (.custom logger) }
  | .withCertCompression => .ok { builder with enableCertCompression := true }

/-- A sequence of calls on a new builder. -/
def configure (calls : List ServerCall) : Except TlsError TlsServerBuilder :=
  calls.foldlM (apply platform) {}

/-- The client verifier that `build` chooses; raw public keys go first. -/
def buildClientVerifier (provider : CryptoProvider) : Except TlsError ClientVerifier :=
  match builder.clientRawPublicKeys, builder.clientVerifierRoots with
  | some trusted, _ => pure (.rawPublicKeys trusted)
  | none, some roots => do
      (platform.checkClientVerifier provider roots).mapError .invalidConfig
      pure (.webPki roots)
  | none, none => pure .noClientAuth

/-- `ResolvesServerCertUsingSni::add`. -/
def addSniCert (byName : TreeMap String ServerCertifiedKey) (entry : String × ServerCertifiedKey) :
    Except TlsError (TreeMap String ServerCertifiedKey) := do
  let name ← (platform.sniName entry.1 entry.2).mapError .invalidConfig
  pure (byName.insert name entry.2)

/-- `with_single_cert` and `with_single_cert_with_ocsp`. -/
def singleCert (provider : CryptoProvider) (certChain : List Bytes) (key : PrivateKeyDer)
    (ocsp : Option Bytes) : Except String CertResolver := do
  provider.loadPrivateKey key
  provider.keysMatch certChain key
  pure (.singleCert { certChain, key, ocsp })

/-- The certificate resolver that `build` chooses: a raw public key, then the SNI map, then the
single certificate. -/
def buildCertResolver (provider : CryptoProvider) : Except TlsError CertResolver :=
  match builder.serverRawPublicKey with
  | some key => pure (.rawPublicKey key)
  | none =>
      if !builder.sniMap.isEmpty then do
        let byName ← builder.sniMap.foldlM (addSniCert platform) ∅
        pure (.usingSni byName)
      else do
        let certs ← builder.certs.elim (throw (.invalidConfig "no certificate configured")) pure
        let key ← builder.key.elim (throw (.invalidConfig "no private key configured")) pure
        (singleCert provider certs key builder.ocspResponse).mapError .badCert

/-- `build`. -/
def build : Except TlsError TlsServerConfig := do
  let provider := builder.provider.getD platform.defaultProvider
  let versions := builder.protocolVersions.getD [.tls13]
  (provider.checkVersions versions).mapError .invalidConfig
  let clientVerifier ← builder.buildClientVerifier platform provider
  let certResolver ← builder.buildCertResolver platform provider
  let compression := if builder.enableCertCompression then [CertCompression.oxiArcZlib] else []
  pure
    { toServerConfig := builder.toServerBuilder.installTicketer {}
      provider, versions, clientVerifier, certResolver
      alpnProtocols := builder.alpn
      maxFragmentSize := builder.maxFragmentSize
      maxEarlyDataSize := builder.maxEarlyDataSize.getD 0
      keyLog := builder.keyLogPolicy
      certCompressors := compression
      certDecompressors := compression }

end TlsServerBuilder

/-! ## What the calls leave in the builder -/

namespace ServerCall

/-- The calls that configure the staple. -/
def isStaple : ServerCall → Bool
  | withOcspResponse _ => true
  | withOcspResponseResolver _ _ => true
  | _ => false

/-- The response that a call finds. -/
def response : ServerCall → Option Bytes
  | withOcspResponse ocspDer => some ocspDer
  | withOcspResponseResolver resolver now => resolver.ocspResponse now
  | _ => none

/-- The certificate that a call adds to the SNI map. -/
def sniCert : ServerCall → Option (String × ServerCertifiedKey)
  | withSniCert serverName key => some (serverName, key)
  | _ => none

theorem response_of_not_isStaple {call : ServerCall} (other : call.isStaple = false) :
    call.response = none := by
  cases call <;> first | rfl | contradiction

/-- The latest response that a sequence of calls found. -/
def latestResponse (calls : List ServerCall) : Option Bytes :=
  calls.foldl (fun held call => call.response.or held) none

theorem latestResponse_concat (calls : List ServerCall) (call : ServerCall) :
    latestResponse (calls ++ [call]) = call.response.or (latestResponse calls) := by
  simp [latestResponse]

/-- Calls that do not configure the staple keep the response. -/
theorem latestResponse_append {before after : List ServerCall}
    (others : ∀ call ∈ after, call.isStaple = false) :
    latestResponse (before ++ after) = latestResponse before := by
  induction after using List.reverseRecOn with
  | nil => simp
  | append_singleton after call induction =>
      have other := others call (by simp)
      have kept := induction fun earlier member => others earlier (by simp [member])
      rw [← List.append_assoc, latestResponse_concat, response_of_not_isStaple other,
        Option.none_or, kept]

end ServerCall

namespace TlsServerBuilder

variable {platform : ServerPlatform} {builder : TlsServerBuilder}

/-- `with_pem_cert_and_key` sets the certificate and its key. -/
theorem withPemCertAndKey_eq_ok {certPem keyPem : Bytes} {next : TlsServerBuilder}
    (loaded : builder.withPemCertAndKey platform certPem keyPem = .ok next) :
    ∃ certs key, next = { builder with certs := some certs, key := some key } := by
  obtain ⟨certs, _, loaded⟩ := Except.bind_eq_ok_iff.mp loaded
  split at loaded
  · exact absurd loaded (by simp)
  obtain ⟨found, _, loaded⟩ := Except.bind_eq_ok_iff.mp loaded
  cases found with
  | none => exact absurd loaded Except.throw_ne_ok
  | some key => exact ⟨certs, key, (Except.pure_eq_ok_iff.mp loaded).symm⟩

/-- The effect of a call on the staple and on the SNI map. -/
theorem apply_eq_ok {call : ServerCall} {next : TlsServerBuilder}
    (applied : builder.apply platform call = .ok next) :
    next.ocspResponse = call.response.or builder.ocspResponse ∧
      next.sniMap = builder.sniMap ++ call.sniCert.toList := by
  cases call
  case withPemCertAndKey certPem keyPem =>
    obtain ⟨certs, key, rfl⟩ := withPemCertAndKey_eq_ok applied
    exact ⟨rfl, (List.append_nil _).symm⟩
  case withAntiReplay entropy =>
    obtain ⟨ticketing, _, applied⟩ := Except.bind_eq_ok_iff.mp applied
    obtain rfl := Except.pure_eq_ok_iff.mp applied
    exact ⟨rfl, (List.append_nil _).symm⟩
  case withOcspResponseResolver resolver now =>
    obtain rfl := Except.ok.inj applied
    cases answer : resolver.ocspResponse now <;>
      simp [withOcspResponseResolver, ServerCall.response, ServerCall.sniCert, answer]
  all_goals
    obtain rfl := Except.ok.inj applied
    simp [ServerCall.response, ServerCall.sniCert]

/-- The builder holds the latest response that the calls found. -/
theorem ocspResponse_of_configure {calls : List ServerCall}
    (configured : configure platform calls = .ok builder) :
    builder.ocspResponse = ServerCall.latestResponse calls :=
  Except.eq_foldl_of_foldlM_eq_ok ocspResponse
    (fun held (call : ServerCall) => call.response.or held)
    (fun _ _ _ applied => (apply_eq_ok applied).1) configured

/-- The builder holds the SNI certificates of the calls, in order. -/
theorem sniMap_of_configure {calls : List ServerCall}
    (configured : configure platform calls = .ok builder) :
    builder.sniMap = calls.filterMap ServerCall.sniCert := by
  have collected := Except.eq_foldl_of_foldlM_eq_ok sniMap
    (fun entries call => entries ++ call.sniCert.toList)
    (fun _ _ _ applied => (apply_eq_ok applied).2) configured
  rw [collected, ← List.flatMap_eq_foldl, List.filterMap_eq_flatMap_toList]

/-! ## The certificate of a handshake -/

/-- The key that the entries of an SNI map register for a name, the last one that does. -/
def registered (platform : ServerPlatform) (entries : List (String × ServerCertifiedKey))
    (name : String) : Option ServerCertifiedKey :=
  entries.foldl (fun found entry =>
    if platform.sniName entry.1 entry.2 = .ok name then some entry.2 else found) none

/-- The SNI resolver finds what the entries register. -/
theorem getElem?_of_foldlM_addSniCert {entries : List (String × ServerCertifiedKey)}
    {byName : TreeMap String ServerCertifiedKey}
    (added : entries.foldlM (addSniCert platform) ∅ = .ok byName) (name : String) :
    byName[name]? = registered platform entries name := by
  refine Except.eq_foldl_of_foldlM_eq_ok (fun byName => byName[name]?) _ ?_ added
  intro byName entry next stepped
  obtain ⟨checked, accepted, inserted⟩ := Except.bind_eq_ok_iff.mp stepped
  obtain rfl := Except.pure_eq_ok_iff.mp inserted
  rw [Except.mapError_eq_ok_iff.mp accepted, TreeMap.getElem?_insert]
  simp

/-- With an SNI map, a client gets the key that the map registers for its name. -/
theorem resolve_of_sniMap {provider : CryptoProvider} {chosen : CertResolver}
    (certified : builder.serverRawPublicKey = none) (mapped : builder.sniMap ≠ [])
    (built : builder.buildCertResolver platform provider = .ok chosen) (name : Option String) :
    chosen.resolve name = name.bind (registered platform builder.sniMap) := by
  have nonempty : (!builder.sniMap.isEmpty) = true := by simpa using mapped
  rw [buildCertResolver, certified] at built
  simp only [nonempty, if_true] at built
  obtain ⟨byName, added, built⟩ := Except.bind_eq_ok_iff.mp built
  obtain rfl := Except.pure_eq_ok_iff.mp built
  cases name with
  | none => rfl
  | some name => exact getElem?_of_foldlM_addSniCert added name

/-- Without an SNI map, every client gets the single certificate with the response of the
builder. -/
theorem resolve_of_singleCert {provider : CryptoProvider} {chosen : CertResolver}
    (certified : builder.serverRawPublicKey = none) (unmapped : builder.sniMap = [])
    (built : builder.buildCertResolver platform provider = .ok chosen) :
    ∃ key : ServerCertifiedKey, key.ocsp = builder.ocspResponse ∧
      ∀ name, chosen.resolve name = some key := by
  have empty : (!builder.sniMap.isEmpty) = false := by simpa using unmapped
  rw [buildCertResolver, certified] at built
  simp only [empty, Bool.false_eq_true, if_false] at built
  obtain ⟨certs, _, built⟩ := Except.bind_eq_ok_iff.mp built
  obtain ⟨key, _, built⟩ := Except.bind_eq_ok_iff.mp built
  obtain ⟨_, _, built⟩ := Except.bind_eq_ok_iff.mp (Except.mapError_eq_ok_iff.mp built)
  obtain ⟨_, _, built⟩ := Except.bind_eq_ok_iff.mp built
  obtain rfl := Except.pure_eq_ok_iff.mp built
  exact ⟨_, rfl, fun _ => rfl⟩

/-- `build` installs the resolver it has chosen. -/
theorem build_eq_ok {config : TlsServerConfig} (built : builder.build platform = .ok config) :
    ∃ provider, builder.buildCertResolver platform provider = .ok config.certResolver := by
  obtain ⟨_, _, built⟩ := Except.bind_eq_ok_iff.mp built
  obtain ⟨_, _, built⟩ := Except.bind_eq_ok_iff.mp built
  obtain ⟨chosen, resolver, built⟩ := Except.bind_eq_ok_iff.mp built
  obtain rfl := Except.pure_eq_ok_iff.mp built
  exact ⟨_, resolver⟩

end TlsServerBuilder

/-! ## Runs of a server -/

/-- A full handshake with a client that asks for the status of the certificate. -/
structure Handshake where
  time : Nat
  serverName : Option String
  deriving DecidableEq, Repr

/-- In every handshake of a run that presents a certificate, the staple is the answer of the
resolver at that time, and there is none if it has no answer. -/
def TlsServerConfig.Follows (config : TlsServerConfig) (resolver : OcspResponseResolver)
    (run : List Handshake) : Prop :=
  ∀ handshake ∈ run, ∀ key, config.certResolver.resolve handshake.serverName = some key →
    key.ocsp = resolver.ocspResponse handshake.time

/-- What was found when the resolver was set is still its answer: for the single certificate the
answer of that time or else the response before it, and for an SNI map the response that the
client's key came with. -/
def StillCurrent (platform : ServerPlatform) (entries : List (String × ServerCertifiedKey))
    (earlier : Option Bytes) (resolver : OcspResponseResolver) (now : Nat)
    (handshake : Handshake) : Prop :=
  if entries = [] then
    (resolver.ocspResponse now).or earlier = resolver.ocspResponse handshake.time
  else ∀ key, handshake.serverName.bind (TlsServerBuilder.registered platform entries) = some key →
    key.ocsp = resolver.ocspResponse handshake.time

section Stapling

variable {platform : ServerPlatform} {builder : TlsServerBuilder} {config : TlsServerConfig}
  {before after : List ServerCall} {resolver : OcspResponseResolver} {now : Nat}

/-- A server follows the resolver that was set last exactly through the handshakes in which what
was found at that time is still current. -/
theorem follows_iff
    (configured : TlsServerBuilder.configure platform
      (before ++ .withOcspResponseResolver resolver now :: after) = .ok builder)
    (last : ∀ call ∈ after, call.isStaple = false)
    (certified : builder.serverRawPublicKey = none)
    (built : builder.build platform = .ok config) (run : List Handshake) :
    config.Follows resolver run ↔
      ∀ handshake ∈ run, StillCurrent platform ((before ++ after).filterMap ServerCall.sniCert)
        (ServerCall.latestResponse before) resolver now handshake := by
  obtain ⟨provider, chosen⟩ := TlsServerBuilder.build_eq_ok built
  have entries := TlsServerBuilder.sniMap_of_configure configured
  have held := TlsServerBuilder.ocspResponse_of_configure configured
  rw [List.append_cons, ServerCall.latestResponse_append last,
    ServerCall.latestResponse_concat] at held
  have others : (before ++ .withOcspResponseResolver resolver now :: after).filterMap
      ServerCall.sniCert = (before ++ after).filterMap ServerCall.sniCert := by
    simp [List.filterMap_cons, ServerCall.sniCert]
  rw [others] at entries
  refine forall₂_congr fun handshake _ => ?_
  unfold StillCurrent
  split
  next empty =>
    obtain ⟨key, ocsp, resolved⟩ :=
      TlsServerBuilder.resolve_of_singleCert certified (entries.trans empty) chosen
    simp [resolved, ocsp, held, ServerCall.response]
  next nonempty =>
    rw [TlsServerBuilder.resolve_of_sniMap certified (entries ▸ nonempty) chosen, entries]

end Stapling

/-- A platform for concrete servers; every certificate is for every name. -/
def ServerPlatform.miniature : ServerPlatform where
  defaultProvider := .permissive
  pemCerts _ := []
  pemPrivateKey _ := .ok none
  checkClientVerifier _ _ := .ok ()
  sniName name _ := .ok name

/-- A resolver whose response is replaced at time 10. -/
def renewingResolver : OcspResponseResolver where
  ocspResponse now := if now < 10 then some [1] else some [2]

/-- A resolver without a response. -/
def silentResolver : OcspResponseResolver where
  ocspResponse _ := none

/-- The single certificate of a server. -/
def leafCall : ServerCall := .withDerCertAndKey [[7]] (.pkcs8 [1])

/-- A server that is set up with the calls does not follow the resolver. -/
def Strays (calls : List ServerCall) (resolver : OcspResponseResolver) (run : List Handshake) :
    Prop :=
  ∃ builder config, TlsServerBuilder.configure .miniature calls = .ok builder ∧
    builder.serverRawPublicKey = none ∧ builder.build .miniature = .ok config ∧
    ¬ config.Follows resolver run

theorem follows_iff_unchanged :
    ∃ builder config,
      TlsServerBuilder.configure .miniature
        ([leafCall] ++ .withOcspResponseResolver renewingResolver 0 :: []) = .ok builder ∧
      builder.serverRawPublicKey = none ∧ builder.build .miniature = .ok config ∧
      config.Follows renewingResolver [⟨1, none⟩, ⟨2, some "leaf.example"⟩] := by
  obtain ⟨builder, config, configured, certified, built⟩ : ∃ builder config,
      TlsServerBuilder.configure .miniature
        ([leafCall] ++ .withOcspResponseResolver renewingResolver 0 :: []) = .ok builder ∧
      builder.serverRawPublicKey = none ∧ builder.build .miniature = .ok config :=
    ⟨_, _, rfl, rfl, rfl⟩
  refine ⟨builder, config, configured, certified, built, ?_⟩
  refine (follows_iff configured (by simp) certified built _).mpr fun handshake member => ?_
  simp only [List.mem_cons, List.not_mem_nil, or_false] at member
  rcases member with rfl | rfl <;> rfl

/-- A new answer is not picked up, an earlier response is sent when there is no answer, and a
certificate of the SNI map gets no staple. -/
theorem snapshot_not_follows :
    Strays [leafCall, .withOcspResponseResolver renewingResolver 0] renewingResolver
        [⟨0, none⟩, ⟨10, none⟩] ∧
      Strays [leafCall, .withOcspResponse [9], .withOcspResponseResolver silentResolver 0]
        silentResolver [⟨0, none⟩] ∧
      Strays [.withSniCert "leaf.example" ⟨⟨[[7]], .pkcs8 [1]⟩, none⟩,
          .withOcspResponseResolver renewingResolver 0]
        renewingResolver [⟨0, some "leaf.example"⟩] := by
  refine ⟨⟨_, _, rfl, rfl, rfl, fun follows => ?_⟩, ⟨_, _, rfl, rfl, rfl, fun follows => ?_⟩,
    ⟨_, _, rfl, rfl, rfl, fun follows => ?_⟩⟩
  · have sent := follows ⟨10, none⟩ (by simp) _ rfl
    exact absurd sent (by decide)
  · have sent := follows ⟨0, none⟩ (by simp) _ rfl
    exact absurd sent (by decide)
  · have sent := follows ⟨0, some "leaf.example"⟩ (by simp) _ rfl
    exact absurd sent (by decide)

end OxiTls
