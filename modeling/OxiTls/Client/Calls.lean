import OxiTls.Client.Options
import OxiTls.Library.Setters
import OxiTls.Roots.RootStoreBuilder

/-!
# Calls of a client builder

`tls13/client.rs`: every call of `ClientBuilder` sets one option, and only an ECH configuration list
can be refused.  The builder is what the calls ask for, option by option, and the servers that a
built client trusts can be read off the calls.
-/

namespace OxiTls

/-- Third-party code that the calls of a client builder run. -/
structure ClientPlatform extends Platform where
  /-- `rustls_pemfile::certs`. -/
  pemCerts : Bytes → List (Except String Bytes)
  /-- `EchConfig::new` with the suites of `pure_hpke_suites()`. -/
  echConfigNew : Bytes → Except String Unit

/-- The calls of `ClientBuilder`.  A call that generates a key carries the key, if there is one. -/
inductive ClientCall
  | withTls12Fallback
  | withProtocolVersions (versions : List ProtocolVersion)
  | withTrustedCertDer (cert : Bytes)
  | withWebpkiRoots
  | withResumptionCapacity (cap : Nat)
  | withAlpnProtocols (protocols : List Bytes)
  | withClientCert (certs : List Bytes) (key : PrivateKeyDer)
  | withDangerAcceptInvalidCerts
  | withDangerAcceptInvalidHostnames
  | withCertPinning (pins : List Digest)
  | withCrl (crls : List Bytes)
  | withKeyLogFile (path : String)
  | withKeyLogCustom (logger : Nat)
  | withIntermediateCache (cache : CacheHandle)
  | withRootStoreBuilder (roots : RootStoreBuilder)
  | withCtLogs (logs : List CtLog) (policy : SctPolicy)
  | withEarlyData
  | withQuicPreview (enabled : Bool)
  | withTicketerRotationInterval (interval : Nat)
  | withProvider (provider : CryptoProvider)
  | withServerRawPublicKeys (spkiList : List Bytes)
  | withEchConfigList (echConfigList : Bytes)
  | withEchGrease (generated : Option Bytes)
  | withCertCompression

namespace ClientBuilder

/-- One call.  The rotation interval is for symmetry with the server and does nothing. -/
def apply (platform : ClientPlatform) (builder : ClientBuilder) :
    ClientCall → Except TlsError ClientBuilder
  | .withTls12Fallback => .ok { builder with protocolVersions := some [.tls13, .tls12] }
  | .withProtocolVersions versions => .ok { builder with protocolVersions := some versions }
  | .withTrustedCertDer cert => .ok { builder with trustedCerts := builder.trustedCerts ++ [cert] }
  | .withWebpkiRoots => .ok { builder with useWebpkiRoots := true }
  | .withResumptionCapacity cap => .ok { builder with resumptionCapacity := cap }
  | .withAlpnProtocols protocols => .ok { builder with alpn := protocols }
  | .withClientCert certs key => .ok { builder with clientCert := some (certs, { key }) }
  | .withDangerAcceptInvalidCerts => .ok { builder with dangerAcceptInvalidCerts := true }
  | .withDangerAcceptInvalidHostnames => .ok { builder with dangerAcceptInvalidHostnames := true }
  | .withCertPinning pins => .ok { builder with certPins := pins }
  | .withCrl crls => .ok { builder with crls := crls }
  | .withKeyLogFile path => .ok { builder with keyLogPolicy := some (.file path) }
  | .withKeyLogCustom logger => .ok { builder with keyLogPolicy := some (.custom logger) }
  | .withIntermediateCache cache => .ok { builder with intermediateCache := some cache }
  | .withRootStoreBuilder roots =>
      .ok { builder with
        extraRootStore := some (roots.build platform.toPlatform platform.pemCerts) }
  | .withCtLogs logs policy => .ok { builder with ctLogs := some (logs, policy) }
  | .withEarlyData => .ok { builder with enableEarlyData := true }
  | .withQuicPreview enabled => .ok { builder with quicPreview := enabled }
  | .withTicketerRotationInterval _ => .ok builder
  | .withProvider provider => .ok { builder with provider := some provider }
  | .withServerRawPublicKeys spkiList => .ok { builder with serverRawPublicKeys := some spkiList }
  | .withEchConfigList echConfigList => do
      (platform.echConfigNew echConfigList).mapError fun e => .invalidConfig ("ECH config: " ++ e)
      pure { builder with echMode := some (.enable echConfigList) }
  | .withEchGrease generated =>
      .ok { builder with echMode := some (.grease (generated.getD (List.replicate 32 0))) }
  | .withCertCompression => .ok { builder with enableCertCompression := true }

/-- A sequence of calls on a new builder. -/
def configure (platform : ClientPlatform) (calls : List ClientCall) :
    Except TlsError ClientBuilder :=
  calls.foldlM (apply platform) {}

end ClientBuilder

/-! ## What the calls ask for -/

namespace ClientCall

/-- A call that is not refused. -/
def Succeeds (platform : ClientPlatform) : ClientCall → Prop
  | withEchConfigList echConfigList => platform.echConfigNew echConfigList = .ok ()
  | _ => True

def protocolVersions : ClientCall → Option (List ProtocolVersion)
  | withTls12Fallback => some [.tls13, .tls12]
  | withProtocolVersions versions => some versions
  | _ => none

def trustedCert : ClientCall → Option Bytes
  | withTrustedCertDer cert => some cert
  | _ => none

def resumptionCapacity : ClientCall → Option Nat
  | withResumptionCapacity cap => some cap
  | _ => none

def alpnProtocols : ClientCall → Option (List Bytes)
  | withAlpnProtocols protocols => some protocols
  | _ => none

def clientCert : ClientCall → Option (List Bytes × SharedKey)
  | withClientCert certs key => some (certs, { key })
  | _ => none

def certPins : ClientCall → Option (List Digest)
  | withCertPinning pins => some pins
  | _ => none

def crls : ClientCall → Option (List Bytes)
  | withCrl crls => some crls
  | _ => none

def keyLogPolicy : ClientCall → Option KeyLogPolicy
  | withKeyLogFile path => some (.file path)
  | withKeyLogCustom logger => some (.custom logger)
  | _ => none

def intermediateCache : ClientCall → Option CacheHandle
  | withIntermediateCache cache => some cache
  | _ => none

def rootStoreBuilder : ClientCall → Option RootStoreBuilder
  | withRootStoreBuilder roots => some roots
  | _ => none

def ctLogs : ClientCall → Option (List CtLog × SctPolicy)
  | withCtLogs logs policy => some (logs, policy)
  | _ => none

def quicPreview : ClientCall → Option Bool
  | withQuicPreview enabled => some enabled
  | _ => none

def provider : ClientCall → Option CryptoProvider
  | withProvider provider => some provider
  | _ => none

def serverRawPublicKeys : ClientCall → Option (List Bytes)
  | withServerRawPublicKeys spkiList => some spkiList
  | _ => none

def echMode : ClientCall → Option EchMode
  | withEchConfigList echConfigList => some (.enable echConfigList)
  | withEchGrease generated => some (.grease (generated.getD (List.replicate 32 0)))
  | _ => none

/-- What a sequence of calls asks for: the certificates it adds, the switches it turns on and its
last word on every other option. -/
def asked (platform : ClientPlatform) (calls : List ClientCall) : ClientBuilder where
  protocolVersions := Setters.last protocolVersions calls
  trustedCerts := calls.filterMap trustedCert
  useWebpkiRoots := calls.any (· matches withWebpkiRoots)
  resumptionCapacity := (Setters.last resumptionCapacity calls).getD 256
  alpn := (Setters.last alpnProtocols calls).getD []
  clientCert := Setters.last clientCert calls
  dangerAcceptInvalidCerts := calls.any (· matches withDangerAcceptInvalidCerts)
  dangerAcceptInvalidHostnames := calls.any (· matches withDangerAcceptInvalidHostnames)
  certPins := (Setters.last certPins calls).getD []
  crls := (Setters.last crls calls).getD []
  keyLogPolicy := Setters.last keyLogPolicy calls
  intermediateCache := Setters.last intermediateCache calls
  enableEarlyData := calls.any (· matches withEarlyData)
  quicPreview := (Setters.last quicPreview calls).getD false
  extraRootStore := (Setters.last rootStoreBuilder calls).map
    (·.build platform.toPlatform platform.pemCerts)
  ctLogs := Setters.last ctLogs calls
  provider := Setters.last provider calls
  serverRawPublicKeys := Setters.last serverRawPublicKeys calls
  echMode := Setters.last echMode calls
  enableCertCompression := calls.any (· matches withCertCompression)

end ClientCall

namespace ClientBuilder

section Asked

attribute [local simp] ClientCall.protocolVersions ClientCall.trustedCert
  ClientCall.resumptionCapacity ClientCall.alpnProtocols ClientCall.clientCert ClientCall.certPins
  ClientCall.crls ClientCall.keyLogPolicy ClientCall.intermediateCache ClientCall.rootStoreBuilder
  ClientCall.ctLogs ClientCall.quicPreview ClientCall.provider ClientCall.serverRawPublicKeys
  ClientCall.echMode

/-- A call on what was asked for makes what is asked for with that call. -/
theorem apply_asked (platform : ClientPlatform) (calls : List ClientCall) (call : ClientCall)
    (next : ClientBuilder) :
    apply platform (ClientCall.asked platform calls) call = .ok next ↔
      call.Succeeds platform ∧ next = ClientCall.asked platform (calls ++ [call]) := by
  cases call
  case withEchConfigList echConfigList =>
    simp [apply, ClientCall.Succeeds, ClientCall.asked, Setters.last_concat, List.filterMap_cons,
      Unique.exists_iff, eq_comm (a := next)]
  all_goals
    simp [apply, ClientCall.Succeeds, ClientCall.asked, Setters.last_concat, List.filterMap_cons,
      eq_comm (a := next)]

end Asked

/-- The calls succeed when every ECH configuration list is usable, and leave what they ask for. -/
theorem configure_eq_ok_iff {platform : ClientPlatform} {calls : List ClientCall}
    {builder : ClientBuilder} :
    configure platform calls = .ok builder ↔
      (∀ call ∈ calls, call.Succeeds platform) ∧ builder = ClientCall.asked platform calls :=
  Setters.foldlM_closed (ClientCall.asked platform) (ClientCall.Succeeds platform)
    (apply_asked platform)

end ClientBuilder

/-! ## The servers that a client trusts -/

namespace SctVerifier

/-- A handshake that passes the policy is accepted when the inner verifier accepts it. -/
theorem accepts_of_passes {crates : Crates} {inner : ServerCertVerifier} {policy : SctPolicy}
    {logs : List CtLog} {presented : Presented} (passes : Passes crates policy logs presented)
    (accepted : inner.Accepts presented) :
    (toVerifier crates ⟨inner, policy, logs⟩).Accepts presented := by
  unfold Passes ServerCertVerifier.Accepts toVerifier verifyServerCert at passes
  unfold ServerCertVerifier.Accepts at accepted
  unfold ServerCertVerifier.Accepts toVerifier verifyServerCert
  by_cases enabled : policy = .disabled
  · simp [enabled, accepted]
  · have same : complaint crates ⟨inner, policy, logs⟩ presented =
        complaint crates ⟨.acceptAll, policy, logs⟩ presented := rfl
    simp only [enabled, if_false] at passes
    simp only [enabled, if_false, same]
    cases complained : complaint crates ⟨.acceptAll, policy, logs⟩ presented with
    | none => simp [accepted]
    | some message =>
        cases strict : policy.isStrict
        · simp [accepted]
        · simp [complained, strict] at passes

end SctVerifier

namespace RustcryptoClientConfigBuilder

variable {platform : Platform} {builder : RustcryptoClientConfigBuilder} {presented : Presented}

theorem sctVerifier_accepts_iff {inner : ServerCertVerifier} :
    (builder.sctVerifier platform inner).Accepts presented ↔
      (∀ policy logs, builder.sctPolicy = some (policy, logs) →
        SctVerifier.Passes platform.crates policy logs presented) ∧ inner.Accepts presented := by
  constructor
  · intro accepted
    obtain ⟨passes, -, accepted⟩ := builder.passes_of_sctVerifier_accepts platform accepted
    exact ⟨passes, accepted⟩
  · rintro ⟨passes, accepted⟩
    unfold sctVerifier
    split
    · exact accepted
    · exact accepted
    · next policy logs enabled configured =>
        exact SctVerifier.accepts_of_passes (passes policy logs configured) accepted

theorem baseVerifier_accepts_iff {base : ServerCertVerifier}
    (built : builder.baseVerifier platform = .ok base) :
    base.Accepts presented ↔
      (builder.pinnedCerts ≠ [] →
        platform.crates.sha256 presented.endEntity ∈ builder.pinnedCerts) ∧
      platform.webpki platform.pureProvider builder.rootStore
        (if builder.pinnedCerts = [] then builder.crls else []) presented = .ok () := by
  unfold baseVerifier at built
  split_ifs at built with pinned revocable
  · have pins : builder.pinnedCerts ≠ [] := by simpa using pinned
    simp only [Except.bind_eq_ok_iff, Except.mapError_eq_ok_iff, Platform.buildWebpki_eq_ok_iff,
      Except.pure_eq_ok_iff] at built
    obtain ⟨_, ⟨_, _, rfl⟩, rfl⟩ := built
    simp [pins]
  · have noPins : builder.pinnedCerts = [] := by simpa using pinned
    simp only [Platform.crlAwareServerVerifier, Except.mapError_eq_ok_iff,
      Platform.buildWebpki_eq_ok_iff] at built
    obtain ⟨_, _, rfl⟩ := built
    simp [noPins]
  · have noPins : builder.pinnedCerts = [] := by simpa using pinned
    have noCrls : builder.crls = [] := by simpa using revocable
    simp only [Except.mapError_eq_ok_iff, Platform.buildWebpki_eq_ok_iff] at built
    obtain ⟨_, _, rfl⟩ := built
    simp [noPins, noCrls]

end RustcryptoClientConfigBuilder

namespace ClientBuilder

variable (platform : Platform) (builder : ClientBuilder) (presented : Presented)

/-- The provider that chains are validated with; the adapter path has its own. -/
def verifyingProvider : CryptoProvider :=
  if builder.useAdapter then platform.pureProvider else builder.resolvedProvider platform

/-- The servers that a builder asks its client to trust.  Raw public keys replace the certificate
checks; without them and without `danger_accept_invalid_certs` a chain has to end in the configured
roots, and `danger_accept_invalid_hostnames` drops the name, the pins, the revocation lists and the
CT policy from the rest. -/
def TrustsServer : Prop :=
  match builder.serverRawPublicKeys with
  | some spkiList => presented.endEntity ∈ spkiList
  | none =>
      builder.dangerAcceptInvalidCerts = true ∨
        ∃ roots, builder.rootStore platform = .ok roots ∧
          if builder.dangerAcceptInvalidHostnames then
            platform.webpki (builder.resolvedProvider platform) roots [] presented = .ok () ∨
              ∃ error, platform.webpki (builder.resolvedProvider platform) roots [] presented =
                .error error ∧ error.isNameMismatch = true
          else
            builder.PassesPins platform presented ∧ builder.PassesCt platform presented ∧
              platform.webpki (builder.verifyingProvider platform) roots
                (if builder.certPins = [] then builder.crls else []) presented = .ok ()

variable {platform builder presented}

theorem adapted_accepts_iff {roots : RootCertStore} {base : ServerCertVerifier}
    (based : (builder.adapter roots).baseVerifier platform = .ok base) :
    (builder.adapted platform roots base).verifier.Accepts presented ↔
      builder.PassesPins platform presented ∧ builder.PassesCt platform presented ∧
        platform.webpki platform.pureProvider roots
          (if builder.certPins = [] then builder.crls else []) presented = .ok () := by
  refine ⟨adapted_accepts based, ?_⟩
  rintro ⟨pins, ct, validated⟩
  refine RustcryptoClientConfigBuilder.sctVerifier_accepts_iff.mpr ⟨?_, ?_⟩
  · intro policy logs configured
    obtain ⟨⟨logs', policy'⟩, asked, same⟩ := Option.map_eq_some_iff.mp configured
    obtain ⟨rfl, rfl⟩ := Prod.mk.inj same
    exact ct _ _ asked
  · refine (builder.adapter roots).cacheVerifier_accepts_iff.mpr ?_
    exact (RustcryptoClientConfigBuilder.baseVerifier_accepts_iff based).mpr ⟨pins, validated⟩

/-- A built client accepts exactly the servers that its builder asks it to trust. -/
theorem accepts_iff_trustsServer {config : ClientConfig}
    (built : builder.build platform = .ok config) :
    config.verifier.Accepts presented ↔ builder.TrustsServer platform presented := by
  cases built_of_build built with
  | rawPublicKeys keys =>
      simp only [TrustsServer, keys]
      exact RawPublicKeyServerVerifier.accepts_iff _
  | dangerCerts keys flag =>
      simp only [TrustsServer, keys, flag, true_or, iff_true]
      exact ServerCertVerifier.acceptAll_accepts presented
  | @dangerHostnames roots keys checked flag rooted =>
      simp only [TrustsServer, keys, checked, flag, rooted, Bool.false_eq_true, false_or, if_true,
        Except.ok.injEq, exists_eq_left']
      exact DangerHostnameIgnoreVerifier.accepts_iff _
  | @adapter roots base keys checked named used rooted based =>
      simp only [TrustsServer, keys, checked, named, rooted, Bool.false_eq_true, false_or, if_false,
        Except.ok.injEq, exists_eq_left', verifyingProvider, used, if_true]
      exact adapted_accepts_iff based
  | @plain roots keys checked named unused rooted =>
      have unconfigured : builder.certPins = [] ∧ builder.crls = [] ∧ builder.ctLogs = none := by
        simpa [useAdapter, and_assoc] using unused
      obtain ⟨noPins, noCrls, noLogs⟩ := unconfigured
      simp only [TrustsServer, keys, checked, named, rooted, Bool.false_eq_true, false_or, if_false,
        Except.ok.injEq, exists_eq_left', verifyingProvider, unused]
      simp [PassesPins, PassesCt, noPins, noCrls, noLogs, finished, assembled]

/-- Every sequence of calls fails at an ECH configuration list that is not usable, or leaves the
builder that it asks for, whose client then accepts exactly the servers that it asks to trust. -/
theorem client_follows_calls (platform : ClientPlatform) (calls : List ClientCall) :
    (∀ builder, configure platform calls = .ok builder ↔
      (∀ call ∈ calls, call.Succeeds platform) ∧ builder = ClientCall.asked platform calls) ∧
    ∀ builder config, configure platform calls = .ok builder →
      builder.build platform.toPlatform = .ok config →
      ∀ presented, config.verifier.Accepts presented ↔
        (ClientCall.asked platform calls).TrustsServer platform.toPlatform presented := by
  refine ⟨fun _ => configure_eq_ok_iff, fun builder config configured built presented => ?_⟩
  obtain ⟨-, rfl⟩ := configure_eq_ok_iff.mp configured
  exact accepts_iff_trustsServer built

end ClientBuilder

end OxiTls
