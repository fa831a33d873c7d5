import OxiTls.Client.Builder

/-!
# What each path of the client builder produces

`ClientBuilder.Built` lists the configurations that a successful `build` can return, one
constructor per path, as explicit records.  It is the only place where the builders are unfolded:
the results about options and about server checks follow from its cases.
-/

namespace OxiTls

namespace RustcryptoClientConfigBuilder

variable (platform : Platform) (builder : RustcryptoClientConfigBuilder)

/-- The configuration the adapter returns over a base verifier. -/
def configuration (base : ServerCertVerifier) : ClientConfig where
  provider := platform.pureProvider
  versions := [.tls13, .tls12]
  echMode := none
  verifier := builder.stack platform base
  clientAuth := none
  alpnProtocols := builder.alpnProtocols
  keyLog := if builder.keylog = .disabled then none else some builder.keylog
  resumption := if builder.resumptionDisabled then .disabled else .inMemorySessions 256

/-- The options complete a configuration with no client authentication. -/
theorem withOptions_eq (base : ServerCertVerifier) :
    builder.withOptions (WantsClientCert.withNoClientAuth
        ⟨⟨platform.pureProvider, [.tls13, .tls12], none⟩, builder.stack platform base⟩) =
      builder.configuration platform base := by
  unfold withOptions configuration
  cases protocols : builder.alpnProtocols <;> by_cases silent : builder.keylog = .disabled <;>
    cases builder.resumptionDisabled <;>
    simp [silent, WantsClientCert.withNoClientAuth, WantsClientCert.withResolver]

/-- The adapter succeeds exactly when the base verifier can be built and the provider supports the
default versions. -/
theorem build_eq_ok_iff {config : ClientConfig} :
    builder.build platform = .ok config ↔
      ∃ base, builder.baseVerifier platform = .ok base ∧
        platform.pureProvider.checkVersions [.tls13, .tls12] = .ok () ∧
          config = builder.configuration platform base := by
  simp only [build, CryptoProvider.withSafeDefaultProtocolVersions,
    CryptoProvider.withProtocolVersions, Except.bind_eq_ok_iff, Except.mapError_eq_ok_iff,
    Except.pure_eq_ok_iff]
  constructor
  · rintro ⟨base, built, _, ⟨_, checked, rfl⟩, rfl⟩
    exact ⟨base, built, checked, builder.withOptions_eq platform base⟩
  · rintro ⟨base, built, checked, rfl⟩
    exact ⟨base, built, _, ⟨(), checked, rfl⟩, builder.withOptions_eq platform base⟩

end RustcryptoClientConfigBuilder

namespace ClientBuilder

variable (platform : Platform) (builder : ClientBuilder)

/-! ## The shared pieces as records -/

/-- The versions the builder was asked to offer. -/
def allowedVersions : List ProtocolVersion :=
  if builder.echMode.isSome then [.tls13] else builder.protocolVersions.getD [.tls13]

/-- The certificate and key the builder was asked to present. -/
def identity : Option CertifiedKey :=
  builder.clientCert.map fun (certs, handle) => ⟨certs, handle.key⟩

/-- The ALPN list the builder was asked to announce: the configured one, plus `h3` once when the
QUIC preview is on. -/
def announcedAlpn : List Bytes :=
  if builder.quicPreview ∧ h3 ∉ builder.alpn then builder.alpn ++ [h3] else builder.alpn

/-- The compression algorithms the builder was asked to install. -/
def compression : List CertCompression :=
  if builder.enableCertCompression then [.oxiArcZlib] else []

/-- A configuration with the resolved provider, the allowed versions, the ECH mode and the client
identity of the builder, and the given verifier. -/
def assembled (verifier : ServerCertVerifier) : ClientConfig where
  provider := builder.resolvedProvider platform
  versions := builder.allowedVersions
  echMode := builder.echMode
  verifier := verifier
  clientAuth := builder.identity
  alpnProtocols := builder.alpn
  keyLog := builder.keyLogPolicy
  resumption := builder.resumption
  enableEarlyData := builder.enableEarlyData

/-- The configuration of a path that ends in the shared tail. -/
def finished (verifier : ServerCertVerifier) : ClientConfig :=
  { builder.assembled platform verifier with
    alpnProtocols := builder.announcedAlpn
    certCompressors := builder.compression
    certDecompressors := builder.compression }

theorem builderMid_eq_ok {mid : WantsVerifier} (built : builder.builderMid platform = .ok mid) :
    mid = ⟨builder.resolvedProvider platform, builder.allowedVersions, builder.echMode⟩ := by
  unfold builderMid at built
  unfold allowedVersions
  cases mode : builder.echMode with
  | none =>
      simp only [mode, CryptoProvider.withProtocolVersions, Except.mapError_eq_ok_iff,
        Except.bind_eq_ok_iff, Except.pure_eq_ok_iff] at built
      obtain ⟨_, _, rfl⟩ := built
      rfl
  | some mode' =>
      simp only [mode, CryptoProvider.withEch, CryptoProvider.withProtocolVersions,
        Except.mapError_eq_ok_iff, Except.bind_eq_ok_iff, Except.pure_eq_ok_iff] at built
      obtain ⟨_, ⟨_, _, rfl⟩, rfl⟩ := built
      rfl

theorem withClientAuth_eq_ok {wants : WantsClientCert} {config : ClientConfig}
    (built : builder.withClientAuth wants = .ok config) :
    config = wants.withResolver builder.identity := by
  unfold withClientAuth at built
  unfold identity
  cases client : builder.clientCert with
  | none =>
      simp only [client, Except.pure_eq_ok_iff] at built
      exact built.symm
  | some pair =>
      obtain ⟨certs, handle⟩ := pair
      simp only [client, SharedKey.intoKey_eq, WantsClientCert.withClientAuthCert,
        Except.mapError_eq_ok_iff, Except.bind_eq_ok_iff, Except.pure_eq_ok_iff,
        Except.ok.injEq] at built
      obtain ⟨_, rfl, _, _, _, _, rfl⟩ := built
      rfl

theorem withSingleResolver_eq_ok {wants : WantsClientCert} {config : ClientConfig}
    (built : builder.withSingleResolver platform wants = .ok config) :
    config = wants.withResolver builder.identity := by
  unfold withSingleResolver at built
  unfold identity
  cases client : builder.clientCert with
  | none =>
      simp only [client, Except.pure_eq_ok_iff] at built
      exact built.symm
  | some pair =>
      obtain ⟨certs, handle⟩ := pair
      simp only [client, SharedKey.intoKey_eq, Except.mapError_eq_ok_iff, Except.bind_eq_ok_iff,
        Except.pure_eq_ok_iff, Except.ok.injEq] at built
      obtain ⟨_, rfl, _, _, rfl⟩ := built
      rfl

/-- Every path sets the sessions the same way. -/
theorem withSessions_eq (config : ClientConfig) :
    builder.withSessions config =
      { config with
        resumption := builder.resumption
        enableEarlyData := builder.enableEarlyData || config.enableEarlyData } := by
  cases early : builder.enableEarlyData <;> simp [withSessions, early]

/-- The options of a configuration that authenticates the client are those of the builder, once the
ALPN list, the key log and the sessions have been set. -/
theorem withOptions_eq (verifier : ServerCertVerifier) :
    builder.withSessions (builder.withKeyLog
        { WantsClientCert.withResolver
            ⟨⟨builder.resolvedProvider platform, builder.allowedVersions, builder.echMode⟩,
              verifier⟩ builder.identity with
          alpnProtocols := builder.alpn }) =
      builder.assembled platform verifier := by
  rw [withSessions_eq]
  cases policy : builder.keyLogPolicy <;>
    simp [withKeyLog, WantsClientCert.withResolver, assembled, policy]

/-- The shared tail adds the `h3` reservation and the compression. -/
theorem finish_eq (verifier : ServerCertVerifier) :
    builder.finish (WantsClientCert.withResolver
        ⟨⟨builder.resolvedProvider platform, builder.allowedVersions, builder.echMode⟩, verifier⟩
        builder.identity) =
      builder.finished platform verifier := by
  by_cases reserve : builder.quicPreview = true ∧ h3 ∉ builder.alpn <;>
    cases policy : builder.keyLogPolicy <;> cases compressed : builder.enableCertCompression <;>
    simp [finish, withCompression, withSessions_eq, withKeyLog, withH3,
      WantsClientCert.withResolver, finished, assembled, announcedAlpn, compression, reserve,
      policy, compressed]

/-! ## The configurations a build returns -/

/-- The configuration of the adapter path. -/
def adapted (roots : RootCertStore) (base : ServerCertVerifier) : ClientConfig :=
  { (builder.adapter roots).configuration platform base with
    resumption := builder.resumption
    enableEarlyData := builder.enableEarlyData }

/-- The configurations a successful build can return. -/
inductive Built : ClientConfig → Prop
  | rawPublicKeys {spkiList : List Bytes} (keys : builder.serverRawPublicKeys = some spkiList) :
      Built (builder.assembled platform (RawPublicKeyServerVerifier.toVerifier ⟨spkiList⟩))
  | dangerCerts (keys : builder.serverRawPublicKeys = none)
      (flag : builder.dangerAcceptInvalidCerts = true) :
      Built (builder.finished platform dangerousNoCertVerifier)
  | dangerHostnames {roots : RootCertStore} (keys : builder.serverRawPublicKeys = none)
      (checked : builder.dangerAcceptInvalidCerts = false)
      (flag : builder.dangerAcceptInvalidHostnames = true)
      (rooted : builder.rootStore platform = .ok roots) :
      Built (builder.finished platform (DangerHostnameIgnoreVerifier.toVerifier
        ⟨platform.webpkiServerVerifier (builder.resolvedProvider platform) roots []⟩))
  | adapter {roots : RootCertStore} {base : ServerCertVerifier}
      (keys : builder.serverRawPublicKeys = none)
      (checked : builder.dangerAcceptInvalidCerts = false)
      (named : builder.dangerAcceptInvalidHostnames = false)
      (used : builder.useAdapter = true)
      (rooted : builder.rootStore platform = .ok roots)
      (based : (builder.adapter roots).baseVerifier platform = .ok base) :
      Built (builder.adapted platform roots base)
  | plain {roots : RootCertStore} (keys : builder.serverRawPublicKeys = none)
      (checked : builder.dangerAcceptInvalidCerts = false)
      (named : builder.dangerAcceptInvalidHostnames = false)
      (unused : builder.useAdapter = false)
      (rooted : builder.rootStore platform = .ok roots) :
      Built (builder.finished platform
        (platform.webpkiServerVerifier (builder.resolvedProvider platform) roots []))

variable {platform builder}

theorem built_of_build {config : ClientConfig} (built : builder.build platform = .ok config) :
    builder.Built platform config := by
  unfold build at built
  split at built
  · contradiction
  simp only [Except.bind_eq_ok_iff] at built
  obtain ⟨mid, prepared, built⟩ := built
  obtain rfl := builder.builderMid_eq_ok platform prepared
  split at built
  · next spkiList keys =>
      simp only [buildRawPublicKeys, Except.bind_eq_ok_iff, Except.pure_eq_ok_iff] at built
      obtain ⟨partialConfig, authenticated, rfl⟩ := built
      obtain rfl := builder.withClientAuth_eq_ok authenticated
      rw [WantsVerifier.withVerifier, withOptions_eq]
      exact .rawPublicKeys keys
  · next keys =>
      split_ifs at built with flag hostnames used
      · simp only [buildDangerCerts, Except.bind_eq_ok_iff, Except.pure_eq_ok_iff] at built
        obtain ⟨partialConfig, authenticated, rfl⟩ := built
        obtain rfl := builder.withSingleResolver_eq_ok platform authenticated
        rw [WantsVerifier.withVerifier, finish_eq]
        exact .dangerCerts keys flag
      · simp only [buildDangerHostnames, Except.bind_eq_ok_iff, Except.mapError_eq_ok_iff,
          Platform.buildWebpki_eq_ok_iff, Except.pure_eq_ok_iff] at built
        obtain ⟨roots, rooted, _, ⟨_, _, rfl⟩, partialConfig, authenticated, rfl⟩ := built
        obtain rfl := builder.withClientAuth_eq_ok authenticated
        rw [WantsVerifier.withVerifier, finish_eq]
        exact .dangerHostnames keys (by simpa using flag) hostnames rooted
      · simp only [buildAdapter, Except.bind_eq_ok_iff, Except.pure_eq_ok_iff,
          RustcryptoClientConfigBuilder.build_eq_ok_iff] at built
        obtain ⟨roots, rooted, _, ⟨base, based, _, rfl⟩, rfl⟩ := built
        have adapted := Built.adapter keys (by simpa using flag) (by simpa using hostnames) used
          rooted based
        simpa [ClientBuilder.adapted, withSessions_eq,
          RustcryptoClientConfigBuilder.configuration] using adapted
      · simp only [buildPlain, Except.bind_eq_ok_iff, Except.pure_eq_ok_iff] at built
        obtain ⟨roots, rooted, partialConfig, authenticated, rfl⟩ := built
        obtain rfl := builder.withClientAuth_eq_ok authenticated
        rw [WantsVerifier.withVerifier, finish_eq]
        exact .plain keys (by simpa using flag) (by simpa using hostnames) (by simpa using used)
          rooted

end ClientBuilder

end OxiTls
