import OxiTls.Client.Checks

/-!
# Options of a built client configuration

Whether the versions, the ECH mode and the remaining options of a builder reach the configuration.
The paths of `build` differ in the options they apply, so each of these properties holds exactly
outside the combinations that a path drops.
-/

namespace OxiTls

namespace ClientBuilder

variable (platform : Platform) (builder : ClientBuilder)

/-- The builder takes the adapter path. -/
def TakesAdapter : Prop :=
  builder.serverRawPublicKeys = none ∧ builder.dangerAcceptInvalidCerts = false ∧
    builder.dangerAcceptInvalidHostnames = false ∧ builder.useAdapter = true

/-! ## Versions and ECH -/

/-- The configuration offers only allowed versions and carries the ECH mode. -/
def KeepsProtocol (config : ClientConfig) : Prop :=
  config.versions ⊆ builder.allowedVersions ∧
    ∀ mode, builder.echMode = some mode → config.echMode = some mode

/-- Both TLS 1.2 and TLS 1.3 were asked for, without ECH. -/
def AllowsDefaults : Prop :=
  builder.echMode = none ∧
    ∃ versions, builder.protocolVersions = some versions ∧
      ProtocolVersion.tls12 ∈ versions ∧ ProtocolVersion.tls13 ∈ versions

variable {platform builder}

theorem assembled_keepsProtocol (verifier : ServerCertVerifier) :
    builder.KeepsProtocol (builder.assembled platform verifier) :=
  ⟨List.Subset.refl _, fun _ configured => configured⟩

theorem finished_keepsProtocol (verifier : ServerCertVerifier) :
    builder.KeepsProtocol (builder.finished platform verifier) :=
  ⟨List.Subset.refl _, fun _ configured => configured⟩

/-- The adapter's default versions are allowed only when both of them were asked for. -/
theorem adapted_keepsProtocol_iff {roots : RootCertStore} {base : ServerCertVerifier} :
    builder.KeepsProtocol (builder.adapted platform roots base) ↔ builder.AllowsDefaults := by
  have offered : (builder.adapted platform roots base).versions = [.tls13, .tls12] := rfl
  have mode : (builder.adapted platform roots base).echMode = none := rfl
  unfold KeepsProtocol AllowsDefaults
  rw [offered, mode]
  cases ech : builder.echMode with
  | some _ => simp
  | none =>
      cases configured : builder.protocolVersions <;>
        simp [allowedVersions, ech, configured, and_comm]

/-- A build keeps the protocol exactly when it avoids the adapter path or its default versions
were asked for. -/
theorem keepsProtocol_iff {config : ClientConfig} (built : builder.build platform = .ok config) :
    builder.KeepsProtocol config ↔ (builder.TakesAdapter → builder.AllowsDefaults) := by
  cases built_of_build built with
  | rawPublicKeys present =>
      simp [TakesAdapter, present, assembled_keepsProtocol]
  | dangerCerts _ flag => simp [TakesAdapter, flag, finished_keepsProtocol]
  | dangerHostnames _ _ flag _ => simp [TakesAdapter, flag, finished_keepsProtocol]
  | adapter keys checked named used _ _ =>
      simp [TakesAdapter, keys, checked, named, used, adapted_keepsProtocol_iff]
  | plain _ _ _ unused _ => simp [TakesAdapter, unused, finished_keepsProtocol]

/-- A builder with one pin and an ECH mode, and no call to `with_tls12_fallback`. -/
def pinnedEch : ClientBuilder where
  trustedCerts := [[7]]
  certPins := [Crates.inert.sha256 [7, 1]]
  echMode := some (.enable [1])

/-- The configuration of `pinnedEch`. -/
def pinnedEchConfig : ClientConfig :=
  pinnedEch.adapted .miniature [⟨[7], [7]⟩]
    (CertPinVerifier.toVerifier .inert
      ⟨pinnedEch.certPins, Platform.miniature.webpkiServerVerifier .permissive [⟨[7], [7]⟩] []⟩)

theorem keepsProtocol_iff_pinnedEch :
    pinnedEch.KeepsProtocol pinnedEchConfig ↔
      (pinnedEch.TakesAdapter → pinnedEch.AllowsDefaults) :=
  keepsProtocol_iff (show pinnedEch.build .miniature = .ok pinnedEchConfig from rfl)

/-- The pin costs the client its ECH mode and lets it offer TLS 1.2. -/
theorem pinnedEch_not_keepsProtocol :
    pinnedEch.build .miniature = .ok pinnedEchConfig ∧
      ProtocolVersion.tls12 ∈ pinnedEchConfig.versions ∧
      ProtocolVersion.tls12 ∉ pinnedEch.allowedVersions ∧
      pinnedEchConfig.echMode = none ∧
      ¬ pinnedEch.KeepsProtocol pinnedEchConfig := by
  refine ⟨rfl, by decide, by decide, rfl, fun keeps => ?_⟩
  have offered := keeps.1 (show ProtocolVersion.tls12 ∈ pinnedEchConfig.versions by decide)
  revert offered
  decide

/-! ## The remaining options -/

variable (platform builder)

/-- Every intermediate of every chain the verifier accepts is offered to the configured cache. -/
def FeedsCache (verifier : ServerCertVerifier) : Prop :=
  ∀ cache, builder.intermediateCache = some cache → ∀ presented, verifier.Accepts presented →
    ∀ cert ∈ presented.intermediates, (cache, cert) ∈ (verifier.verifyServerCert presented).recorded

/-- The configuration carries every option that does not concern verification. -/
structure CarriesOptions (config : ClientConfig) : Prop where
  identity : config.clientAuth = builder.identity
  alpn : config.alpnProtocols = builder.announcedAlpn
  keyLog : config.keyLogSink = builder.keyLogPolicy.bind KeyLogPolicy.sink
  resumption : config.resumption.capacity = builder.resumptionCapacity
  earlyData : config.enableEarlyData = builder.enableEarlyData
  compressors : config.certCompressors = builder.compression
  decompressors : config.certDecompressors = builder.compression
  cache : builder.FeedsCache config.verifier

/-- The QUIC preview has nothing to add to the ALPN list. -/
def AlpnComplete : Prop := builder.quicPreview = true → h3 ∈ builder.alpn

/-- There is no cache, or no accepted chain has an intermediate for it. -/
def NothingToCache (accepts : Presented → Prop) : Prop :=
  builder.intermediateCache = none ∨ ∀ presented, accepts presented → presented.intermediates = []

/-- The options survive the path the builder takes. -/
def KeepsOptions : Prop :=
  match builder.serverRawPublicKeys with
  | some spkiList =>
      builder.AlpnComplete ∧ builder.enableCertCompression = false ∧
        (builder.intermediateCache = none ∨ spkiList = [])
  | none =>
      if builder.dangerAcceptInvalidCerts then builder.intermediateCache = none
      else if builder.dangerAcceptInvalidHostnames = false ∧ builder.useAdapter = true then
        builder.clientCert = none ∧ builder.AlpnComplete ∧ builder.enableCertCompression = false
      else
        builder.NothingToCache fun presented =>
          builder.Validates platform presented (builder.resolvedProvider platform) []

variable {platform builder}

@[simp]
theorem capacity_resumption : builder.resumption.capacity = builder.resumptionCapacity := by
  unfold resumption
  split_ifs with disabled
  · simp [Resumption.capacity, disabled]
  · rfl

theorem announcedAlpn_eq_iff : builder.alpn = builder.announcedAlpn ↔ builder.AlpnComplete := by
  unfold announcedAlpn AlpnComplete
  split_ifs with reserved
  · simp [reserved]
  · simpa using reserved

theorem compression_eq_nil_iff :
    [] = builder.compression ↔ builder.enableCertCompression = false := by
  cases enabled : builder.enableCertCompression <;> simp [compression, enabled]

/-- A verifier that never records anything feeds the cache only when there is nothing to record. -/
theorem feedsCache_iff_of_silent {verifier : ServerCertVerifier}
    (silent : ∀ presented, (verifier.verifyServerCert presented).recorded = []) :
    builder.FeedsCache verifier ↔ builder.NothingToCache verifier.Accepts := by
  unfold FeedsCache NothingToCache
  cases builder.intermediateCache with
  | none => simp
  | some cache => simp [silent, List.eq_nil_iff_forall_not_mem]

/-- A configuration of the shared tail carries every option that its verifier does not drop. -/
theorem finished_carriesOptions_iff {verifier : ServerCertVerifier} :
    builder.CarriesOptions (builder.finished platform verifier) ↔ builder.FeedsCache verifier :=
  ⟨fun carried => carried.cache, fun fed =>
    ⟨rfl, rfl, rfl, capacity_resumption, rfl, rfl, rfl, fed⟩⟩

/-- The raw public key path leaves out the `h3` reservation, the compression and the cache. -/
theorem rawPublicKeys_carriesOptions_iff {spkiList : List Bytes} :
    builder.CarriesOptions
        (builder.assembled platform (RawPublicKeyServerVerifier.toVerifier ⟨spkiList⟩)) ↔
      builder.AlpnComplete ∧ builder.enableCertCompression = false ∧
        (builder.intermediateCache = none ∨ spkiList = []) := by
  have silent (presented : Presented) :
      ((RawPublicKeyServerVerifier.toVerifier ⟨spkiList⟩).verifyServerCert presented).recorded =
        [] := by
    simp only [RawPublicKeyServerVerifier.toVerifier, RawPublicKeyServerVerifier.verifyServerCert]
    split <;> rfl
  have fed : builder.FeedsCache (RawPublicKeyServerVerifier.toVerifier ⟨spkiList⟩) ↔
      builder.intermediateCache = none ∨ spkiList = [] := by
    rw [feedsCache_iff_of_silent silent, NothingToCache]
    refine or_congr Iff.rfl ⟨fun vacuous => ?_, ?_⟩
    · refine List.eq_nil_iff_forall_not_mem.mpr fun key trusted => ?_
      have accepted := vacuous ⟨key, [[]], "", [], 0⟩
        ((RawPublicKeyServerVerifier.accepts_iff _).mpr trusted)
      simp at accepted
    · rintro rfl presented accepted
      simp at accepted
  constructor
  · intro carried
    exact ⟨announcedAlpn_eq_iff.mp carried.alpn, compression_eq_nil_iff.mp carried.compressors,
      fed.mp carried.cache⟩
  · rintro ⟨alpn, uncompressed, cache⟩
    exact ⟨rfl, announcedAlpn_eq_iff.mpr alpn, rfl, capacity_resumption, rfl,
      compression_eq_nil_iff.mpr uncompressed, compression_eq_nil_iff.mpr uncompressed,
      fed.mpr cache⟩

/-- The adapter feeds the cache with every chain its stack accepts. -/
theorem adapted_feedsCache {roots : RootCertStore} {base : ServerCertVerifier} :
    builder.FeedsCache (builder.adapted platform roots base).verifier := by
  intro cache configured presented accepted cert member
  obtain ⟨_, delegated, accepted⟩ :=
    (builder.adapter roots).passes_of_sctVerifier_accepts platform accepted
  have recorded : (builder.adapted platform roots base).verifier.verifyServerCert presented =
      CachingVerifier.verifyServerCert ⟨base, cache⟩ presented := by
    refine Eq.trans delegated ?_
    simp [RustcryptoClientConfigBuilder.ocspVerifier,
      RustcryptoClientConfigBuilder.cacheVerifier, adapter, configured,
      CachingVerifier.toVerifier]
  have base_accepted : base.Accepts presented :=
    (builder.adapter roots).cacheVerifier_accepts_iff.mp accepted
  unfold ServerCertVerifier.Accepts at base_accepted
  rw [recorded]
  simp [CachingVerifier.verifyServerCert, base_accepted, member]

/-- The adapter path leaves out the client certificate, the `h3` reservation and the compression. -/
theorem adapted_carriesOptions_iff {roots : RootCertStore} {base : ServerCertVerifier} :
    builder.CarriesOptions (builder.adapted platform roots base) ↔
      builder.clientCert = none ∧ builder.AlpnComplete ∧
        builder.enableCertCompression = false := by
  have anonymous : none = builder.identity ↔ builder.clientCert = none := by
    cases client : builder.clientCert <;> simp [identity, client]
  have logged : (builder.adapted platform roots base).keyLogSink =
      builder.keyLogPolicy.bind KeyLogPolicy.sink := by
    cases policy : builder.keyLogPolicy with
    | none => simp [adapted, adapter, RustcryptoClientConfigBuilder.configuration, policy,
        ClientConfig.keyLogSink]
    | some configured =>
        cases configured <;> simp [adapted, adapter, RustcryptoClientConfigBuilder.configuration,
          policy, ClientConfig.keyLogSink, KeyLogPolicy.sink]
  constructor
  · intro carried
    exact ⟨anonymous.mp carried.identity, announcedAlpn_eq_iff.mp carried.alpn,
      compression_eq_nil_iff.mp carried.compressors⟩
  · rintro ⟨client, alpn, uncompressed⟩
    exact ⟨anonymous.mpr client, announcedAlpn_eq_iff.mpr alpn, logged, capacity_resumption, rfl,
      compression_eq_nil_iff.mpr uncompressed, compression_eq_nil_iff.mpr uncompressed,
      adapted_feedsCache⟩

/-- A `webpki` verifier, with or without the hostname wrapper, feeds the cache only when there is
nothing to record. -/
theorem webpki_feedsCache_iff {roots : RootCertStore} {verifier : ServerCertVerifier}
    (rooted : builder.rootStore platform = .ok roots)
    (silent : ∀ presented, (verifier.verifyServerCert presented).recorded = [])
    (accepts : ∀ presented, verifier.Accepts presented ↔
      platform.webpki (builder.resolvedProvider platform) roots [] presented = .ok () ∨
        builder.dangerAcceptInvalidHostnames = true ∧
          ∃ error, platform.webpki (builder.resolvedProvider platform) roots [] presented =
              .error error ∧ error.isNameMismatch = true) :
    builder.FeedsCache verifier ↔
      builder.NothingToCache fun presented =>
        builder.Validates platform presented (builder.resolvedProvider platform) [] := by
  have validated (presented : Presented) : verifier.Accepts presented ↔
      builder.Validates platform presented (builder.resolvedProvider platform) [] := by
    rw [accepts, Validates]
    simp [rooted]
  rw [feedsCache_iff_of_silent silent]
  unfold NothingToCache
  simp only [validated]

/-- A build carries every option exactly when the path it takes drops none that is set. -/
theorem carriesOptions_iff {config : ClientConfig} (built : builder.build platform = .ok config) :
    builder.CarriesOptions config ↔ builder.KeepsOptions platform := by
  cases built_of_build built with
  | rawPublicKeys keys =>
      rw [rawPublicKeys_carriesOptions_iff]
      simp [KeepsOptions, keys]
  | dangerCerts keys flag =>
      rw [finished_carriesOptions_iff, feedsCache_iff_of_silent fun _ => rfl]
      have busy : ¬ ∀ presented : Presented, presented.intermediates = [] :=
        fun vacuous => List.cons_ne_nil _ _ (vacuous ⟨[], [[]], "", [], 0⟩)
      simp [KeepsOptions, keys, flag, NothingToCache, busy]
  | dangerHostnames keys checked flag rooted =>
      rw [finished_carriesOptions_iff, webpki_feedsCache_iff rooted]
      · simp [KeepsOptions, keys, checked, flag]
      · intro presented
        simp only [DangerHostnameIgnoreVerifier.toVerifier,
          DangerHostnameIgnoreVerifier.verifyServerCert]
        split
        · rfl
        · split <;> rfl
      · intro presented
        rw [DangerHostnameIgnoreVerifier.accepts_iff, flag]
        simp only [true_and]
        exact Iff.rfl
  | adapter keys checked named used _ _ =>
      rw [adapted_carriesOptions_iff]
      simp [KeepsOptions, keys, checked, named, used]
  | plain keys checked named unused rooted =>
      rw [finished_carriesOptions_iff, webpki_feedsCache_iff rooted]
      · simp [KeepsOptions, keys, checked, unused]
      · exact fun _ => rfl
      · simp [named]

/-- A builder with one pin and a client certificate. -/
def pinnedMutual : ClientBuilder where
  trustedCerts := [[7]]
  certPins := [Crates.inert.sha256 [7, 1]]
  clientCert := some ([[9]], ⟨.pkcs8 [9], false⟩)

/-- The configuration of `pinnedMutual`. -/
def pinnedMutualConfig : ClientConfig :=
  pinnedMutual.adapted .miniature [⟨[7], [7]⟩]
    (CertPinVerifier.toVerifier .inert
      ⟨pinnedMutual.certPins, Platform.miniature.webpkiServerVerifier .permissive [⟨[7], [7]⟩] []⟩)

theorem carriesOptions_iff_pinnedMutual :
    pinnedMutual.CarriesOptions pinnedMutualConfig ↔ pinnedMutual.KeepsOptions .miniature :=
  carriesOptions_iff (show pinnedMutual.build .miniature = .ok pinnedMutualConfig from rfl)

/-- The pin costs the client its certificate. -/
theorem pinnedMutual_not_carriesOptions :
    pinnedMutual.build .miniature = .ok pinnedMutualConfig ∧
      pinnedMutualConfig.clientAuth = none ∧
      pinnedMutual.identity = some ⟨[[9]], .pkcs8 [9]⟩ ∧
      ¬ pinnedMutual.CarriesOptions pinnedMutualConfig := by
  refine ⟨rfl, rfl, rfl, fun carried => ?_⟩
  have presented := carried.identity
  contradiction

end ClientBuilder

end OxiTls
