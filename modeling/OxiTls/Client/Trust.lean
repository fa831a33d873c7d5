import OxiTls.Client.Paths

/-!
# Trust requirements of the client builder

`build` admits a builder that has roots, pins, raw public keys or a danger flag.  The paths behind
that check have requirements of their own: wherever a `webpki` verifier is built, `webpki` asks for
roots, also when a pin or the hostname flag was what admitted the builder.
-/

namespace OxiTls

/-- The bundled roots are not empty, and the pure provider supports the default versions. -/
structure Platform.Ordinary (platform : Platform) : Prop where
  bundle : platform.webpkiRootCerts ≠ []
  versions : platform.pureProvider.checkVersions [.tls13, .tls12] = .ok ()

namespace ClientBuilder

variable (platform : Platform) (builder : ClientBuilder)

/-- Every trusted certificate is one that `RootCertStore::add` can parse. -/
def CertsParse : Prop :=
  ∀ cert ∈ builder.trustedCerts, ∃ anchor, platform.trustAnchor cert = .ok anchor

/-- The provider accepts the versions of the builder. -/
def VersionsAccepted : Prop :=
  (builder.resolvedProvider platform).checkVersions builder.allowedVersions = .ok ()

/-- Roots, pins, raw public keys or a danger flag are configured. -/
def Trusts : Prop :=
  builder.hasRoots = true ∨ builder.certPins ≠ [] ∨ builder.serverRawPublicKeys ≠ none ∨
    builder.dangerAcceptInvalidCerts = true ∨ builder.dangerAcceptInvalidHostnames = true

/-- The documented refusal: `build` fails exactly for lack of trust. -/
def RefusesForTrust : Prop :=
  (∃ error, builder.build platform = .error error) ↔ ¬ builder.Trusts

/-- Pins or the hostname flag stand in for the roots, on a path that builds a `webpki` verifier. -/
def RootsMissing : Prop :=
  builder.hasRoots = false ∧ builder.serverRawPublicKeys = none ∧
    builder.dangerAcceptInvalidCerts = false ∧
    (builder.dangerAcceptInvalidHostnames = true ∨ builder.certPins ≠ [])

/-- The provider loads the client key, and the key goes with the chain. -/
def IdentityLoads (provider : CryptoProvider) : Prop :=
  ∀ certs handle, builder.clientCert = some (certs, handle) →
    provider.loadPrivateKey handle.key = .ok () ∧ provider.keysMatch certs handle.key = .ok ()

/-- The client key or the revocation lists that the path of the builder uses are usable. -/
def InputsUsable : Prop :=
  if builder.serverRawPublicKeys.isSome then
    builder.IdentityLoads (builder.resolvedProvider platform)
  else if builder.dangerAcceptInvalidCerts then
    ∀ certs handle, builder.clientCert = some (certs, handle) →
      platform.pureProvider.loadPrivateKey handle.key = .ok ()
  else if !builder.dangerAcceptInvalidHostnames && builder.useAdapter then
    builder.certPins = [] → ∀ crl ∈ builder.crls, platform.checkCrl crl = .ok ()
  else builder.IdentityLoads (builder.resolvedProvider platform)

variable {platform builder}

/-! ## When the shared pieces succeed -/

theorem builderMid_of_accepted (accepted : builder.VersionsAccepted platform) :
    builder.builderMid platform =
      .ok ⟨builder.resolvedProvider platform, builder.allowedVersions, builder.echMode⟩ := by
  unfold VersionsAccepted allowedVersions at accepted
  unfold builderMid allowedVersions
  cases mode : builder.echMode with
  | none =>
      simp only [mode, Option.isSome_none, Bool.false_eq_true, if_false] at accepted ⊢
      rw [CryptoProvider.withProtocolVersions, accepted]
      rfl
  | some mode' =>
      simp only [mode, Option.isSome_some, if_true] at accepted ⊢
      rw [CryptoProvider.withEch, CryptoProvider.withProtocolVersions, accepted]
      rfl

/-- The store is empty exactly when no root is configured. -/
theorem rootStore_of_parse (bundle : platform.webpkiRootCerts ≠ [])
    (parse : builder.CertsParse platform) :
    ∃ roots, builder.rootStore platform = .ok roots ∧ (roots ≠ [] ↔ builder.hasRoots = true) := by
  obtain ⟨anchors, traversed, length⟩ := Except.exists_mapM_eq_ok parse
  have trusted : anchors = [] ↔ builder.trustedCerts = [] := by
    rw [← List.length_eq_zero_iff, length, List.length_eq_zero_iff]
  refine ⟨_, by rw [rootStore, traversed]; rfl, ?_⟩
  have appended (store : RootCertStore) :
      (if builder.useWebpkiRoots then platform.webpkiRootCerts else []) ++ anchors ++ store ≠ [] ↔
        builder.useWebpkiRoots = true ∨ builder.trustedCerts ≠ [] ∨ store ≠ [] := by
    cases builder.useWebpkiRoots <;> simp [bundle, trusted, imp_iff_not_or]
  rw [appended]
  cases extra : builder.extraRootStore <;> simp [hasRoots, extra, or_assoc]

theorem exists_withClientAuth_eq_ok_iff {wants : WantsClientCert} :
    (∃ config, builder.withClientAuth wants = .ok config) ↔
      builder.IdentityLoads wants.provider := by
  unfold withClientAuth IdentityLoads
  cases client : builder.clientCert with
  | none => simp [Pure.pure, Except.pure]
  | some pair =>
      obtain ⟨certs, handle⟩ := pair
      simp only [SharedKey.intoKey_eq, Except.ok_bind, WantsClientCert.withClientAuthCert,
        Except.mapError_eq_ok_iff, Except.bind_eq_ok_iff, Except.pure_eq_ok_iff,
        Option.some.injEq, Prod.mk.injEq]
      constructor
      · rintro ⟨_, _, loaded, _, matched, _⟩ _ _ ⟨rfl, rfl⟩
        exact ⟨loaded, matched⟩
      · intro loads
        obtain ⟨loaded, matched⟩ := loads certs handle ⟨rfl, rfl⟩
        exact ⟨_, (), loaded, (), matched, rfl⟩

theorem exists_withSingleResolver_eq_ok_iff {wants : WantsClientCert} :
    (∃ config, builder.withSingleResolver platform wants = .ok config) ↔
      ∀ certs handle, builder.clientCert = some (certs, handle) →
        platform.pureProvider.loadPrivateKey handle.key = .ok () := by
  unfold withSingleResolver
  cases client : builder.clientCert with
  | none => simp [Pure.pure, Except.pure]
  | some pair =>
      obtain ⟨certs, handle⟩ := pair
      simp only [SharedKey.intoKey_eq, Except.ok_bind, Except.mapError_eq_ok_iff,
        Except.bind_eq_ok_iff, Except.pure_eq_ok_iff, Option.some.injEq, Prod.mk.injEq]
      constructor
      · rintro ⟨_, _, loaded, _⟩ _ _ ⟨rfl, rfl⟩
        exact loaded
      · intro loads
        exact ⟨_, (), loads certs handle ⟨rfl, rfl⟩, rfl⟩

/-- The adapter needs roots for its base verifier, and usable revocation lists when it has no
pins. -/
theorem exists_baseVerifier_eq_ok_iff {adapter : RustcryptoClientConfigBuilder} :
    (∃ base, adapter.baseVerifier platform = .ok base) ↔
      adapter.rootStore ≠ [] ∧
        (adapter.pinnedCerts = [] → ∀ crl ∈ adapter.crls, platform.checkCrl crl = .ok ()) := by
  unfold RustcryptoClientConfigBuilder.baseVerifier
  cases pins : adapter.pinnedCerts with
  | cons pin pins => simp [Platform.buildWebpki_eq_ok_iff]
  | nil =>
      by_cases lists : adapter.crls = []
      · simp [lists, Platform.buildWebpki_eq_ok_iff]
      · have listed : (!adapter.crls.isEmpty) = true := by simpa using lists
        simp only [List.isEmpty_nil, Bool.not_true, Bool.false_eq_true, if_false, listed, if_true,
          Platform.crlAwareServerVerifier, Except.mapError_eq_ok_iff,
          Platform.buildWebpki_eq_ok_iff, Except.forM_eq_ok_iff, forall_const]
        constructor
        · rintro ⟨_, rooted, parsed, _⟩
          exact ⟨rooted, parsed⟩
        · rintro ⟨rooted, parsed⟩
          exact ⟨_, rooted, parsed, rfl⟩

/-! ## When a build succeeds -/

/-- The check at the top of `build` asks for trust of any kind. -/
theorem not_trusts_iff :
    (!builder.hasRoots && builder.certPins.isEmpty && !builder.serverRawPublicKeys.isSome &&
        !builder.bypassesVerify) = true ↔ ¬ builder.Trusts := by
  simp [Trusts, bypassesVerify, and_assoc]

theorem exists_buildDangerHostnames_eq_ok_iff {roots : RootCertStore} {mid : WantsVerifier}
    (rooted : builder.rootStore platform = .ok roots) :
    (∃ config, builder.buildDangerHostnames platform mid = .ok config) ↔
      roots ≠ [] ∧ builder.IdentityLoads mid.provider := by
  have checked : ([] : List Bytes).forM platform.checkCrl = .ok () := rfl
  rw [buildDangerHostnames, rooted, Except.ok_bind]
  by_cases empty : roots = []
  · simp [empty, Platform.buildWebpki, Except.mapError, Bind.bind, Except.bind]
  · have inner : platform.buildWebpki (builder.resolvedProvider platform) roots [] = .ok _ :=
      platform.buildWebpki_eq_ok_iff.mpr ⟨empty, checked, rfl⟩
    simp only [inner, Except.mapError, Except.ok_bind, Except.exists_bind_pure_eq_ok_iff,
      exists_withClientAuth_eq_ok_iff]
    simp [empty, WantsVerifier.withVerifier]

theorem exists_buildAdapter_eq_ok_iff {roots : RootCertStore} (ordinary : platform.Ordinary)
    (rooted : builder.rootStore platform = .ok roots) :
    (∃ config, builder.buildAdapter platform = .ok config) ↔
      roots ≠ [] ∧
        (builder.certPins = [] → ∀ crl ∈ builder.crls, platform.checkCrl crl = .ok ()) := by
  rw [buildAdapter, rooted, Except.ok_bind, Except.exists_bind_pure_eq_ok_iff]
  have based : (∃ base, (builder.adapter roots).baseVerifier platform = .ok base) ↔
      roots ≠ [] ∧
        (builder.certPins = [] → ∀ crl ∈ builder.crls, platform.checkCrl crl = .ok ()) :=
    exists_baseVerifier_eq_ok_iff
  rw [← based]
  simp only [RustcryptoClientConfigBuilder.build_eq_ok_iff, ordinary.versions, true_and]
  constructor
  · rintro ⟨_, base, built, _⟩
    exact ⟨base, built⟩
  · rintro ⟨base, built⟩
    exact ⟨_, base, built, rfl⟩

/-- An admitted builder builds exactly when its path has the roots it needs and usable inputs. -/
theorem exists_build_eq_ok_iff (ordinary : platform.Ordinary)
    (parse : builder.CertsParse platform) (accepted : builder.VersionsAccepted platform) :
    (∃ config, builder.build platform = .ok config) ↔
      builder.Trusts ∧ ¬ builder.RootsMissing ∧ builder.InputsUsable platform := by
  obtain ⟨roots, rooted, nonempty⟩ := rootStore_of_parse ordinary.bundle parse
  have prepared := builderMid_of_accepted accepted
  unfold build
  by_cases trusts : builder.Trusts
  · rw [if_neg (fun refused => not_trusts_iff.mp refused trusts), prepared, Except.ok_bind]
    simp only [trusts, true_and]
    unfold InputsUsable RootsMissing
    cases keys : builder.serverRawPublicKeys with
    | some spkiList =>
        simp [buildRawPublicKeys, exists_withClientAuth_eq_ok_iff, WantsVerifier.withVerifier]
    | none =>
        cases flag : builder.dangerAcceptInvalidCerts with
        | true =>
            simp [buildDangerCerts, exists_withSingleResolver_eq_ok_iff]
        | false =>
            cases hostnames : builder.dangerAcceptInvalidHostnames with
            | true =>
                simp [exists_buildDangerHostnames_eq_ok_iff rooted, nonempty]
            | false =>
                have admitted : builder.hasRoots = true ∨ builder.certPins ≠ [] := by
                  simpa [Trusts, keys, flag, hostnames] using trusts
                cases used : builder.useAdapter with
                | true =>
                    have needed : builder.hasRoots = true ↔
                        (builder.hasRoots = false → builder.certPins = []) := by
                      cases roots : builder.hasRoots <;> simp [roots] at admitted ⊢
                      exact admitted
                    simp [exists_buildAdapter_eq_ok_iff ordinary rooted, nonempty, needed]
                | false =>
                    have unpinned : builder.certPins = [] := by
                      simp only [useAdapter, Bool.or_eq_false_iff, Bool.not_eq_false',
                        List.isEmpty_iff] at used
                      exact used.1.1
                    simp [buildPlain, rooted, Except.ok_bind, exists_withClientAuth_eq_ok_iff,
                      WantsVerifier.withVerifier, unpinned]
  · rw [if_pos (not_trusts_iff.mpr trusts)]
    simp [trusts]

/-- With parseable certificates and accepted versions, `build` fails exactly for lack of trust
unless a path lacks roots that pins or the hostname flag stood in for, or uses a client key or a
revocation list that cannot be loaded. -/
theorem refusesForTrust_iff (ordinary : platform.Ordinary) (parse : builder.CertsParse platform)
    (accepted : builder.VersionsAccepted platform) :
    builder.RefusesForTrust platform ↔
      (builder.Trusts → ¬ builder.RootsMissing ∧ builder.InputsUsable platform) := by
  unfold RefusesForTrust
  rw [Except.exists_eq_error_iff, exists_build_eq_ok_iff ordinary parse accepted, not_iff_not]
  constructor
  · intro same trusts
    exact (same.mpr trusts).2
  · intro usable
    exact ⟨fun built => built.1, fun trusts => ⟨trusts, usable trusts⟩⟩

theorem miniature_ordinary : Platform.miniature.Ordinary := ⟨by decide, rfl⟩

/-- A builder that trusts one certificate. -/
def rootedBuilder : ClientBuilder where
  trustedCerts := [[7]]

theorem refusesForTrust_iff_rooted : rootedBuilder.RefusesForTrust .miniature := by
  have parse : rootedBuilder.CertsParse .miniature := fun cert _ => ⟨⟨cert, cert⟩, rfl⟩
  refine (refusesForTrust_iff miniature_ordinary parse rfl).mpr fun _ => ⟨?_, ?_⟩
  · rintro ⟨rootless, _⟩
    contradiction
  · rintro certs handle configured
    contradiction

/-- A builder with one pin and the given revocation lists and CT logs, and no roots. -/
def pinnedAlone (crls : List Bytes) (ctLogs : Option (List CtLog × SctPolicy)) :
    ClientBuilder where
  certPins := [Crates.inert.sha256 [7, 1]]
  crls := crls
  ctLogs := ctLogs

/-- A builder with the hostname flag alone. -/
def hostnamesAlone : ClientBuilder where
  dangerAcceptInvalidHostnames := true

theorem not_refusesForTrust {error : TlsError} (refused : builder.build platform = .error error)
    (trusts : builder.Trusts) : ¬ builder.RefusesForTrust platform :=
  fun same => same.mp ⟨error, refused⟩ trusts

/-- Pins without roots, with or without revocation lists and CT logs, and the hostname flag alone
are refused by the verifier builder. -/
theorem rootless_not_refusesForTrust :
    (pinnedAlone [] none).build .miniature =
        .error (.invalidConfig "verifier build: no root trust anchors were provided") ∧
      hostnamesAlone.build .miniature =
        .error (.invalidConfig "verifier build: no root trust anchors were provided") ∧
      ¬ (pinnedAlone [] none).RefusesForTrust .miniature ∧
      ¬ (pinnedAlone [[1]] none).RefusesForTrust .miniature ∧
      ¬ (pinnedAlone [] (some ([], .strict 1))).RefusesForTrust .miniature ∧
      ¬ hostnamesAlone.RefusesForTrust .miniature :=
  ⟨rfl, rfl, not_refusesForTrust rfl (.inr (.inl (by decide))),
    not_refusesForTrust rfl (.inr (.inl (by decide))),
    not_refusesForTrust rfl (.inr (.inl (by decide))),
    not_refusesForTrust rfl (.inr (.inr (.inr (.inr rfl))))⟩

end ClientBuilder

end OxiTls
