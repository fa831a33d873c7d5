import OxiTls.Client.Paths

/-!
# Server checks of a built client configuration

Which of the checks a builder was configured with the built verifier enforces.  Pins, the CT policy
and chain trust are enforced together; pinning takes precedence over the revocation lists.
-/

namespace OxiTls

namespace SctVerifier

variable (crates : Crates)

/-- A handshake passes a CT policy when the policy alone does not refuse it. -/
def Passes (policy : SctPolicy) (logs : List CtLog) (presented : Presented) : Prop :=
  (toVerifier crates ⟨.acceptAll, policy, logs⟩).Accepts presented

/-- A handshake that passes the policy is left to the inner verifier, any other is refused. -/
theorem accepts_iff_passes {inner : ServerCertVerifier} {policy : SctPolicy} {logs : List CtLog}
    {presented : Presented} :
    (toVerifier crates ⟨inner, policy, logs⟩).Accepts presented ↔
      Passes crates policy logs presented ∧
        (toVerifier crates ⟨inner, policy, logs⟩).verifyServerCert presented =
          inner.verifyServerCert presented ∧
        inner.Accepts presented := by
  unfold Passes ServerCertVerifier.Accepts toVerifier verifyServerCert
  by_cases enabled : policy = .disabled
  · simp [enabled, ServerCertVerifier.acceptAll]
  · have same : complaint crates ⟨inner, policy, logs⟩ presented =
        complaint crates ⟨.acceptAll, policy, logs⟩ presented := rfl
    simp only [enabled, if_false, same]
    cases complaint crates ⟨.acceptAll, policy, logs⟩ presented with
    | none => simp [ServerCertVerifier.acceptAll]
    | some message => cases strict : policy.isStrict <;> simp [ServerCertVerifier.acceptAll]

end SctVerifier

namespace RustcryptoClientConfigBuilder

variable (platform : Platform) (builder : RustcryptoClientConfigBuilder)

@[simp]
theorem cacheVerifier_accepts_iff {base : ServerCertVerifier} {presented : Presented} :
    (builder.cacheVerifier base).Accepts presented ↔ base.Accepts presented := by
  unfold cacheVerifier
  cases builder.intermediateCache <;> simp

/-- The SCT wrapper only adds the configured CT policy. -/
theorem passes_of_sctVerifier_accepts {inner : ServerCertVerifier} {presented : Presented}
    (accepted : (builder.sctVerifier platform inner).Accepts presented) :
    (∀ policy logs, builder.sctPolicy = some (policy, logs) →
        SctVerifier.Passes platform.crates policy logs presented) ∧
      (builder.sctVerifier platform inner).verifyServerCert presented =
        inner.verifyServerCert presented ∧
      inner.Accepts presented := by
  unfold sctVerifier at accepted ⊢
  split at accepted
  · next unset => exact ⟨by simp [unset], rfl, accepted⟩
  · next logs configured =>
      refine ⟨fun policy logs configured' => ?_, rfl, accepted⟩
      obtain ⟨rfl, rfl⟩ := Prod.mk.inj (Option.some.inj (configured.symm.trans configured'))
      rfl
  · next policy logs enabled configured =>
      obtain ⟨passes, delegated, inner_accepted⟩ :=
        (SctVerifier.accepts_iff_passes platform.crates).mp accepted
      refine ⟨fun policy' logs' configured' => ?_, delegated, inner_accepted⟩
      obtain ⟨rfl, rfl⟩ := Prod.mk.inj (Option.some.inj (configured.symm.trans configured'))
      exact passes

/-- A base verifier enforces the pins, or else the revocation lists, over `webpki`. -/
theorem baseVerifier_accepts {base : ServerCertVerifier} {presented : Presented}
    (built : builder.baseVerifier platform = .ok base) (accepted : base.Accepts presented) :
    (builder.pinnedCerts ≠ [] →
        platform.crates.sha256 presented.endEntity ∈ builder.pinnedCerts) ∧
      platform.webpki platform.pureProvider builder.rootStore
        (if builder.pinnedCerts = [] then builder.crls else []) presented = .ok () := by
  unfold baseVerifier at built
  split_ifs at built with pinned revocable
  · have pins : builder.pinnedCerts ≠ [] := by simpa using pinned
    simp only [Except.bind_eq_ok_iff, Except.mapError_eq_ok_iff, Platform.buildWebpki_eq_ok_iff,
      Except.pure_eq_ok_iff] at built
    obtain ⟨_, ⟨_, _, rfl⟩, rfl⟩ := built
    simpa [pins] using accepted
  · have noPins : builder.pinnedCerts = [] := by simpa using pinned
    simp only [Platform.crlAwareServerVerifier, Except.mapError_eq_ok_iff,
      Platform.buildWebpki_eq_ok_iff] at built
    obtain ⟨_, _, rfl⟩ := built
    simpa [noPins] using accepted
  · have noPins : builder.pinnedCerts = [] := by simpa using pinned
    have noCrls : builder.crls = [] := by simpa using revocable
    simp only [Except.mapError_eq_ok_iff, Platform.buildWebpki_eq_ok_iff] at built
    obtain ⟨_, _, rfl⟩ := built
    simpa [noPins, noCrls] using accepted

end RustcryptoClientConfigBuilder

/-- `webpki` refuses an end entity that one of its revocation lists revokes. -/
def Platform.ChecksRevocation (platform : Platform) : Prop :=
  ∀ provider roots crls presented, platform.webpki provider roots crls presented = .ok () →
    ∀ crl ∈ crls, platform.crlRevokes crl presented.endEntity = false

namespace ClientBuilder

variable (platform : Platform) (builder : ClientBuilder) (presented : Presented)

/-- The leaf fingerprint is one of the configured pins, if there are any. -/
def PassesPins : Prop :=
  builder.certPins ≠ [] → platform.crates.sha256 presented.endEntity ∈ builder.certPins

/-- No configured revocation list revokes the leaf. -/
def PassesCrls : Prop :=
  ∀ crl ∈ builder.crls, platform.crlRevokes crl presented.endEntity = false

/-- The configured CT policy, if there is one, does not refuse the handshake. -/
def PassesCt : Prop :=
  ∀ logs policy, builder.ctLogs = some (logs, policy) →
    SctVerifier.Passes platform.crates policy logs presented

/-- `webpki` validates the chain under the configured roots, up to the name when hostname
mismatches are accepted. -/
def Validates (provider : CryptoProvider) (crls : List Bytes) : Prop :=
  ∃ roots, builder.rootStore platform = .ok roots ∧
    (platform.webpki provider roots crls presented = .ok () ∨
      builder.dangerAcceptInvalidHostnames = true ∧
        ∃ error, platform.webpki provider roots crls presented = .error error ∧
          error.isNameMismatch = true)

/-- The chain is validated with what the built verifier hands to `webpki`.  The adapter path has
its own provider, and the revocation lists unless certificates are pinned; every other path has the
builder's provider and no lists. -/
def TrustsChain : Prop :=
  if builder.dangerAcceptInvalidHostnames = false ∧ builder.useAdapter = true then
    builder.Validates platform presented platform.pureProvider
      (if builder.certPins = [] then builder.crls else [])
  else builder.Validates platform presented (builder.resolvedProvider platform) []

variable {platform builder presented}

/-- The adapter path enforces the pins, the CT policy and chain trust, and the revocation lists
when there are no pins. -/
theorem adapted_accepts {roots : RootCertStore} {base : ServerCertVerifier}
    (based : (builder.adapter roots).baseVerifier platform = .ok base)
    (accepted : (builder.adapted platform roots base).verifier.Accepts presented) :
    builder.PassesPins platform presented ∧ builder.PassesCt platform presented ∧
      platform.webpki platform.pureProvider roots
        (if builder.certPins = [] then builder.crls else []) presented = .ok () := by
  obtain ⟨passes, _, accepted⟩ :=
    (builder.adapter roots).passes_of_sctVerifier_accepts platform accepted
  have base_accepted : base.Accepts presented :=
    (builder.adapter roots).cacheVerifier_accepts_iff.mp accepted
  obtain ⟨pins, validated⟩ :=
    (builder.adapter roots).baseVerifier_accepts platform based base_accepted
  refine ⟨pins, fun logs policy configured => passes policy logs ?_, validated⟩
  simp [adapter, configured]

/-- A verifier built without raw public keys and without `danger_accept_invalid_certs` trusts only
chains that `webpki` validates under the configured roots.  Unless hostname mismatches are accepted
together with pins, revocation lists or CT logs, it also enforces the pins and the CT policy, and
the revocation lists when no certificate is pinned. -/
theorem accepts_imp_checks {config : ClientConfig} (revocation : platform.ChecksRevocation)
    (keys : builder.serverRawPublicKeys = none)
    (checked : builder.dangerAcceptInvalidCerts = false)
    (built : builder.build platform = .ok config)
    (accepted : config.verifier.Accepts presented) :
    builder.TrustsChain platform presented ∧
      (builder.dangerAcceptInvalidHostnames = false ∨ builder.useAdapter = false →
        builder.PassesPins platform presented ∧
          (builder.certPins = [] → builder.PassesCrls platform presented) ∧
          builder.PassesCt platform presented) := by
  have unconfigured (unused : builder.useAdapter = false) :
      builder.PassesPins platform presented ∧
        (builder.certPins = [] → builder.PassesCrls platform presented) ∧
        builder.PassesCt platform presented := by
    simp only [useAdapter, Bool.or_eq_false_iff, Bool.not_eq_false', List.isEmpty_iff,
      Option.isSome_eq_false_iff, Option.isNone_iff_eq_none] at unused
    obtain ⟨⟨noPins, noCrls⟩, noLogs⟩ := unused
    simp [PassesPins, PassesCrls, PassesCt, noPins, noCrls, noLogs]
  cases built_of_build built with
  | rawPublicKeys present => simp [present] at keys
  | dangerCerts _ flag => simp [flag] at checked
  | @dangerHostnames roots _ _ flag rooted =>
      have trusted := (DangerHostnameIgnoreVerifier.accepts_iff _).mp accepted
      refine ⟨?_, fun alone => ?_⟩
      · rw [TrustsChain, if_neg (by simp [flag])]
        exact ⟨roots, rooted, trusted.imp id fun mismatch => ⟨flag, mismatch⟩⟩
      · exact unconfigured (by simpa [flag] using alone)
  | @adapter roots base _ _ named used rooted based =>
      obtain ⟨pins, ct, validated⟩ := adapted_accepts based accepted
      refine ⟨?_, fun _ => ⟨pins, fun noPins => ?_, ct⟩⟩
      · rw [TrustsChain, if_pos ⟨named, used⟩]
        exact ⟨roots, rooted, .inl validated⟩
      · rw [if_pos noPins] at validated
        exact revocation _ _ _ _ validated
  | @plain roots _ _ _ unused rooted =>
      refine ⟨?_, fun _ => unconfigured unused⟩
      rw [TrustsChain, if_neg (by simp [unused])]
      exact ⟨roots, rooted, .inl accepted⟩

/-- A builder that pins one leaf of issuer 7 and has a list that revokes serial 1. -/
def pinnedRevocable : ClientBuilder where
  trustedCerts := [[7]]
  certPins := [Crates.inert.sha256 [7, 1]]
  crls := [[1]]

/-- A builder that pins another leaf of issuer 7 and accepts hostname mismatches. -/
def pinnedHostnames : ClientBuilder where
  trustedCerts := [[7]]
  certPins := [Crates.inert.sha256 [7, 2]]
  dangerAcceptInvalidHostnames := true

/-- Leaf 1 of issuer 7. -/
def leafHandshake : Presented := ⟨[7, 1], [], "leaf.example", [], 0⟩

theorem accepts_imp_checks_pinnedRevocable :
    pinnedRevocable.TrustsChain .miniature leafHandshake ∧
      (pinnedRevocable.dangerAcceptInvalidHostnames = false ∨
          pinnedRevocable.useAdapter = false →
        pinnedRevocable.PassesPins .miniature leafHandshake ∧
          (pinnedRevocable.certPins = [] → pinnedRevocable.PassesCrls .miniature leafHandshake) ∧
          pinnedRevocable.PassesCt .miniature leafHandshake) := by
  refine accepts_imp_checks (fun provider roots crls presented validated crl listed => ?_)
    rfl rfl rfl rfl
  simp only [Platform.miniature] at validated ⊢
  split_ifs at validated with unknown revoked
  simp only [List.any_eq_true, not_exists, not_and] at revoked
  simpa using revoked crl listed

/-- The pinned leaf is accepted although the revocation list revokes it, and a leaf that is not
pinned is accepted once hostname mismatches are. -/
theorem configuredCheck_dropped :
    (∃ config, pinnedRevocable.build .miniature = .ok config ∧
        config.verifier.Accepts leafHandshake ∧
        ¬ pinnedRevocable.PassesCrls .miniature leafHandshake) ∧
      ∃ config, pinnedHostnames.build .miniature = .ok config ∧
        config.verifier.Accepts leafHandshake ∧
        ¬ pinnedHostnames.PassesPins .miniature leafHandshake := by
  refine ⟨⟨_, rfl, rfl, fun passes => ?_⟩, ⟨_, rfl, rfl, fun passes => ?_⟩⟩
  · have revoked := passes [1] (by decide)
    contradiction
  · have pinned := passes (by decide)
    revert pinned
    decide

end ClientBuilder

end OxiTls
