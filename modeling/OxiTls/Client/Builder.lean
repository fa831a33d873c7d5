import OxiTls.Client.AdapterBuilder

/-!
# The client builder

`tls13/client.rs`: `ClientBuilder` collects options and `build` turns them into a configuration
along one of five paths.  Raw public keys come first, then the two danger flags, then the adapter
for pins, revocation lists and CT logs, and last the plain `webpki` path.  Each path assembles its
own verifier and applies its own selection of the remaining options.
-/

namespace OxiTls

/-- An `Arc<PrivateKeyDer>`, and whether another handle to it is alive. -/
structure SharedKey where
  key : PrivateKeyDer
  shared : Bool := false
  deriving DecidableEq, Repr

/-- Copy a private key, variant by variant. -/
def clonePrivateKeyDer : PrivateKeyDer → Except TlsError PrivateKeyDer
  | .pkcs1 der => .ok (.pkcs1 der)
  | .sec1 der => .ok (.sec1 der)
  | .pkcs8 der => .ok (.pkcs8 der)

/-- `Arc::try_unwrap`, falling back to a copy when the key is shared. -/
def SharedKey.intoKey (handle : SharedKey) : Except TlsError PrivateKeyDer :=
  if handle.shared then clonePrivateKeyDer handle.key else .ok handle.key

@[simp]
theorem SharedKey.intoKey_eq (handle : SharedKey) : handle.intoKey = .ok handle.key := by
  rcases handle with ⟨key, shared⟩
  cases shared <;> cases key <;> rfl

/-- `ClientBuilder`; the defaults are those of `new`. -/
structure ClientBuilder where
  protocolVersions : Option (List ProtocolVersion) := none
  trustedCerts : List Bytes := []
  useWebpkiRoots : Bool := false
  resumptionCapacity : Nat := 256
  alpn : List Bytes := []
  clientCert : Option (List Bytes × SharedKey) := none
  dangerAcceptInvalidCerts : Bool := false
  dangerAcceptInvalidHostnames : Bool := false
  certPins : List Digest := []
  crls : List Bytes := []
  keyLogPolicy : Option KeyLogPolicy := none
  intermediateCache : Option CacheHandle := none
  enableEarlyData : Bool := false
  quicPreview : Bool := false
  extraRootStore : Option RootCertStore := none
  ctLogs : Option (List CtLog × SctPolicy) := none
  provider : Option CryptoProvider := none
  serverRawPublicKeys : Option (List Bytes) := none
  echMode : Option EchMode := none
  enableCertCompression : Bool := false

/-- The ALPN identifier of HTTP/3. -/
def h3 : Bytes := [0x68, 0x33]

namespace ClientBuilder

variable (platform : Platform) (builder : ClientBuilder)

/-! ## Shared pieces of `build` -/

/-- Whether any trust root is configured. -/
def hasRoots : Bool :=
  builder.useWebpkiRoots || !builder.trustedCerts.isEmpty ||
    builder.extraRootStore.any fun store => !store.isEmpty

/-- Whether a danger flag is set. -/
def bypassesVerify : Bool :=
  builder.dangerAcceptInvalidCerts || builder.dangerAcceptInvalidHostnames

/-- Whether a pin, a revocation list or a CT log list is configured. -/
def useAdapter : Bool :=
  !builder.certPins.isEmpty || !builder.crls.isEmpty || builder.ctLogs.isSome

/-- The injected provider or the default one. -/
def resolvedProvider : CryptoProvider := builder.provider.getD platform.defaultProvider

/-- The versions and the ECH mode, applied to the rustls builder. -/
def builderMid : Except TlsError WantsVerifier :=
  let provider := builder.resolvedProvider platform
  match builder.echMode with
  | some mode => (provider.withEch mode).mapError .invalidConfig
  | none =>
      (provider.withProtocolVersions (builder.protocolVersions.getD [.tls13])).mapError
        .invalidConfig

/-- The webpki roots when asked for, then the trusted certificates, then the extra store. -/
def rootStore : Except TlsError RootCertStore := do
  let bundle := if builder.useWebpkiRoots then platform.webpkiRootCerts else []
  let trusted ← (builder.trustedCerts.mapM platform.trustAnchor).mapError .badCert
  pure (bundle ++ trusted ++ builder.extraRootStore.getD [])

/-- Client authentication through `with_client_auth_cert`. -/
def withClientAuth (wants : WantsClientCert) : Except TlsError ClientConfig :=
  match builder.clientCert with
  | some (certs, handle) => do
      let key ← handle.intoKey
      (wants.withClientAuthCert certs key).mapError .invalidConfig
  | none => pure wants.withNoClientAuth

/-- Client authentication through `SingleClientCertResolver`, which loads the key with the pure
provider and does not compare it with the chain. -/
def withSingleResolver (wants : WantsClientCert) : Except TlsError ClientConfig :=
  match builder.clientCert with
  | some (certs, handle) => do
      let key ← handle.intoKey
      (platform.pureProvider.loadPrivateKey key).mapError
        fun e => .invalidConfig ("failed to load client key: " ++ e)
      pure (wants.withResolver (some { certChain := certs, key }))
  | none => pure wants.withNoClientAuth

/-- The resumption strategy of a capacity; zero disables resumption. -/
def resumption : Resumption :=
  if builder.resumptionCapacity = 0 then .disabled
  else .inMemorySessions builder.resumptionCapacity

/-- Resumption and early data, which every path applies. -/
def withSessions (config : ClientConfig) : ClientConfig :=
  let config := { config with resumption := builder.resumption }
  if builder.enableEarlyData then { config with enableEarlyData := true } else config

/-- The key-log bridge, when a policy is set. -/
def withKeyLog (config : ClientConfig) : ClientConfig :=
  match builder.keyLogPolicy with
  | some policy => { config with keyLog := some policy }
  | none => config

/-- Reserve `h3` in the ALPN list, unless it is already there. -/
def withH3 (config : ClientConfig) : ClientConfig :=
  if builder.quicPreview ∧ h3 ∉ config.alpnProtocols then
    { config with alpnProtocols := config.alpnProtocols ++ [h3] }
  else config

/-- `install_cert_compression_client`, when enabled. -/
def withCompression (config : ClientConfig) : ClientConfig :=
  if builder.enableCertCompression then
    { config with certCompressors := [.oxiArcZlib], certDecompressors := [.oxiArcZlib] }
  else config

/-- The end of `build` that the danger paths and the plain path share. -/
def finish (config : ClientConfig) : ClientConfig :=
  builder.withCompression <| builder.withSessions <| builder.withKeyLog <| builder.withH3 <|
    { config with alpnProtocols := builder.alpn }

/-! ## The five paths -/

/-- Raw public keys, with an early return of its own. -/
def buildRawPublicKeys (mid : WantsVerifier) (spkiList : List Bytes) :
    Except TlsError ClientConfig := do
  let verifier := RawPublicKeyServerVerifier.toVerifier ⟨spkiList⟩
  let config ← builder.withClientAuth (mid.withVerifier verifier)
  pure (builder.withSessions (builder.withKeyLog { config with alpnProtocols := builder.alpn }))

/-- `danger_accept_invalid_certs`. -/
def buildDangerCerts (mid : WantsVerifier) : Except TlsError ClientConfig := do
  let config ← builder.withSingleResolver platform (mid.withVerifier dangerousNoCertVerifier)
  pure (builder.finish config)

/-- `danger_accept_invalid_hostnames`. -/
def buildDangerHostnames (mid : WantsVerifier) : Except TlsError ClientConfig := do
  let roots ← builder.rootStore platform
  let inner ← (platform.buildWebpki (builder.resolvedProvider platform) roots []).mapError
    fun e => .invalidConfig ("verifier build: " ++ e)
  let config ← builder.withClientAuth
    (mid.withVerifier (DangerHostnameIgnoreVerifier.toVerifier ⟨inner⟩))
  pure (builder.finish config)

/-- The adapter builder that the adapter path configures. -/
def adapter (roots : RootCertStore) : RustcryptoClientConfigBuilder where
  rootStore := roots
  pinnedCerts := builder.certPins
  crls := builder.crls
  alpnProtocols := builder.alpn
  keylog := builder.keyLogPolicy.getD .disabled
  intermediateCache := builder.intermediateCache
  sctPolicy := builder.ctLogs.map fun (logs, policy) => (policy, logs)

/-- Pins, revocation lists and CT logs, with an early return of its own. -/
def buildAdapter : Except TlsError ClientConfig := do
  let roots ← builder.rootStore platform
  let config ← (builder.adapter roots).build platform
  pure (builder.withSessions config)

/-- The plain path. -/
def buildPlain (mid : WantsVerifier) : Except TlsError ClientConfig := do
  let roots ← builder.rootStore platform
  let verifier := platform.webpkiServerVerifier (builder.resolvedProvider platform) roots []
  let config ← builder.withClientAuth (mid.withVerifier verifier)
  pure (builder.finish config)

def build : Except TlsError ClientConfig :=
  if !builder.hasRoots && builder.certPins.isEmpty && !builder.serverRawPublicKeys.isSome &&
      !builder.bypassesVerify then
    .error (.invalidConfig
      ("ClientBuilder: at least one root store, cert pinning, or RPK pinning " ++
        "must be configured"))
  else do
    let mid ← builder.builderMid platform
    match builder.serverRawPublicKeys with
    | some spkiList => builder.buildRawPublicKeys mid spkiList
    | none =>
        if builder.dangerAcceptInvalidCerts then builder.buildDangerCerts platform mid
        else if builder.dangerAcceptInvalidHostnames then builder.buildDangerHostnames platform mid
        else if builder.useAdapter then builder.buildAdapter platform
        else builder.buildPlain platform mid

end ClientBuilder

end OxiTls
