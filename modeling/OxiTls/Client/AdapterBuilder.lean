import OxiTls.Verifier.OcspClient
import OxiTls.Verifier.Sct
import OxiTls.Verifier.Wrappers

/-!
# The adapter's client builder

`RustcryptoClientConfigBuilder`: pinning, revocation lists, an intermediate cache, OCSP staples and
Certificate Transparency, stacked on one `webpki` verifier.  Its configurations use the default
protocol versions and never authenticate the client.
-/

namespace OxiTls

/-- `RustcryptoClientConfigBuilder`; the defaults are those of `new`. -/
structure RustcryptoClientConfigBuilder where
  rootStore : RootCertStore := []
  pinnedCerts : List Digest := []
  crls : List Bytes := []
  keylog : KeyLogPolicy := .disabled
  alpnProtocols : List Bytes := []
  intermediateCache : Option CacheHandle := none
  resumptionDisabled : Bool := false
  ocspPolicy : Option OcspClientPolicy := none
  sctPolicy : Option (SctPolicy × List CtLog) := none

namespace RustcryptoClientConfigBuilder

variable (platform : Platform) (builder : RustcryptoClientConfigBuilder)

/-- The innermost verifier: pinning, else revocation lists, else plain `webpki`. -/
def baseVerifier : Except TlsError ServerCertVerifier :=
  if !builder.pinnedCerts.isEmpty then do
    let inner ← (platform.buildWebpki platform.pureProvider builder.rootStore []).mapError
      fun e => .invalidConfig ("verifier build: " ++ e)
    pure (CertPinVerifier.toVerifier platform.crates ⟨builder.pinnedCerts, inner⟩)
  else if !builder.crls.isEmpty then
    platform.crlAwareServerVerifier builder.rootStore builder.crls
  else
    (platform.buildWebpki platform.pureProvider builder.rootStore []).mapError
      fun e => .invalidConfig ("verifier build: " ++ e)

/-- Wrap with the intermediate cache, if there is one. -/
def cacheVerifier (base : ServerCertVerifier) : ServerCertVerifier :=
  match builder.intermediateCache with
  | some cache => CachingVerifier.toVerifier ⟨base, cache⟩
  | none => base

/-- Wrap with the staple check, if a policy other than `Disabled` is set. -/
def ocspVerifier (inner : ServerCertVerifier) : ServerCertVerifier :=
  match builder.ocspPolicy with
  | some policy =>
      if policy ≠ .disabled then OcspClientVerifier.toVerifier platform.crates ⟨inner, policy⟩
      else inner
  | none => inner

/-- Wrap with the SCT check, if a policy other than `Disabled` is set. -/
def sctVerifier (inner : ServerCertVerifier) : ServerCertVerifier :=
  match builder.sctPolicy with
  | none => inner
  | some (.disabled, _) => inner
  | some (policy, logs) => SctVerifier.toVerifier platform.crates ⟨inner, policy, logs⟩

/-- The complete verifier stack over a base verifier. -/
def stack (base : ServerCertVerifier) : ServerCertVerifier :=
  builder.sctVerifier platform (builder.ocspVerifier platform (builder.cacheVerifier base))

/-- The ALPN list, the key log and the resumption setting, each only when configured. -/
def withOptions (config : ClientConfig) : ClientConfig :=
  let config :=
    if !builder.alpnProtocols.isEmpty then { config with alpnProtocols := builder.alpnProtocols }
    else config
  let config :=
    if builder.keylog ≠ .disabled then { config with keyLog := some builder.keylog } else config
  if builder.resumptionDisabled then { config with resumption := .disabled } else config

def build : Except TlsError ClientConfig := do
  let base ← builder.baseVerifier platform
  let wants ← platform.pureProvider.withSafeDefaultProtocolVersions.mapError .invalidConfig
  let config := (wants.withVerifier (builder.stack platform base)).withNoClientAuth
  pure (builder.withOptions config)

end RustcryptoClientConfigBuilder

end OxiTls
