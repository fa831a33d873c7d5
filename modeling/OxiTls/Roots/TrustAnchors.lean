import OxiTls.Library.DerElement
import OxiTls.Roots.RootStoreBuilder

/-!
# Trust anchors and the certificates they come from

The two constructors of `TrustAnchorInfo`, and `expiring.rs`, which looks at certificates through
the second of them.  `webpki` keeps the contents of a certificate's subject and key, `x509-parser`
the whole elements with their tag and length, and the fingerprints that the root store builder
compares are digests of one and of the other.
-/

namespace OxiTls

/-- The fields of an `x509-parser` certificate that the code reads; the expiry is in Unix
seconds. -/
structure RootCertificate where
  /-- `subject().as_raw()`. -/
  subjectRaw : Bytes
  /-- `public_key().raw`. -/
  publicKeyRaw : Bytes
  /-- `validity().not_after.to_datetime()`. -/
  notAfter : Int
  deriving DecidableEq, Repr

namespace TrustAnchorInfo

section Certificates

variable (sha256 : Bytes → Digest) (parse : Bytes → Option RootCertificate)

/-- `TrustAnchorInfo::from_cert_der`, where `X509Certificate::from_der` is a parameter. -/
def fromCertDer (der : Bytes) : Option TrustAnchorInfo := do
  let cert ← parse der
  pure ⟨cert.subjectRaw, sha256 cert.publicKeyRaw, none⟩

/-- `TrustAnchorInfo::with_not_after`. -/
def withNotAfter (info : TrustAnchorInfo) (notAfter : Int) : TrustAnchorInfo :=
  { info with notAfter := some notAfter }

/-- `info_if_expiring_within`; the deadline is in nanoseconds. -/
def infoIfExpiringWithin (der : Bytes) (deadline : Int) : Option TrustAnchorInfo := do
  let cert ← parse der
  if cert.notAfter * 1000000000 ≤ deadline then
    let info ← fromCertDer sha256 parse der
    pure (info.withNotAfter cert.notAfter)
  else none

/-- The last nanosecond of the year 9999, where `saturating_add` stops. -/
def lastTime : Int := 253402300800 * 1000000000 - 1

/-- `expiring_roots_from_ders` at a time in nanoseconds. -/
def expiringRootsFromDers (now : Int) (ders : List Bytes) (withinDays : UInt32) :
    List TrustAnchorInfo :=
  let deadline := min (now + withinDays.toNat * 86400 * 1000000000) lastTime
  ders.filterMap fun der => infoIfExpiringWithin sha256 parse der deadline

/-- `list_trust_anchors`. -/
def listTrustAnchors (roots : RootCertStore) : List TrustAnchorInfo :=
  roots.map (fromTrustAnchor sha256)

end Certificates

variable {sha256 : Bytes → Digest} {parse : Bytes → Option RootCertificate}

theorem fromCertDer_eq_some_iff {der : Bytes} {info : TrustAnchorInfo} :
    fromCertDer sha256 parse der = some info ↔
      ∃ cert, parse der = some cert ∧ ⟨cert.subjectRaw, sha256 cert.publicKeyRaw, none⟩ = info := by
  simp only [fromCertDer, Option.bind_eq_bind, Option.bind_eq_some_iff, Option.pure_def,
    Option.some.injEq]

/-- The list holds the certificates that expire by the deadline, with the digests of their keys. -/
theorem mem_expiringRootsFromDers {now : Int} {ders : List Bytes} {withinDays : UInt32}
    {info : TrustAnchorInfo} :
    info ∈ expiringRootsFromDers sha256 parse now ders withinDays ↔
      ∃ der ∈ ders, ∃ cert, parse der = some cert ∧
        cert.notAfter * 1000000000 ≤ min (now + withinDays.toNat * 86400 * 1000000000) lastTime ∧
        info = ⟨cert.subjectRaw, sha256 cert.publicKeyRaw, some cert.notAfter⟩ := by
  rw [expiringRootsFromDers, List.mem_filterMap]
  refine exists_congr fun der => and_congr_right fun _ => ?_
  simp only [infoIfExpiringWithin, Option.bind_eq_bind, Option.bind_eq_some_iff]
  refine exists_congr fun cert => and_congr_right fun parsed => ?_
  split_ifs with expiring
  · simp only [fromCertDer, parsed, Option.bind_eq_bind, Option.bind_some, Option.pure_def,
      Option.some.injEq, withNotAfter, expiring, true_and]
    exact eq_comm
  · simp only [expiring, false_and]

end TrustAnchorInfo

namespace RootStoreBuilder

variable {platform : Platform} {pemCerts : Bytes → List (Except String Bytes)}

theorem ofCalls_exclude (calls : List Call) (fingerprint : Digest) :
    ofCalls (calls ++ [.excludeFingerprint fingerprint]) =
      (ofCalls calls).excludeFingerprint fingerprint := by
  rw [ofCalls, List.foldl_append]
  rfl

/-- Excluding a fingerprint changes nothing for an anchor whose key has another digest. -/
theorem mem_build_exclude_iff (calls : List Call) {fingerprint : Digest} {anchor : TrustAnchor}
    (different : platform.crates.sha256 anchor.subjectPublicKeyInfo ≠ fingerprint) :
    anchor ∈ (ofCalls (calls ++ [.excludeFingerprint fingerprint])).build platform pemCerts ↔
      anchor ∈ (ofCalls calls).build platform pemCerts := by
  have kept : ((ofCalls calls).excludeFingerprint fingerprint).keeps platform anchor = true ↔
      (ofCalls calls).keeps platform anchor = true := by
    rw [keeps_iff, keeps_iff, excludeFingerprint, List.mem_append, List.mem_singleton, not_or,
      and_iff_left different]
  rw [ofCalls_exclude, mem_build, mem_build, kept]
  rfl

/-- The bundle is in the store when nothing is excluded. -/
theorem mem_build_webpkiRoots {anchor : TrustAnchor} (bundled : anchor ∈ platform.webpkiRootCerts) :
    anchor ∈ (ofCalls [.withWebpkiRoots]).build platform pemCerts :=
  mem_build.mpr (.inl ⟨rfl, bundled, rfl⟩)

/-- Excluding a fingerprint that `list_trust_anchors` reports removes its anchor. -/
theorem exists_not_mem_build_exclude {info : TrustAnchorInfo}
    (listed : info ∈ TrustAnchorInfo.listTrustAnchors platform.crates.sha256
      platform.webpkiRootCerts) :
    ∃ anchor ∈ platform.webpkiRootCerts,
      TrustAnchorInfo.fromTrustAnchor platform.crates.sha256 anchor = info ∧
      anchor ∉ (ofCalls [.withWebpkiRoots, .excludeFingerprint info.spkiSha256]).build platform
        pemCerts := by
  obtain ⟨anchor, bundled, rfl⟩ := List.mem_map.mp listed
  refine ⟨anchor, bundled, rfl, fun stored => ?_⟩
  rcases mem_build.mp stored with ⟨-, -, kept⟩ | ⟨cert, collected, -⟩
  · exact keeps_iff.mp kept (List.mem_singleton.mpr rfl)
  · exact List.not_mem_nil collected

end RootStoreBuilder

section Constructors

open RootStoreBuilder

variable (platform : Platform) (parse : Bytes → Option RootCertificate)

/-- A trust anchor is the contents of the subject and of the key of its certificate, which
`x509-parser` gives with their tag and length. -/
def FramesAnchors : Prop :=
  ∀ der cert anchor, parse der = some cert → platform.trustAnchor der = .ok anchor →
    cert.subjectRaw = Der.sequence anchor.subject ∧
      cert.publicKeyRaw = Der.sequence anchor.subjectPublicKeyInfo

/-- The two inputs do not collide. -/
def NoCollision (first second : Bytes) : Prop :=
  platform.crates.sha256 first = platform.crates.sha256 second → first = second

variable {platform parse}

/-- The digest of an anchor's key is not the digest of its certificate's key. -/
theorem digests_differ {der : Bytes} {cert : RootCertificate} {anchor : TrustAnchor}
    (framed : FramesAnchors platform parse) (parsed : parse der = some cert)
    (trusted : platform.trustAnchor der = .ok anchor)
    (noCollision : NoCollision platform cert.publicKeyRaw anchor.subjectPublicKeyInfo) :
    platform.crates.sha256 cert.publicKeyRaw ≠
      platform.crates.sha256 anchor.subjectPublicKeyInfo := by
  intro same
  have key := (framed der cert anchor parsed trusted).2
  rw [noCollision same] at key
  exact Der.sequence_ne _ key.symm

/-- The two constructors agree on no certificate, neither on the subject nor on the fingerprint; the
fingerprint of an anchor is not the digest of the certificate's key, and excluding that digest
leaves the anchor where it was. -/
theorem constructors_disagree {der : Bytes} {cert : RootCertificate} {anchor : TrustAnchor}
    (framed : FramesAnchors platform parse) (parsed : parse der = some cert)
    (trusted : platform.trustAnchor der = .ok anchor)
    (noCollision : NoCollision platform cert.publicKeyRaw anchor.subjectPublicKeyInfo) :
    ∃ info, TrustAnchorInfo.fromCertDer platform.crates.sha256 parse der = some info ∧
      info.spkiSha256 = platform.crates.sha256 cert.publicKeyRaw ∧
      info.subjectDer ≠
        (TrustAnchorInfo.fromTrustAnchor platform.crates.sha256 anchor).subjectDer ∧
      info.spkiSha256 ≠
        (TrustAnchorInfo.fromTrustAnchor platform.crates.sha256 anchor).spkiSha256 ∧
      (∀ pemCerts calls,
        anchor ∈ (ofCalls (calls ++ [.excludeFingerprint info.spkiSha256])).build platform
          pemCerts ↔ anchor ∈ (ofCalls calls).build platform pemCerts) ∧
      (anchor ∈ platform.webpkiRootCerts → ∀ pemCerts,
        anchor ∈ (ofCalls [.withWebpkiRoots, .excludeFingerprint info.spkiSha256]).build platform
          pemCerts) := by
  have different := digests_differ framed parsed trusted noCollision
  refine ⟨_, TrustAnchorInfo.fromCertDer_eq_some_iff.mpr ⟨cert, parsed, rfl⟩, rfl, ?_, different,
    fun pemCerts calls => mem_build_exclude_iff calls different.symm,
    fun bundled pemCerts => ?_⟩
  · change cert.subjectRaw ≠ anchor.subject
    rw [(framed der cert anchor parsed trusted).1]
    exact Der.sequence_ne _
  · exact (mem_build_exclude_iff [.withWebpkiRoots] different.symm).mpr
      (mem_build_webpkiRoots bundled)

/-- The anchor of a root with an Ed25519 key. -/
def ed25519Root : TrustAnchor where
  subject := [0x31, 0x0b, 0x30, 0x09, 0x06, 0x03, 0x55, 0x04, 0x03, 0x0c, 0x02, 0x43, 0x41]
  subjectPublicKeyInfo := [0x30, 0x05, 0x06, 0x03, 0x2b, 0x65, 0x70, 0x03, 0x21, 0x00, 0x58] ++
    List.replicate 31 0x66

/-- The self-signed certificate of this root. -/
def ed25519Der : Bytes :=
  [0x30, 0x81, 0xc5, 0x30, 0x79, 0xa0, 0x03, 0x02, 0x01, 0x02, 0x02, 0x01, 0x01,
    0x30, 0x05, 0x06, 0x03, 0x2b, 0x65, 0x70, 0x30, 0x0d] ++ ed25519Root.subject ++
  [0x30, 0x1e, 0x17, 0x0d, 0x32, 0x35, 0x30, 0x31, 0x30, 0x31, 0x30, 0x30, 0x30, 0x30, 0x30, 0x30,
    0x5a, 0x17, 0x0d, 0x33, 0x33, 0x30, 0x35, 0x31, 0x38, 0x30, 0x33, 0x33, 0x33, 0x32, 0x30, 0x5a,
    0x30, 0x0d] ++ ed25519Root.subject ++
  [0x30, 0x2a] ++ ed25519Root.subjectPublicKeyInfo ++
  [0x30, 0x05, 0x06, 0x03, 0x2b, 0x65, 0x70, 0x03, 0x41, 0x00] ++ List.replicate 64 0x07

/-- Read the contents of the subject and of the key of a certificate. -/
def readSubjectAndKey (der : Bytes) : Option (Bytes × Bytes) := do
  let certificate ← Der.readWhole 0x30 der
  let (tbs, _) ← Der.readElement 0x30 certificate
  let (_version, rest) ← Der.readElement 0xa0 tbs
  let (_serial, rest) ← Der.readElement 0x02 rest
  let (_algorithm, rest) ← Der.readElement 0x30 rest
  let (_issuer, rest) ← Der.readElement 0x30 rest
  let (_validity, rest) ← Der.readElement 0x30 rest
  let (subject, rest) ← Der.readElement 0x30 rest
  let (key, _) ← Der.readElement 0x30 rest
  some (subject, key)

/-- A parser of certificates that expire with this root. -/
def parseRoot (der : Bytes) : Option RootCertificate :=
  (readSubjectAndKey der).map fun (subject, key) =>
    ⟨Der.sequence subject, Der.sequence key, 2000000000⟩

/-- A bundle of this root. -/
def ed25519Platform : Platform :=
  { Platform.miniature with
    trustAnchor := fun der =>
      match readSubjectAndKey der with
      | some (subject, key) => .ok ⟨subject, key⟩
      | none => .error "BadDer"
    webpkiRootCerts := [ed25519Root] }

/-- The certificate of this root. -/
def ed25519Certificate : RootCertificate :=
  ⟨Der.sequence ed25519Root.subject, Der.sequence ed25519Root.subjectPublicKeyInfo, 2000000000⟩

theorem parseRoot_framesAnchors : FramesAnchors ed25519Platform parseRoot := by
  intro der cert anchor parsed trusted
  obtain ⟨⟨subject, key⟩, read, rfl⟩ := Option.map_eq_some_iff.mp parsed
  simp only [ed25519Platform, read, Except.ok.injEq] at trusted
  subst trusted
  exact ⟨rfl, rfl⟩

theorem readSubjectAndKey_ed25519Der :
    readSubjectAndKey ed25519Der =
      some (ed25519Root.subject, ed25519Root.subjectPublicKeyInfo) := by
  decide +kernel

theorem parseRoot_ed25519Der : parseRoot ed25519Der = some ed25519Certificate := by
  rw [parseRoot, readSubjectAndKey_ed25519Der]
  rfl

theorem ed25519_digests_differ :
    ed25519Platform.crates.sha256 ed25519Certificate.publicKeyRaw ≠
      ed25519Platform.crates.sha256 ed25519Root.subjectPublicKeyInfo := by
  decide

theorem constructors_disagree_ed25519 :
    ∃ info, TrustAnchorInfo.fromCertDer ed25519Platform.crates.sha256 parseRoot ed25519Der =
        some info ∧
      info.spkiSha256 ≠ (TrustAnchorInfo.fromTrustAnchor ed25519Platform.crates.sha256
        ed25519Root).spkiSha256 := by
  have trusted : ed25519Platform.trustAnchor ed25519Der = .ok ed25519Root := by
    simp only [ed25519Platform, readSubjectAndKey_ed25519Der]
  obtain ⟨info, made, -, -, different, -⟩ :=
    constructors_disagree parseRoot_framesAnchors parseRoot_ed25519Der trusted
      fun same => absurd same ed25519_digests_differ
  exact ⟨info, made, different⟩

/-- The digest of the certificate's key is excluded, and the root is still in the store. -/
theorem ed25519Root_not_excluded :
    (TrustAnchorInfo.fromCertDer ed25519Platform.crates.sha256 parseRoot ed25519Der).map
        TrustAnchorInfo.subjectDer ≠
      some (TrustAnchorInfo.fromTrustAnchor ed25519Platform.crates.sha256
        ed25519Root).subjectDer ∧
    (TrustAnchorInfo.fromCertDer ed25519Platform.crates.sha256 parseRoot ed25519Der).map
        TrustAnchorInfo.spkiSha256 ≠
      some (TrustAnchorInfo.fromTrustAnchor ed25519Platform.crates.sha256
        ed25519Root).spkiSha256 ∧
    ed25519Root ∈ (ofCalls [.withWebpkiRoots, .excludeFingerprint
      (ed25519Platform.crates.sha256 ed25519Certificate.publicKeyRaw)]).build ed25519Platform
        fun _ => [] := by
  have made : TrustAnchorInfo.fromCertDer ed25519Platform.crates.sha256 parseRoot ed25519Der =
      some ⟨ed25519Certificate.subjectRaw,
        ed25519Platform.crates.sha256 ed25519Certificate.publicKeyRaw, none⟩ :=
    TrustAnchorInfo.fromCertDer_eq_some_iff.mpr ⟨_, parseRoot_ed25519Der, rfl⟩
  rw [made]
  refine ⟨fun same => ?_, fun same => ?_, ?_⟩
  · exact Der.sequence_ne ed25519Root.subject (Option.some.inj same)
  · exact ed25519_digests_differ (Option.some.inj same)
  · exact (mem_build_exclude_iff [.withWebpkiRoots] ed25519_digests_differ.symm).mpr
      (mem_build_webpkiRoots (List.mem_singleton.mpr rfl))

/-- A root that is listed as expiring and then excluded by its fingerprint is trusted as before. -/
theorem mem_build_exclude_expiring {now : Int} {ders : List Bytes} {withinDays : UInt32}
    {info : TrustAnchorInfo} (framed : FramesAnchors platform parse)
    (noCollision : ∀ der ∈ ders, ∀ cert anchor, parse der = some cert →
      platform.trustAnchor der = .ok anchor →
        NoCollision platform cert.publicKeyRaw anchor.subjectPublicKeyInfo)
    (listed : info ∈ TrustAnchorInfo.expiringRootsFromDers platform.crates.sha256 parse now ders
      withinDays) :
    ∃ der ∈ ders, ∀ anchor, platform.trustAnchor der = .ok anchor → ∀ pemCerts calls,
      (anchor ∈ (ofCalls (calls ++ [.excludeFingerprint info.spkiSha256])).build platform
        pemCerts ↔ anchor ∈ (ofCalls calls).build platform pemCerts) := by
  obtain ⟨der, member, cert, parsed, -, rfl⟩ := TrustAnchorInfo.mem_expiringRootsFromDers.mp listed
  refine ⟨der, member, fun anchor trusted pemCerts calls => mem_build_exclude_iff calls ?_⟩
  exact (digests_differ framed parsed trusted (noCollision der member cert anchor parsed
    trusted)).symm

end Constructors

end OxiTls
