import Mathlib.Data.List.Basic
import Mathlib.Data.List.Induction
import OxiTls.Client.Config

/-!
# The root store builder

`RootStoreBuilder` of `oxitls-webpki-roots`: trust anchors come from the Mozilla bundle, from DER
certificates and from PEM data, and some are excluded by the fingerprint of their key.  Parsing a
PEM file is a parameter: the items `rustls_pemfile::certs` yields, each a certificate or a failure.
-/

namespace OxiTls

/-- `TrustAnchorInfo`; the expiry is in Unix seconds. -/
structure TrustAnchorInfo where
  subjectDer : Bytes
  spkiSha256 : Digest
  notAfter : Option Int
  deriving DecidableEq, Repr

/-- `TrustAnchorInfo::from_trust_anchor`. -/
def TrustAnchorInfo.fromTrustAnchor (sha256 : Bytes → Digest) (anchor : TrustAnchor) :
    TrustAnchorInfo where
  subjectDer := anchor.subject
  spkiSha256 := sha256 anchor.subjectPublicKeyInfo
  notAfter := none

/-- `RootStoreBuilder`. -/
structure RootStoreBuilder where
  includeWebpki : Bool
  additionalDer : List Bytes
  additionalPem : List Bytes
  excludedSpkiSha256 : List Digest
  deriving DecidableEq, Repr

namespace RootStoreBuilder

/-- `RootStoreBuilder::new`. -/
def new : RootStoreBuilder := ⟨false, [], [], []⟩

/-- `RootStoreBuilder::with_webpki_roots`. -/
def withWebpkiRoots (builder : RootStoreBuilder) : RootStoreBuilder :=
  { builder with includeWebpki := true }

/-- `RootStoreBuilder::add_der`. -/
def addDer (builder : RootStoreBuilder) (certDer : Bytes) : RootStoreBuilder :=
  { builder with additionalDer := builder.additionalDer ++ [certDer] }

/-- `RootStoreBuilder::add_pem`. -/
def addPem (builder : RootStoreBuilder) (pemData : Bytes) : RootStoreBuilder :=
  { builder with additionalPem := builder.additionalPem ++ [pemData] }

/-- `RootStoreBuilder::exclude_fingerprint`. -/
def excludeFingerprint (builder : RootStoreBuilder) (spkiSha256 : Digest) : RootStoreBuilder :=
  { builder with excludedSpkiSha256 := builder.excludedSpkiSha256 ++ [spkiSha256] }

section Build

variable (platform : Platform) (pemCerts : Bytes → List (Except String Bytes))

/-- `RootCertStore::add`, its answer ignored. -/
def add (store : RootCertStore) (cert : Bytes) : RootCertStore :=
  match platform.trustAnchor cert with
  | .ok anchor => store ++ [anchor]
  | .error _ => store

/-- The loop body over the PEM data: a failed item gives up the whole file. -/
def addPemData (store : RootCertStore) (pemData : Bytes) : RootCertStore :=
  match (pemCerts pemData).mapM id with
  | .ok certs => certs.foldl (add platform) store
  | .error _ => store

/-- The filter that `build` applies to the Mozilla bundle. -/
def keeps (builder : RootStoreBuilder) (anchor : TrustAnchor) : Bool :=
  !builder.excludedSpkiSha256.contains (platform.crates.sha256 anchor.subjectPublicKeyInfo)

/-- `RootStoreBuilder::build`. -/
def build (builder : RootStoreBuilder) : RootCertStore :=
  let store : RootCertStore := []
  let store := if builder.includeWebpki then
      store ++ platform.webpkiRootCerts.filter (builder.keeps platform)
    else store
  let store := builder.additionalDer.foldl (add platform) store
  builder.additionalPem.foldl (addPemData platform pemCerts) store

end Build

/-- A call of a builder method. -/
inductive Call
  | withWebpkiRoots
  | addDer (certDer : Bytes)
  | addPem (pemData : Bytes)
  | excludeFingerprint (spkiSha256 : Digest)
  deriving DecidableEq, Repr

/-- Make a call. -/
def apply (builder : RootStoreBuilder) : Call → RootStoreBuilder
  | .withWebpkiRoots => builder.withWebpkiRoots
  | .addDer certDer => builder.addDer certDer
  | .addPem pemData => builder.addPem pemData
  | .excludeFingerprint spkiSha256 => builder.excludeFingerprint spkiSha256

/-- The builder after calls on a new one. -/
def ofCalls (calls : List Call) : RootStoreBuilder := calls.foldl apply new

/-! ## What the calls ask for -/

namespace Call

variable (pemCerts : Bytes → List (Except String Bytes))

/-- The certificates of PEM data all of whose items parse; other data has none. -/
def certsOfPem (pemData : Bytes) : List Bytes :=
  match (pemCerts pemData).mapM id with
  | .ok certs => certs
  | .error _ => []

/-- The certificates a call adds. -/
def added : Call → List Bytes
  | .addDer certDer => [certDer]
  | .addPem pemData => certsOfPem pemCerts pemData
  | .withWebpkiRoots | .excludeFingerprint _ => []

/-- The fingerprint a call excludes. -/
def excluded : Call → Option Digest
  | .excludeFingerprint spkiSha256 => some spkiSha256
  | .withWebpkiRoots | .addDer _ | .addPem _ => none

end Call

section Exclusion

variable (platform : Platform) (pemCerts : Bytes → List (Except String Bytes))

/-- No anchor of the store has a fingerprint that a call excluded. -/
def Excludes (calls : List Call) : Prop :=
  ∀ anchor ∈ (ofCalls calls).build platform pemCerts,
    (TrustAnchorInfo.fromTrustAnchor platform.crates.sha256 anchor).spkiSha256 ∉
      calls.filterMap Call.excluded

/-- A certificate whose key a call excluded. -/
def Distrusted (calls : List Call) (cert : Bytes) : Prop :=
  ∃ anchor, platform.trustAnchor cert = .ok anchor ∧
    platform.crates.sha256 anchor.subjectPublicKeyInfo ∈ calls.filterMap Call.excluded

end Exclusion

/-! ## The builder collects what the calls ask for -/

variable {platform : Platform} {pemCerts : Bytes → List (Except String Bytes)}

theorem apply_excluded (builder : RootStoreBuilder) (call : Call) :
    (builder.apply call).excludedSpkiSha256 =
      builder.excludedSpkiSha256 ++ call.excluded.toList := by
  cases call <;> simp [apply, withWebpkiRoots, addDer, addPem, excludeFingerprint, Call.excluded]

theorem ofCalls_excluded (calls : List Call) :
    (ofCalls calls).excludedSpkiSha256 = calls.filterMap Call.excluded := by
  induction calls using List.reverseRecOn with
  | nil => rfl
  | append_singleton calls call induction =>
      rw [ofCalls, List.foldl_append, List.foldl_cons, List.foldl_nil, ← ofCalls, apply_excluded,
        induction, List.filterMap_append]
      cases excluded : call.excluded <;> simp [excluded]

/-- The certificates a builder has collected. -/
def collected (pemCerts : Bytes → List (Except String Bytes)) (builder : RootStoreBuilder) :
    List Bytes :=
  builder.additionalDer ++ builder.additionalPem.flatMap (Call.certsOfPem pemCerts)

theorem mem_collected_apply (builder : RootStoreBuilder) (call : Call) {cert : Bytes} :
    cert ∈ (builder.apply call).collected pemCerts ↔
      cert ∈ builder.collected pemCerts ∨ cert ∈ call.added pemCerts := by
  cases call with
  | withWebpkiRoots => simp [apply, withWebpkiRoots, collected, Call.added]
  | addDer certDer =>
      simp only [apply, addDer, collected, Call.added, List.mem_append, List.mem_singleton]
      tauto
  | addPem pemData =>
      simp only [apply, addPem, collected, Call.added, List.flatMap_append, List.flatMap_singleton,
        List.mem_append]
      tauto
  | excludeFingerprint spkiSha256 => simp [apply, excludeFingerprint, collected, Call.added]

theorem mem_collected_ofCalls (calls : List Call) {cert : Bytes} :
    cert ∈ (ofCalls calls).collected pemCerts ↔ cert ∈ calls.flatMap (Call.added pemCerts) := by
  induction calls using List.reverseRecOn with
  | nil => rfl
  | append_singleton calls call induction =>
      rw [ofCalls, List.foldl_append, List.foldl_cons, List.foldl_nil, ← ofCalls,
        mem_collected_apply, induction, List.flatMap_append, List.mem_append,
        List.flatMap_singleton]

/-! ## What the store holds -/

theorem mem_add {store : RootCertStore} {cert : Bytes} {anchor : TrustAnchor} :
    anchor ∈ add platform store cert ↔
      anchor ∈ store ∨ platform.trustAnchor cert = .ok anchor := by
  rw [add]
  cases parsed : platform.trustAnchor cert with
  | ok found => simp [eq_comm]
  | error failure => simp

theorem mem_foldl_add {certs : List Bytes} {store : RootCertStore} {anchor : TrustAnchor} :
    anchor ∈ certs.foldl (add platform) store ↔
      anchor ∈ store ∨ ∃ cert ∈ certs, platform.trustAnchor cert = .ok anchor := by
  induction certs generalizing store with
  | nil => simp
  | cons cert certs induction =>
      rw [List.foldl_cons, induction, mem_add, List.exists_mem_cons_iff, or_assoc]

theorem addPemData_eq {store : RootCertStore} {pemData : Bytes} :
    addPemData platform pemCerts store pemData =
      (Call.certsOfPem pemCerts pemData).foldl (add platform) store := by
  rw [addPemData, Call.certsOfPem]
  cases (pemCerts pemData).mapM id <;> rfl

/-- The store holds the anchors of the bundle that pass the filter and the anchors of all collected
certificates, unfiltered. -/
theorem mem_build {builder : RootStoreBuilder} {anchor : TrustAnchor} :
    anchor ∈ builder.build platform pemCerts ↔
      (builder.includeWebpki = true ∧ anchor ∈ platform.webpkiRootCerts ∧
        builder.keeps platform anchor = true) ∨
      ∃ cert ∈ builder.collected pemCerts, platform.trustAnchor cert = .ok anchor := by
  have flattened (pems : List Bytes) (store : RootCertStore) :
      pems.foldl (addPemData platform pemCerts) store =
        (pems.flatMap (Call.certsOfPem pemCerts)).foldl (add platform) store := by
    induction pems generalizing store with
    | nil => rfl
    | cons pem pems induction =>
        rw [List.foldl_cons, induction, addPemData_eq, List.flatMap_cons, List.foldl_append]
  rw [build, flattened, ← List.foldl_append, ← collected, mem_foldl_add]
  refine or_congr_left ?_
  cases builder.includeWebpki <;> simp

theorem keeps_iff {builder : RootStoreBuilder} {anchor : TrustAnchor} :
    builder.keeps platform anchor = true ↔
      platform.crates.sha256 anchor.subjectPublicKeyInfo ∉ builder.excludedSpkiSha256 := by
  simp [keeps]

/-- The exclusions hold of the built store exactly when no added certificate is a distrusted one:
only the anchors of the Mozilla bundle are filtered. -/
theorem excludes_iff (platform : Platform) (pemCerts : Bytes → List (Except String Bytes))
    (calls : List Call) :
    Excludes platform pemCerts calls ↔
      ∀ cert ∈ calls.flatMap (Call.added pemCerts), ¬ Distrusted platform calls cert := by
  constructor
  · rintro excludes cert added ⟨anchor, parsed, excluded⟩
    refine excludes anchor (mem_build.mpr (.inr ⟨cert, ?_, parsed⟩)) excluded
    exact (mem_collected_ofCalls calls).mpr added
  · rintro trusted anchor stored excluded
    rcases mem_build.mp stored with ⟨-, -, kept⟩ | ⟨cert, collected, parsed⟩
    · rw [keeps_iff, ofCalls_excluded] at kept
      exact kept excluded
    · exact trusted cert ((mem_collected_ofCalls calls).mp collected) ⟨anchor, parsed, excluded⟩

/-- An anchor of the Mozilla bundle is excluded and comes back with a PEM file. -/
theorem reintroduced_not_excludes :
    ¬ Excludes Platform.miniature (fun pemData => [.ok pemData])
      [.withWebpkiRoots, .excludeFingerprint (Platform.miniature.crates.sha256 [0]),
        .addPem [0]] := by
  intro excludes
  refine excludes ⟨[0], [0]⟩ (mem_build.mpr (.inr ⟨[0], ?_, rfl⟩)) ?_
  · exact List.mem_singleton.mpr rfl
  · exact List.mem_singleton.mpr rfl

end RootStoreBuilder

end OxiTls
