import Mathlib.Data.Set.Card
import OxiTls.Verifier.SctStrict

/-!
# The count of verified logs

`count_trusted_verified` walks the SCTs in order and skips a log it has counted.  The count is the
number of distinct logs with some verified SCT, so neither the order of the SCTs nor their
repetitions matter.
-/

namespace OxiTls

namespace Crates

variable (crates : Crates)

/-- The bytes an SCT is checked against in a handshake. -/
def handshakeSignedData (leafDer : Bytes) (issuerDer : Option Bytes) : ParsedSct → Bytes :=
  sctSignedData leafDer (crates.precertInputs leafDer issuerDer)

/-- The identifiers in the trusted list for which some SCT verifies under the first log with that
identifier. -/
def verifiedLogs (logs : List CtLog) (leafDer : Bytes) (issuerDer : Option Bytes)
    (scts : List ParsedSct) : Set Digest :=
  {id | ∃ log, logs.find? (fun log => log.id == id) = some log ∧
    ∃ sct ∈ scts, sct.logId = id ∧
      crates.verifySctSignature log (crates.handshakeSignedData leafDer issuerDer sct) sct = .ok ()}

/-- An SCT of an unknown log, or with a bad signature. -/
def Worthless (logs : List CtLog) (leafDer : Bytes) (issuerDer : Option Bytes)
    (sct : ParsedSct) : Prop :=
  (∀ log ∈ logs, log.id ≠ sct.logId) ∨
    ∃ log e, logs.find? (fun log => log.id == sct.logId) = some log ∧
      crates.verifySctSignature log (crates.handshakeSignedData leafDer issuerDer sct) sct =
        .error e

variable {crates} {logs : List CtLog} {leafDer : Bytes} {issuerDer : Option Bytes}

theorem mem_verifiedLogs_iff (scts : List ParsedSct) (id : Digest) :
    id ∈ crates.verifiedLogs logs leafDer issuerDer scts ↔
      ∃ sct ∈ scts, sct.logId = id ∧
        crates.TrustedVerifies logs (crates.handshakeSignedData leafDer issuerDer) sct := by
  constructor
  · rintro ⟨log, found, sct, listed, rfl, verified⟩
    exact ⟨sct, listed, rfl, log, found, verified⟩
  · rintro ⟨sct, listed, rfl, log, found, verified⟩
    exact ⟨log, found, sct, listed, rfl, verified⟩

theorem Worthless.not_trustedVerifies {sct : ParsedSct}
    (worthless : crates.Worthless logs leafDer issuerDer sct) :
    ¬ crates.TrustedVerifies logs (crates.handshakeSignedData leafDer issuerDer) sct := by
  rintro ⟨log, found, verified⟩
  rcases worthless with unknown | ⟨log', e, found', failed⟩
  · have same := List.find?_some found
    exact unknown log (List.mem_of_find?_eq_some found) (by simpa using same)
  · obtain rfl := Option.some.inj (found.symm.trans found')
    rw [verified] at failed
    contradiction

/-- The logs counted on the way are those with a verified SCT. -/
theorem setOf_mem_seenLogs (scts : List ParsedSct) :
    {id | id ∈ crates.seenLogs logs (crates.handshakeSignedData leafDer issuerDer) [] scts} =
      crates.verifiedLogs logs leafDer issuerDer scts := by
  ext id
  have counted := crates.mem_seenLogs_iff logs (crates.handshakeSignedData leafDer issuerDer) []
    scts id
  simp only [List.not_mem_nil, false_or] at counted
  rw [mem_verifiedLogs_iff]
  exact counted

theorem finite_verifiedLogs (scts : List ParsedSct) :
    (crates.verifiedLogs logs leafDer issuerDer scts).Finite := by
  rw [← setOf_mem_seenLogs]
  exact List.finite_toSet _

/-- Nothing is counted twice and nothing is missed. -/
theorem toNat_countTrustedVerified_eq_ncard (scts : List ParsedSct) :
    (crates.countTrustedVerified scts logs leafDer issuerDer).toNat =
      min 255 (crates.verifiedLogs logs leafDer issuerDer scts).ncard := by
  have distinct := crates.nodup_seenLogs logs (crates.handshakeSignedData leafDer issuerDer) [] scts
    List.nodup_nil
  have length_eq : (crates.verifiedLogs logs leafDer issuerDer scts).ncard =
      (crates.seenLogs logs (crates.handshakeSignedData leafDer issuerDer) [] scts).length := by
    rw [← setOf_mem_seenLogs, ← List.toFinset_card_of_nodup distinct, ← Set.ncard_coe_finset,
      List.coe_toFinset]
  rw [length_eq, toNat_countTrustedVerified, min_comm, handshakeSignedData]

/-- More SCTs verify under at least as many logs. -/
theorem countTrustedVerified_le_of_subset {scts others : List ParsedSct} (subset : scts ⊆ others) :
    crates.countTrustedVerified scts logs leafDer issuerDer ≤
      crates.countTrustedVerified others logs leafDer issuerDer := by
  have contained : crates.verifiedLogs logs leafDer issuerDer scts ⊆
      crates.verifiedLogs logs leafDer issuerDer others := by
    rintro id ⟨log, found, sct, listed, verified⟩
    exact ⟨log, found, sct, subset listed, verified⟩
  have fewer := Set.ncard_le_ncard contained (finite_verifiedLogs others)
  rw [UInt8.le_iff_toNat_le, toNat_countTrustedVerified_eq_ncard,
    toNat_countTrustedVerified_eq_ncard]
  omega

/-- Only the set of the SCTs that verify matters. -/
theorem countTrustedVerified_congr {scts others : List ParsedSct}
    (same : ∀ sct, crates.TrustedVerifies logs (crates.handshakeSignedData leafDer issuerDer) sct →
      (sct ∈ scts ↔ sct ∈ others)) :
    crates.countTrustedVerified scts logs leafDer issuerDer =
      crates.countTrustedVerified others logs leafDer issuerDer := by
  have verified_eq : crates.verifiedLogs logs leafDer issuerDer scts =
      crates.verifiedLogs logs leafDer issuerDer others := by
    ext id
    rw [mem_verifiedLogs_iff, mem_verifiedLogs_iff]
    constructor
    · rintro ⟨sct, listed, identified, verified⟩
      exact ⟨sct, (same sct verified).mp listed, identified, verified⟩
    · rintro ⟨sct, listed, identified, verified⟩
      exact ⟨sct, (same sct verified).mpr listed, identified, verified⟩
  apply UInt8.toNat_inj.mp
  rw [toNat_countTrustedVerified_eq_ncard, toNat_countTrustedVerified_eq_ncard, verified_eq]

variable (crates) (logs) (leafDer) (issuerDer)

/-- The count is the number of distinct verified logs, saturating at 255.  Permuting or repeating
SCTs does not change it, adding some never lowers it, and a worthless one does not change it. -/
theorem countTrustedVerified_order_free (scts : List ParsedSct) :
    let count := fun scts => crates.countTrustedVerified scts logs leafDer issuerDer
    (count scts).toNat = min 255 (crates.verifiedLogs logs leafDer issuerDer scts).ncard ∧
      (∀ others, scts.Perm others → count others = count scts) ∧
      (∀ others, scts ⊆ others → count scts ≤ count others) ∧
      ∀ before after sct, scts = before ++ after →
        sct ∈ scts ∨ crates.Worthless logs leafDer issuerDer sct →
          count (before ++ sct :: after) = count scts := by
  intro count
  refine ⟨toNat_countTrustedVerified_eq_ncard scts, fun others perm => ?_, fun others subset => ?_,
    fun before after sct split known => ?_⟩
  · exact countTrustedVerified_congr fun sct _ => perm.mem_iff.symm
  · exact countTrustedVerified_le_of_subset subset
  · refine countTrustedVerified_congr fun other verified => ?_
    have new_or_known : other = sct → other ∈ scts := by
      rintro rfl
      rcases known with listed | worthless
      · exact listed
      · exact absurd verified worthless.not_trustedVerifies
    subst split
    simp only [List.mem_append, List.mem_cons] at new_or_known ⊢
    tauto

end Crates

end OxiTls
