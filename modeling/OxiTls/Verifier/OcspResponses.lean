import OxiTls.Verifier.OcspIssuer

/-!
# Responses without an order

`evaluate_responses` scans its list with an early return, a skip and three flags.  The verdict
depends only on which responses for the certificate occur in the list: their order, their number and
the responses for other certificates do not matter.
-/

namespace OxiTls

namespace Crates

variable (crates : Crates)

/-- The list has a response for the certificate that reports it revoked, fresh or stale. -/
def HasRevoked (issuer : Certificate) (serial : Bytes) (responses : List SingleResponse) : Prop :=
  ∃ sr ∈ responses, crates.CertIdBinds sr.certId issuer serial ∧ sr.certStatus.isRevoked = true

/-- The list has a response for the certificate with the given status and inside its window. -/
def HasCurrent (issuer : Certificate) (serial : Bytes) (now : Nat) (status : CertStatus)
    (responses : List SingleResponse) : Prop :=
  ∃ sr ∈ responses, crates.CertIdBinds sr.certId issuer serial ∧ sr.certStatus = status ∧
    sr.thisUpdate ≤ now ∧ ∀ next, sr.nextUpdate = some next → now ≤ next

/-- A `CertID` that is about something else: another serial, another issuer name or key, or a hash
algorithm that is not supported. -/
def Unrelated (certId : CertId) (issuer : Certificate) (serial : Bytes) : Prop :=
  certId.serialNumber ≠ serial ∨
    (∀ nameDer, crates.nameToDer issuer.tbsCertificate.subject = .ok nameDer →
      crates.ocspDigest certId.hashAlgorithm.oid nameDer ≠ some certId.issuerNameHash) ∨
    crates.ocspDigest certId.hashAlgorithm.oid
      issuer.tbsCertificate.subjectPublicKeyInfo.subjectPublicKey ≠ some certId.issuerKeyHash ∨
    certId.hashAlgorithm.oid ∉ [oidSha1, oidSha256, oidSha384, oidSha512]

section Verdict

variable {crates} {issuer : Certificate} {serial : Bytes} {now : Nat}
  {responses others : List SingleResponse}

/-- Nothing is hashed under an algorithm that is not supported. -/
theorem ocspDigest_eq_none {hashOid : ObjectIdentifier}
    (unsupported : hashOid ∉ [oidSha1, oidSha256, oidSha384, oidSha512]) (data : Bytes) :
    crates.ocspDigest hashOid data = none := by
  simp only [List.mem_cons, List.not_mem_nil, or_false, not_or] at unsupported
  obtain ⟨sha1, sha256, sha384, sha512⟩ := unsupported
  rw [ocspDigest, if_neg sha1, if_neg sha256, if_neg sha384, if_neg sha512]

theorem not_certIdBinds_of_unrelated {certId : CertId}
    (unrelated : crates.Unrelated certId issuer serial) :
    ¬ crates.CertIdBinds certId issuer serial := by
  rintro ⟨same, nameDer, named, nameHash, keyHash⟩
  rcases unrelated with otherSerial | otherName | otherKey | unsupported
  · exact otherSerial same
  · exact otherName nameDer named nameHash
  · exact otherKey keyHash
  · rw [ocspDigest_eq_none unsupported] at keyHash
    contradiction

/-- Two lists with the same responses for the certificate. -/
def SameMatching (crates : Crates) (issuer : Certificate) (serial : Bytes)
    (responses others : List SingleResponse) : Prop :=
  ∀ sr, crates.CertIdBinds sr.certId issuer serial → (sr ∈ others ↔ sr ∈ responses)

theorem SameMatching.hasRevoked_iff (same : SameMatching crates issuer serial responses others) :
    crates.HasRevoked issuer serial others ↔ crates.HasRevoked issuer serial responses := by
  constructor
  · rintro ⟨sr, member, binds, revoked⟩
    exact ⟨sr, (same sr binds).mp member, binds, revoked⟩
  · rintro ⟨sr, member, binds, revoked⟩
    exact ⟨sr, (same sr binds).mpr member, binds, revoked⟩

theorem SameMatching.hasCurrent_iff (same : SameMatching crates issuer serial responses others)
    (status : CertStatus) :
    crates.HasCurrent issuer serial now status others ↔
      crates.HasCurrent issuer serial now status responses := by
  constructor
  · rintro ⟨sr, member, binds, current⟩
    exact ⟨sr, (same sr binds).mp member, binds, current⟩
  · rintro ⟨sr, member, binds, current⟩
    exact ⟨sr, (same sr binds).mpr member, binds, current⟩

/-- The verdict for the kinds of response that occur. -/
def verdictOf (revoked good unknown : Bool) : OcspCheckResult :=
  if revoked then .revoked
  else if good then .good
  else if unknown then .unknown
  else .unparseable

/-- The verdict depends on three facts about the list. -/
theorem exists_evaluateResponses_eq {endEntityDer : Bytes} {endEntity : Certificate}
    (parsed : crates.certificateFromDer endEntityDer = .ok endEntity) (issuer : Certificate)
    (responses : List SingleResponse) (now : Nat) :
    ∃ revoked good unknown,
      crates.evaluateResponses responses endEntityDer (some issuer) now =
          verdictOf revoked good unknown ∧
        (revoked = true ↔
          crates.HasRevoked issuer endEntity.tbsCertificate.serialNumber responses) ∧
        (good = true ↔
          crates.HasCurrent issuer endEntity.tbsCertificate.serialNumber now .good responses) ∧
        (unknown = true ↔
          crates.HasCurrent issuer endEntity.tbsCertificate.serialNumber now .unknown
            responses) :=
  ⟨_, _, _, crates.evaluateResponses_eq parsed issuer responses now,
    crates.any_coversRevoked_iff _ _ _, crates.any_coversCurrent_iff _ _ _ _ _,
    crates.any_coversCurrent_iff _ _ _ _ _⟩

/-- Lists with the same responses for the certificate get the same verdict. -/
theorem SameMatching.evaluateResponses_eq {endEntityDer : Bytes} {endEntity : Certificate}
    (parsed : crates.certificateFromDer endEntityDer = .ok endEntity)
    (same : SameMatching crates issuer endEntity.tbsCertificate.serialNumber responses others) :
    crates.evaluateResponses others endEntityDer (some issuer) now =
      crates.evaluateResponses responses endEntityDer (some issuer) now := by
  obtain ⟨revoked, good, unknown, verdict, revoked_iff, good_iff, unknown_iff⟩ :=
    exists_evaluateResponses_eq parsed issuer responses now
  obtain ⟨revoked', good', unknown', verdict', revoked_iff', good_iff', unknown_iff'⟩ :=
    exists_evaluateResponses_eq parsed issuer others now
  have revoked_eq : revoked' = revoked := by
    rw [Bool.eq_iff_iff, revoked_iff', revoked_iff, same.hasRevoked_iff]
  have good_eq : good' = good := by
    rw [Bool.eq_iff_iff, good_iff', good_iff, same.hasCurrent_iff]
  have unknown_eq : unknown' = unknown := by
    rw [Bool.eq_iff_iff, unknown_iff', unknown_iff, same.hasCurrent_iff]
  rw [verdict, verdict', revoked_eq, good_eq, unknown_eq]

/-- A response that is in the list already, or is about something else, may be added anywhere. -/
theorem sameMatching_insert {before after : List SingleResponse} {sr : SingleResponse}
    (known : sr ∈ before ++ after ∨ crates.Unrelated sr.certId issuer serial) :
    SameMatching crates issuer serial (before ++ after) (before ++ sr :: after) := by
  intro other binds
  rw [List.mem_append, List.mem_cons, List.mem_append]
  constructor
  · rintro (earlier | rfl | later)
    · exact .inl earlier
    · rcases known with member | unrelated
      · exact List.mem_append.mp member
      · exact absurd binds (not_certIdBinds_of_unrelated unrelated)
    · exact .inr later
  · rintro (earlier | later)
    · exact .inl earlier
    · exact .inr (.inr later)

end Verdict

/-- The verdict on a list of responses, for a certificate and an issuer that parse: revoked if some
response for the certificate says so, else good if a current one does, else unknown if a current one
does, else unparseable.  It depends only on the set of responses for the certificate, so neither
their order nor repetitions nor responses for anything else change it. -/
theorem evaluateResponses_order_free {endEntityDer : Bytes} {endEntity : Certificate}
    (parsed : crates.certificateFromDer endEntityDer = .ok endEntity) (issuer : Certificate)
    (responses : List SingleResponse) (now : Nat) :
    let serial := endEntity.tbsCertificate.serialNumber
    let verdict := crates.evaluateResponses responses endEntityDer (some issuer) now
    (verdict = .revoked ↔ crates.HasRevoked issuer serial responses) ∧
      (verdict = .good ↔ ¬ crates.HasRevoked issuer serial responses ∧
        crates.HasCurrent issuer serial now .good responses) ∧
      (verdict = .unknown ↔ ¬ crates.HasRevoked issuer serial responses ∧
        ¬ crates.HasCurrent issuer serial now .good responses ∧
        crates.HasCurrent issuer serial now .unknown responses) ∧
      (verdict = .unparseable ↔ ¬ crates.HasRevoked issuer serial responses ∧
        ¬ crates.HasCurrent issuer serial now .good responses ∧
        ¬ crates.HasCurrent issuer serial now .unknown responses) ∧
      (∀ others, SameMatching crates issuer serial responses others →
        crates.evaluateResponses others endEntityDer (some issuer) now = verdict) ∧
      (∀ others, responses.Perm others →
        crates.evaluateResponses others endEntityDer (some issuer) now = verdict) ∧
      ∀ before after sr, responses = before ++ after →
        sr ∈ responses ∨ crates.Unrelated sr.certId issuer serial →
          crates.evaluateResponses (before ++ sr :: after) endEntityDer (some issuer) now =
            verdict := by
  intro serial verdict
  obtain ⟨revoked, good, unknown, verdict_eq, revoked_iff, good_iff, unknown_iff⟩ :
      ∃ revoked good unknown, verdict = verdictOf revoked good unknown ∧
        (revoked = true ↔ crates.HasRevoked issuer serial responses) ∧
        (good = true ↔ crates.HasCurrent issuer serial now .good responses) ∧
        (unknown = true ↔ crates.HasCurrent issuer serial now .unknown responses) :=
    exists_evaluateResponses_eq parsed issuer responses now
  refine ⟨?_, ?_, ?_, ?_, fun others same => same.evaluateResponses_eq parsed,
    fun others perm => ?_, fun before after sr split known => ?_⟩
  · rw [verdict_eq, ← revoked_iff]
    cases revoked <;> cases good <;> cases unknown <;> simp [verdictOf]
  · rw [verdict_eq, ← revoked_iff, ← good_iff]
    cases revoked <;> cases good <;> cases unknown <;> simp [verdictOf]
  · rw [verdict_eq, ← revoked_iff, ← good_iff, ← unknown_iff]
    cases revoked <;> cases good <;> cases unknown <;> simp [verdictOf]
  · rw [verdict_eq, ← revoked_iff, ← good_iff, ← unknown_iff]
    cases revoked <;> cases good <;> cases unknown <;> simp [verdictOf]
  · have same : SameMatching crates issuer serial responses others := fun sr _ => perm.mem_iff.symm
    exact same.evaluateResponses_eq parsed
  · subst split
    exact (sameMatching_insert known).evaluateResponses_eq parsed

end Crates

namespace OcspClientVerifier

/-- A response about the sample authority's certificate with the given serial. -/
def sampleResponse (status : CertStatus) (serial : UInt8) : SingleResponse where
  certId := ⟨⟨oidSha1, none⟩, [1], [11], [serial]⟩
  certStatus := status
  thisUpdate := 50
  nextUpdate := some 150
  singleExtensions := none

/-- A stale revocation after a current good response, in either order and with an unrelated
response. -/
theorem evaluateResponses_order_free_sample :
    rogueCrates.evaluateResponses [sampleResponse .good 7, sampleResponse (.revoked 20 none) 7]
        [1] (some sampleAuthority) 100 = .revoked ∧
      rogueCrates.evaluateResponses [sampleResponse (.revoked 20 none) 7, sampleResponse .good 7]
        [1] (some sampleAuthority) 100 = .revoked ∧
      rogueCrates.evaluateResponses
        [sampleResponse .good 7, sampleResponse .good 8, sampleResponse (.revoked 20 none) 7]
        [1] (some sampleAuthority) 100 = .revoked := by
  obtain ⟨_, _, _, _, _, permuted, inserted⟩ := Crates.evaluateResponses_order_free rogueCrates
    (show rogueCrates.certificateFromDer [1] = .ok sampleLeaf from rfl) sampleAuthority
    [sampleResponse .good 7, sampleResponse (.revoked 20 none) 7] 100
  refine ⟨by decide, (permuted _ (List.Perm.swap _ _ [])).trans (by decide),
    (inserted [sampleResponse .good 7] [sampleResponse (.revoked 20 none) 7]
      (sampleResponse .good 8) rfl (.inr (.inl (by decide)))).trans (by decide)⟩

end OcspClientVerifier

end OxiTls
