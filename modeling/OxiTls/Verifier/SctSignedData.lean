import OxiTls.Verifier.Sct

/-!
# Unambiguous signed data

An SCT signs a concatenation of fixed-width fields and of strings after their lengths.  Both formats
can be read off again, and the entry type tells them apart.
-/

namespace OxiTls

namespace ParsedSct

/-- The tail both formats share: the entry and the extensions, each after its length. -/
def entryAndExtensions (sct : ParsedSct) (entry : Bytes) : Bytes :=
  BigEndian.encode 3 entry.length ++
    (entry ++ (BigEndian.encode 2 sct.extensions.length ++ (sct.extensions ++ [])))

end ParsedSct

theorem buildSctSignedData_eq (sct : ParsedSct) (certDer : Bytes) :
    buildSctSignedData sct certDer =
      [0x00, 0x00] ++ (BigEndian.encode 8 sct.timestampMs.toNat ++
        ([0x00, 0x00] ++ sct.entryAndExtensions certDer)) := by
  simp only [buildSctSignedData, ParsedSct.entryAndExtensions, List.append_assoc, List.append_nil]

theorem buildSctSignedDataPrecert_eq (sct : ParsedSct) (tbsNoSct : Bytes)
    (issuerKeyHash : Digest) :
    buildSctSignedDataPrecert sct tbsNoSct issuerKeyHash =
      [sct.sctVersion, 0x00] ++ (BigEndian.encode 8 sct.timestampMs.toNat ++
        ([0x00, 0x01] ++ (issuerKeyHash.toList ++ sct.entryAndExtensions tbsNoSct))) := by
  simp only [buildSctSignedDataPrecert, ParsedSct.entryAndExtensions, List.append_assoc,
    List.append_nil]

variable {left right : ParsedSct}

/-- Version, timestamp and entry type stand at fixed positions. -/
theorem header_inj {leftVersion rightVersion leftType rightType leftRest rightRest : Bytes}
    (same : leftVersion ++ (BigEndian.encode 8 left.timestampMs.toNat ++ (leftType ++ leftRest)) =
      rightVersion ++ (BigEndian.encode 8 right.timestampMs.toNat ++ (rightType ++ rightRest)))
    (versions : leftVersion.length = rightVersion.length)
    (types : leftType.length = rightType.length) :
    left.timestampMs = right.timestampMs ∧ leftType = rightType ∧ leftRest = rightRest := by
  obtain ⟨_, same⟩ := List.append_inj same versions
  have aligned : (BigEndian.encode 8 left.timestampMs.toNat).length =
      (BigEndian.encode 8 right.timestampMs.toNat).length := by
    rw [BigEndian.length_encode, BigEndian.length_encode]
  obtain ⟨times, same⟩ := List.append_inj same aligned
  obtain ⟨sameType, sameRest⟩ := List.append_inj same types
  have equal := BigEndian.encode_injective left.timestampMs.toNat_lt right.timestampMs.toNat_lt
    times
  exact ⟨UInt64.toNat_inj.mp equal, sameType, sameRest⟩

/-- Entry and extensions are read off one after the other. -/
theorem entryAndExtensions_inj {leftEntry rightEntry : Bytes}
    (leftExtensions : left.extensions.length < 2 ^ 16)
    (rightExtensions : right.extensions.length < 2 ^ 16)
    (leftFits : leftEntry.length < 2 ^ 24) (rightFits : rightEntry.length < 2 ^ 24)
    (same : left.entryAndExtensions leftEntry = right.entryAndExtensions rightEntry) :
    leftEntry = rightEntry ∧ left.extensions = right.extensions := by
  obtain ⟨entries, same⟩ := BigEndian.encode_length_append_inj leftFits rightFits same
  obtain ⟨extensions, _⟩ :=
    BigEndian.encode_length_append_inj leftExtensions rightExtensions same
  exact ⟨entries, extensions⟩

/-- Each format determines the timestamp, the extensions and the entry, and no output of one is
an output of the other. -/
theorem signedData_unambiguous (left right : ParsedSct)
    (leftExtensions : left.extensions.length < 2 ^ 16)
    (rightExtensions : right.extensions.length < 2 ^ 16) (leftEntry rightEntry : Bytes)
    (leftFits : leftEntry.length < 2 ^ 24) (rightFits : rightEntry.length < 2 ^ 24)
    (leftHash rightHash : Digest) :
    (buildSctSignedDataPrecert left leftEntry leftHash =
        buildSctSignedDataPrecert right rightEntry rightHash →
      left.timestampMs = right.timestampMs ∧ left.extensions = right.extensions ∧
        leftEntry = rightEntry ∧ leftHash = rightHash) ∧
      (buildSctSignedData left leftEntry = buildSctSignedData right rightEntry →
        left.timestampMs = right.timestampMs ∧ left.extensions = right.extensions ∧
          leftEntry = rightEntry) ∧
      buildSctSignedDataPrecert left leftEntry leftHash ≠ buildSctSignedData right rightEntry := by
  refine ⟨fun same => ?_, fun same => ?_, fun same => ?_⟩
  · rw [buildSctSignedDataPrecert_eq, buildSctSignedDataPrecert_eq] at same
    obtain ⟨times, _, same⟩ := header_inj same rfl rfl
    have aligned : leftHash.toList.length = rightHash.toList.length := by
      rw [Vector.length_toList, Vector.length_toList]
    obtain ⟨hashes, same⟩ := List.append_inj same aligned
    obtain ⟨entries, extensions⟩ :=
      entryAndExtensions_inj leftExtensions rightExtensions leftFits rightFits same
    exact ⟨times, extensions, entries, Vector.toList_inj.mp hashes⟩
  · rw [buildSctSignedData_eq, buildSctSignedData_eq] at same
    obtain ⟨times, _, same⟩ := header_inj same rfl rfl
    obtain ⟨entries, extensions⟩ :=
      entryAndExtensions_inj leftExtensions rightExtensions leftFits rightFits same
    exact ⟨times, extensions, entries⟩
  · rw [buildSctSignedDataPrecert_eq, buildSctSignedData_eq] at same
    obtain ⟨_, types, _⟩ := header_inj same rfl rfl
    exact absurd types (by decide)

/-- An SCT with the given timestamp and no extensions. -/
def stampedSct (timestampMs : UInt64) : ParsedSct where
  sctVersion := 0
  logId := Vector.replicate 32 0
  timestampMs := timestampMs
  extensions := []
  hashAlg := 4
  sigAlg := 3
  signature := []

/-- Two timestamps of one entry have different signed data, and so have the two formats. -/
theorem signedData_unambiguous_stamped :
    buildSctSignedDataPrecert (stampedSct 1) [7] (Vector.replicate 32 9) ≠
        buildSctSignedDataPrecert (stampedSct 2) [7] (Vector.replicate 32 9) ∧
      buildSctSignedData (stampedSct 1) [7] ≠ buildSctSignedData (stampedSct 2) [7] ∧
      buildSctSignedDataPrecert (stampedSct 1) [7] (Vector.replicate 32 9) ≠
        buildSctSignedData (stampedSct 2) [7] := by
  obtain ⟨precert, whole, separated⟩ := signedData_unambiguous (stampedSct 1) (stampedSct 2)
    (by decide) (by decide) [7] [7] (by decide) (by decide)
    (Vector.replicate 32 9) (Vector.replicate 32 9)
  exact ⟨fun same => absurd (precert same).1 (by decide),
    fun same => absurd (whole same).1 (by decide), separated⟩

end OxiTls
