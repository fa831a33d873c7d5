import OxiTls.Library.DerElement
import OxiTls.Pki

/-!
# Hand-written extensions of a certificate

`cert.rs` of `oxitls-rcgen`: the authority key identifier and the authority information access are
encoded by hand.  The length encoder knows three forms, for lengths up to 65535; within that range
it writes the shortest form, and the nested elements are strict DER.
-/

namespace OxiTls.Rcgen

/-- `encode_der_length`, which appends to a buffer. -/
def encodeDerLength (buf : Bytes) (len : Nat) : Bytes :=
  if len < 0x80 then buf ++ [UInt8.ofNat len]
  else if len ≤ 0xFF then buf ++ [0x81, UInt8.ofNat len]
  else buf ++ [0x82, UInt8.ofNat (len >>> 8), UInt8.ofNat len]

/-- `encode_authority_key_identifier`. -/
def encodeAuthorityKeyIdentifier (keyId : Bytes) : Bytes :=
  let content := encodeDerLength [0x80] keyId.length ++ keyId
  encodeDerLength [0x30] content.length ++ content

/-- `encode_tagged`. -/
def encodeTagged (tag : UInt8) (content : Bytes) : Bytes :=
  encodeDerLength [tag] content.length ++ content

/-- `encode_sequence`. -/
def encodeSequence (items : List Bytes) : Bytes := encodeTagged 0x30 items.flatten

/-- `url.as_bytes()`. -/
def urlBytes (url : String) : Bytes := url.toUTF8.data.toList

/-- The object identifier of an OCSP responder, with its tag and length. -/
def oidTlv : Bytes := [0x06, 0x08, 0x2B, 0x06, 0x01, 0x05, 0x05, 0x07, 0x30, 0x01]

/-- `encode_aia_ocsp`. -/
def encodeAiaOcsp (url : String) : Bytes :=
  let uriTlv := encodeTagged 0x86 (urlBytes url)
  let innerSeq := encodeSequence [oidTlv, uriTlv]
  encodeSequence [innerSeq]

/-! ## Strict readers -/

/-- Read `SEQUENCE { [0] }` and nothing else. -/
def readAuthorityKeyIdentifier (bytes : Bytes) : Option Bytes := do
  let content ← Der.readWhole 0x30 bytes
  Der.readWhole 0x80 content

/-- Read `SEQUENCE { SEQUENCE { OBJECT IDENTIFIER, [6] } }` and nothing else. -/
def readAiaOcsp (bytes : Bytes) : Option (ObjectIdentifier × Bytes) := do
  let descriptions ← Der.readWhole 0x30 bytes
  let description ← Der.readWhole 0x30 descriptions
  let (method, location) ← Der.readElement 0x06 description
  let arcs ← Der.readObjectIdentifier method
  let uri ← Der.readWhole 0x86 location
  some (⟨arcs⟩, uri)

/-! ## The encoders -/

/-- Up to 65535 the three forms are the shortest ones. -/
theorem encodeDerLength_eq {len : Nat} (bounded : len ≤ 65535) (buf : Bytes) :
    encodeDerLength buf len = buf ++ Der.lengthField len := by
  rw [encodeDerLength]
  split_ifs with short medium
  · rw [Der.lengthField_of_lt short]
  · have count : Der.byteCount len = 1 :=
      (Der.byteCount_eq_iff (by omega)).mpr ⟨by omega, by omega⟩
    rw [Der.lengthField_of_le (by omega), count]
    rfl
  · have count : Der.byteCount len = 2 :=
      (Der.byteCount_eq_iff (by omega)).mpr ⟨by omega, by omega⟩
    rw [Der.lengthField_of_le (by omega), count, Nat.shiftRight_eq_div_pow]
    rfl

theorem encodeTagged_eq {tag : UInt8} {content : Bytes} (bounded : content.length ≤ 65535) :
    encodeTagged tag content = Der.element tag content := by
  rw [encodeTagged, encodeDerLength_eq bounded, Der.element, List.append_assoc,
    List.singleton_append]

/-- The contents that the key identifier is nested in are in the range of `encode_der_length`. -/
structure KeyIdFits (keyId : Bytes) : Prop where
  identifier : keyId.length ≤ 65535
  content : (encodeTagged 0x80 keyId).length ≤ 65535

/-- The contents that the URL is nested in are in the range of `encode_der_length`. -/
structure UrlFits (url : String) : Prop where
  location : (urlBytes url).length ≤ 65535
  description : (oidTlv ++ encodeTagged 0x86 (urlBytes url)).length ≤ 65535
  descriptions : (encodeSequence [oidTlv, encodeTagged 0x86 (urlBytes url)]).length ≤ 65535

/-- A tag and a length take at most four bytes. -/
theorem length_encodeTagged_le (tag : UInt8) (content : Bytes) :
    (encodeTagged tag content).length ≤ content.length + 4 := by
  unfold encodeTagged encodeDerLength
  split_ifs <;> simp only [List.length_append, List.length_cons, List.length_nil] <;> omega

theorem keyIdFits_of_length_le {keyId : Bytes} (bounded : keyId.length ≤ 65531) :
    KeyIdFits keyId where
  identifier := bounded.trans (by decide)
  content := (length_encodeTagged_le 0x80 keyId).trans (Nat.add_le_add_right bounded 4)

theorem urlFits_of_length_le {url : String} (bounded : (urlBytes url).length ≤ 65517) :
    UrlFits url := by
  have uri := length_encodeTagged_le 0x86 (urlBytes url)
  have description : (oidTlv ++ encodeTagged 0x86 (urlBytes url)).length ≤ 65531 := by
    have oid : oidTlv.length = 10 := rfl
    rw [List.length_append]
    omega
  refine ⟨bounded.trans (by decide), description.trans (by decide), ?_⟩
  refine (length_encodeTagged_le _ _).trans ?_
  simpa using description

theorem encodeAuthorityKeyIdentifier_eq {keyId : Bytes} (fits : KeyIdFits keyId) :
    encodeAuthorityKeyIdentifier keyId = Der.element 0x30 (Der.element 0x80 keyId) := by
  have nested : encodeAuthorityKeyIdentifier keyId =
      encodeTagged 0x30 (encodeTagged 0x80 keyId) := rfl
  rw [nested, encodeTagged_eq fits.content, encodeTagged_eq fits.identifier]

/-- The content of the object identifier of an OCSP responder. -/
def ocspMethod : Bytes := [0x2B, 0x06, 0x01, 0x05, 0x05, 0x07, 0x30, 0x01]

theorem oidTlv_eq : oidTlv = Der.element 0x06 ocspMethod := by decide

/-- The access description of a URL. -/
theorem encodeSequence_description {url : String} (fits : UrlFits url) :
    encodeSequence [oidTlv, encodeTagged 0x86 (urlBytes url)] =
      Der.element 0x30 (Der.element 0x06 ocspMethod ++ Der.element 0x86 (urlBytes url)) := by
  rw [encodeSequence, List.flatten_cons, List.flatten_singleton, encodeTagged_eq fits.description,
    oidTlv_eq, encodeTagged_eq fits.location]

theorem encodeAiaOcsp_eq {url : String} (fits : UrlFits url) :
    encodeAiaOcsp url = Der.element 0x30 (Der.element 0x30
      (Der.element 0x06 ocspMethod ++ Der.element 0x86 (urlBytes url))) := by
  rw [encodeAiaOcsp, encodeSequence, List.flatten_singleton, encodeTagged_eq fits.descriptions,
    encodeSequence_description fits]

/-! ## Reading the extensions back -/

/-- A length in the range of `encode_der_length` is one that a reader takes. -/
theorem lt_of_le_range {length : Nat} (bounded : length ≤ 65535) : length < 256 ^ 126 :=
  Nat.lt_of_le_of_lt bounded (by decide)

theorem readAuthorityKeyIdentifier_encode {keyId : Bytes} (fits : KeyIdFits keyId) :
    readAuthorityKeyIdentifier (encodeAuthorityKeyIdentifier keyId) = some keyId := by
  have content := fits.content
  rw [encodeTagged_eq fits.identifier] at content
  have outer := Der.readWhole_eq_some_iff.mpr
    ⟨encodeAuthorityKeyIdentifier_eq fits, lt_of_le_range content⟩
  have inner : Der.readWhole 0x80 (Der.element 0x80 keyId) = some keyId :=
    Der.readWhole_eq_some_iff.mpr ⟨rfl, lt_of_le_range fits.identifier⟩
  simp [readAuthorityKeyIdentifier, outer, inner]

theorem readAiaOcsp_encode {url : String} (fits : UrlFits url) :
    readAiaOcsp (encodeAiaOcsp url) = some (⟨[1, 3, 6, 1, 5, 5, 7, 48, 1]⟩, urlBytes url) := by
  have descriptions := fits.descriptions
  have description := fits.description
  rw [encodeSequence_description fits] at descriptions
  rw [oidTlv_eq, encodeTagged_eq fits.location] at description
  have outer := Der.readWhole_eq_some_iff.mpr
    ⟨encodeAiaOcsp_eq fits, lt_of_le_range descriptions⟩
  have inner := Der.readWhole_eq_some_iff.mpr
    ⟨(rfl : Der.element 0x30 (Der.element 0x06 ocspMethod ++ Der.element 0x86 (urlBytes url)) = _),
      lt_of_le_range description⟩
  have method : Der.readElement 0x06
      (Der.element 0x06 ocspMethod ++ Der.element 0x86 (urlBytes url)) =
        some (ocspMethod, Der.element 0x86 (urlBytes url)) :=
    Der.readElement_eq_some_iff.mpr ⟨rfl, by decide⟩
  have arcs : Der.readObjectIdentifier ocspMethod = some [1, 3, 6, 1, 5, 5, 7, 48, 1] := by decide
  have location : Der.readWhole 0x86 (Der.element 0x86 (urlBytes url)) = some (urlBytes url) :=
    Der.readWhole_eq_some_iff.mpr ⟨rfl, lt_of_le_range fits.location⟩
  simp [readAiaOcsp, outer, inner, method, arcs, location]

theorem urlBytes_injective {url other : String} (same : urlBytes url = urlBytes other) :
    url = other := by
  apply String.toByteArray_inj.mp
  apply ByteArray.ext
  exact Array.toList_inj.mp same

/-- Within the range of `encode_der_length` both extensions are strict DER: they are the nested
elements with their shortest lengths, a strict reader reads the key identifier or the responder and
its URL and nothing else, and different inputs have different encodings. -/
theorem extensions_strict :
    (∀ keyId, KeyIdFits keyId →
        encodeAuthorityKeyIdentifier keyId = Der.element 0x30 (Der.element 0x80 keyId) ∧
          readAuthorityKeyIdentifier (encodeAuthorityKeyIdentifier keyId) = some keyId) ∧
      (∀ url, UrlFits url →
        encodeAiaOcsp url = Der.element 0x30 (Der.element 0x30
            (Der.element 0x06 ocspMethod ++ Der.element 0x86 (urlBytes url))) ∧
          readAiaOcsp (encodeAiaOcsp url) =
            some (⟨[1, 3, 6, 1, 5, 5, 7, 48, 1]⟩, urlBytes url)) ∧
      (∀ keyId other, KeyIdFits keyId → KeyIdFits other →
        encodeAuthorityKeyIdentifier keyId = encodeAuthorityKeyIdentifier other →
          keyId = other) ∧
      ∀ url other, UrlFits url → UrlFits other → encodeAiaOcsp url = encodeAiaOcsp other →
        url = other := by
  refine ⟨fun keyId fits => ⟨encodeAuthorityKeyIdentifier_eq fits,
      readAuthorityKeyIdentifier_encode fits⟩,
    fun url fits => ⟨encodeAiaOcsp_eq fits, readAiaOcsp_encode fits⟩, ?_, ?_⟩
  · intro keyId other fits otherFits same
    have read := readAuthorityKeyIdentifier_encode fits
    rw [same, readAuthorityKeyIdentifier_encode otherFits] at read
    exact (Option.some.inj read).symm
  · intro url other fits otherFits same
    have read := readAiaOcsp_encode fits
    rw [same, readAiaOcsp_encode otherFits] at read
    exact (urlBytes_injective (Prod.mk.inj (Option.some.inj read)).2).symm

/-- A key identifier of 200 bytes, whose element has a longer header than one of 100 bytes. -/
theorem extensions_strict_longForm :
    KeyIdFits (List.replicate 200 7) ∧
      encodeAuthorityKeyIdentifier (List.replicate 200 7) =
        [0x30, 0x81, 0xCB, 0x80, 0x81, 0xC8] ++ List.replicate 200 7 ∧
      readAuthorityKeyIdentifier (encodeAuthorityKeyIdentifier (List.replicate 200 7)) =
        some (List.replicate 200 7) ∧
      readAiaOcsp (encodeAiaOcsp "http://o") =
        some (⟨[1, 3, 6, 1, 5, 5, 7, 48, 1]⟩, urlBytes "http://o") := by
  have fits : KeyIdFits (List.replicate 200 7) := ⟨by decide +kernel, by decide +kernel⟩
  have located : UrlFits "http://o" := ⟨by decide +kernel, by decide +kernel, by decide +kernel⟩
  exact ⟨fits, by decide +kernel, (extensions_strict.1 _ fits).2,
    (extensions_strict.2.1 _ located).2⟩

end OxiTls.Rcgen
