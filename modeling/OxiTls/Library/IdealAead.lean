import Mathlib.Data.List.Basic

/-!
# Ideal authenticated encryption

An ideal authenticated cipher opens exactly what has been sealed: opening looks the ciphertext up
among the sealings made so far.  A list of sealings is committing when a ciphertext determines the
key and the plaintext it was sealed with; this is what makes opening a correct inverse of sealing
and makes it fail under every other key.
-/

/-- One use of a cipher. -/
structure Sealing (κ : Type*) where
  key : κ
  nonce : List UInt8
  aad : List UInt8
  plaintext : List UInt8
  ciphertext : List UInt8
  tag : List UInt8
  deriving DecidableEq, Repr

/-- The sealing half of a length-preserving cipher with detached tags.  It may refuse an input. -/
structure Aead (κ : Type*) (tagLength : Nat) where
  encrypt : κ → (nonce aad plaintext : List UInt8) → Option (List UInt8 × List UInt8)
  length_ciphertext : ∀ {key nonce aad plaintext ciphertext tag},
    encrypt key nonce aad plaintext = some (ciphertext, tag) →
      ciphertext.length = plaintext.length
  length_tag : ∀ {key nonce aad plaintext ciphertext tag},
    encrypt key nonce aad plaintext = some (ciphertext, tag) → tag.length = tagLength

namespace Sealing

variable {κ : Type*}

/-- The two sealings have the same public part. -/
def SameCiphertext (left right : Sealing κ) : Prop :=
  left.nonce = right.nonce ∧ left.aad = right.aad ∧ left.ciphertext = right.ciphertext ∧
    left.tag = right.tag

/-- A ciphertext determines the key and the plaintext it was sealed with. -/
def Committing (sealed : List (Sealing κ)) : Prop :=
  ∀ left ∈ sealed, ∀ right ∈ sealed, left.SameCiphertext right →
    left.key = right.key ∧ left.plaintext = right.plaintext

theorem committing_singleton (sealing : Sealing κ) : Committing [sealing] := by
  intro left leftMember right rightMember _
  obtain rfl := List.mem_singleton.mp leftMember
  obtain rfl := List.mem_singleton.mp rightMember
  exact ⟨rfl, rfl⟩

theorem Committing.of_append {sealed later : List (Sealing κ)}
    (committing : Committing (sealed ++ later)) : Committing sealed :=
  fun left leftMember right rightMember =>
    committing left (List.mem_append_left _ leftMember) right (List.mem_append_left _ rightMember)

variable [DecidableEq κ]

/-- Open a ciphertext by looking it up among the sealings. -/
def openSealed (sealed : List (Sealing κ)) (key : κ) (nonce aad ciphertext tag : List UInt8) :
    Option (List UInt8) :=
  (sealed.find? fun s => s.key = key ∧ s.nonce = nonce ∧ s.aad = aad ∧
    s.ciphertext = ciphertext ∧ s.tag = tag).map plaintext

/-- Only what has been sealed opens. -/
theorem mem_of_openSealed {sealed : List (Sealing κ)} {key : κ}
    {nonce aad ciphertext tag opened : List UInt8}
    (succeeded : openSealed sealed key nonce aad ciphertext tag = some opened) :
    (⟨key, nonce, aad, opened, ciphertext, tag⟩ : Sealing κ) ∈ sealed := by
  obtain ⟨sealing, found, rfl⟩ := Option.map_eq_some_iff.mp succeeded
  have matched := List.find?_some found
  simp only [decide_eq_true_eq] at matched
  obtain ⟨rfl, rfl, rfl, rfl, rfl⟩ := matched
  exact List.mem_of_find?_eq_some found

/-- What has been sealed opens to its plaintext under its key. -/
theorem openSealed_of_mem {sealed : List (Sealing κ)} (committing : Committing sealed)
    {sealing : Sealing κ} (member : sealing ∈ sealed) :
    openSealed sealed sealing.key sealing.nonce sealing.aad sealing.ciphertext sealing.tag =
      some sealing.plaintext := by
  cases opened : openSealed sealed sealing.key sealing.nonce sealing.aad sealing.ciphertext
      sealing.tag with
  | none =>
      have absent := List.find?_eq_none.mp (Option.map_eq_none_iff.mp opened) sealing member
      simp at absent
  | some plaintext =>
      have sealed' := mem_of_openSealed opened
      exact congrArg some (committing _ sealed' sealing member ⟨rfl, rfl, rfl, rfl⟩).2

/-- What has been sealed does not open under another key. -/
theorem openSealed_of_key_ne {sealed : List (Sealing κ)} (committing : Committing sealed)
    {sealing : Sealing κ} (member : sealing ∈ sealed) {key : κ} (different : key ≠ sealing.key) :
    openSealed sealed key sealing.nonce sealing.aad sealing.ciphertext sealing.tag = none := by
  cases opened : openSealed sealed key sealing.nonce sealing.aad sealing.ciphertext
      sealing.tag with
  | none => rfl
  | some plaintext =>
      have sealed' := mem_of_openSealed opened
      exact absurd (committing _ sealed' sealing member ⟨rfl, rfl, rfl, rfl⟩).1 different

/-- What has been sealed opens exactly under its key. -/
theorem openSealed_eq {sealed : List (Sealing κ)} (committing : Committing sealed)
    {sealing : Sealing κ} (member : sealing ∈ sealed) (key : κ) :
    openSealed sealed key sealing.nonce sealing.aad sealing.ciphertext sealing.tag =
      if key = sealing.key then some sealing.plaintext else none := by
  split_ifs with same
  · rw [same]
    exact openSealed_of_mem committing member
  · exact openSealed_of_key_ne committing member same

end Sealing
