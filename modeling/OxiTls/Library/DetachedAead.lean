import Mathlib.Tactic.Common

/-!
# Authenticated ciphers with detached tags

A cipher turns a message into a ciphertext of the same length and a tag, and gives the message back
from these.  The buffer operations append the tag to the ciphertext and split it off again.
-/

/-- A cipher with detached tags.  Messages and associated data up to a limit can be encrypted. -/
structure DetachedAead where
  keySize : Nat
  nonceSize : Nat
  tagSize : Nat
  limit : Nat
  encrypt : (key nonce aad message : List UInt8) → Option (List UInt8 × List UInt8)
  decrypt : (key nonce aad ciphertext tag : List UInt8) → Option (List UInt8)
  encrypts : ∀ {key nonce aad message}, key.length = keySize → nonce.length = nonceSize →
    aad.length ≤ limit → message.length ≤ limit →
      ∃ ciphertext tag, encrypt key nonce aad message = some (ciphertext, tag)
  length_ciphertext : ∀ {key nonce aad message ciphertext tag},
    encrypt key nonce aad message = some (ciphertext, tag) → ciphertext.length = message.length
  length_tag : ∀ {key nonce aad message ciphertext tag},
    encrypt key nonce aad message = some (ciphertext, tag) → tag.length = tagSize
  decrypts : ∀ {key nonce aad message ciphertext tag},
    encrypt key nonce aad message = some (ciphertext, tag) →
      decrypt key nonce aad ciphertext tag = some message

namespace DetachedAead

variable (cipher : DetachedAead)

/-- Only encryptions are decrypted: the tag is checked against the ciphertext and the associated
data. -/
def Tidy : Prop :=
  ∀ {key nonce aad message ciphertext tag},
    cipher.decrypt key nonce aad ciphertext tag = some message →
      cipher.encrypt key nonce aad message = some (ciphertext, tag)

/-- Decryption overwrites the ciphertext: it keeps its length. -/
def InPlace : Prop :=
  ∀ {key nonce aad message ciphertext tag},
    cipher.decrypt key nonce aad ciphertext tag = some message →
      message.length = ciphertext.length

/-- Encrypt a buffer and append the tag. -/
def encryptInPlace (key nonce aad buffer : List UInt8) : Option (List UInt8) := do
  let (ciphertext, tag) ← cipher.encrypt key nonce aad buffer
  pure (ciphertext ++ tag)

/-- Split the tag off a buffer and decrypt the rest. -/
def decryptInPlace (key nonce aad buffer : List UInt8) : Option (List UInt8) :=
  if buffer.length < cipher.tagSize then none
  else
    let tagPos := buffer.length - cipher.tagSize
    cipher.decrypt key nonce aad (buffer.take tagPos) (buffer.drop tagPos)

variable {cipher} {key nonce aad buffer : List UInt8}

theorem encryptInPlace_eq_some {sealed : List UInt8}
    (encrypted : cipher.encryptInPlace key nonce aad buffer = some sealed) :
    ∃ ciphertext tag, cipher.encrypt key nonce aad buffer = some (ciphertext, tag) ∧
      sealed = ciphertext ++ tag := by
  simp only [encryptInPlace, Option.bind_eq_bind, Option.bind_eq_some_iff, Option.pure_def,
    Option.some.injEq] at encrypted
  obtain ⟨⟨ciphertext, tag⟩, encrypted, rfl⟩ := encrypted
  exact ⟨ciphertext, tag, encrypted, rfl⟩

/-- Ciphertext and tag are found again at the length of the message. -/
theorem take_drop_ciphertext {ciphertext tag message : List UInt8}
    (encrypted : cipher.encrypt key nonce aad message = some (ciphertext, tag)) :
    (ciphertext ++ tag).length - cipher.tagSize = message.length ∧
      (ciphertext ++ tag).take message.length = ciphertext ∧
      (ciphertext ++ tag).drop message.length = tag := by
  have length := cipher.length_ciphertext encrypted
  have tagLength := cipher.length_tag encrypted
  refine ⟨?_, List.take_left' length, List.drop_left' length⟩
  rw [List.length_append, length, tagLength, Nat.add_sub_cancel]

theorem length_encryptInPlace {sealed : List UInt8}
    (encrypted : cipher.encryptInPlace key nonce aad buffer = some sealed) :
    sealed.length = buffer.length + cipher.tagSize := by
  obtain ⟨ciphertext, tag, detached, rfl⟩ := encryptInPlace_eq_some encrypted
  rw [List.length_append, cipher.length_ciphertext detached, cipher.length_tag detached]

/-- Decrypting a buffer inverts encrypting it. -/
theorem decryptInPlace_encryptInPlace {sealed : List UInt8}
    (encrypted : cipher.encryptInPlace key nonce aad buffer = some sealed) :
    cipher.decryptInPlace key nonce aad sealed = some buffer := by
  have longEnough : ¬ sealed.length < cipher.tagSize := by
    rw [length_encryptInPlace encrypted]
    omega
  obtain ⟨ciphertext, tag, detached, rfl⟩ := encryptInPlace_eq_some encrypted
  obtain ⟨tagPos, taken, dropped⟩ := take_drop_ciphertext detached
  simp only [decryptInPlace, if_neg longEnough, tagPos, taken, dropped]
  exact cipher.decrypts detached

/-- What a tidy cipher decrypts is an encrypted buffer. -/
theorem encryptInPlace_of_decryptInPlace (tidy : cipher.Tidy) {message : List UInt8}
    (decrypted : cipher.decryptInPlace key nonce aad buffer = some message) :
    cipher.encryptInPlace key nonce aad message = some buffer := by
  unfold decryptInPlace at decrypted
  split_ifs at decrypted
  rw [encryptInPlace, tidy decrypted]
  exact congrArg some (List.take_append_drop _ buffer)

theorem exists_encryptInPlace (keyFits : key.length = cipher.keySize)
    (nonceFits : nonce.length = cipher.nonceSize) (aadFits : aad.length ≤ cipher.limit)
    (bufferFits : buffer.length ≤ cipher.limit) :
    ∃ sealed, cipher.encryptInPlace key nonce aad buffer = some sealed := by
  obtain ⟨ciphertext, tag, encrypted⟩ := cipher.encrypts keyFits nonceFits aadFits bufferFits
  exact ⟨ciphertext ++ tag, by rw [encryptInPlace, encrypted]; rfl⟩

end DetachedAead
