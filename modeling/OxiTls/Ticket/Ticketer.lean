import OxiTls.Library.Execution
import OxiTls.Library.IdealAead
import OxiTls.Rustls

/-!
# Session tickets

`ticketer.rs`: an `OxiTicketer` seals session state with AES-256-GCM under its current key and opens
tickets with the current or the previous key.  A ticket is a version byte, a nonce, the ciphertext
and the tag.  The cipher is ideal: it opens what the ticketer has sealed.
-/

namespace OxiTls

/-- One key slot. -/
structure TicketKey where
  bytes : Vector UInt8 32
  deriving DecidableEq

/-- `VERSION_BYTE`. -/
def ticketVersion : UInt8 := 0x01

/-- `AAD`, the bytes of `oxitls-ticket-v1`. -/
def ticketAad : Bytes :=
  [0x6f, 0x78, 0x69, 0x74, 0x6c, 0x73, 0x2d, 0x74, 0x69, 0x63, 0x6b, 0x65, 0x74, 0x2d, 0x76, 0x31]

/-- `TicketKey::generate`, given what the operating system's generator answers. -/
def TicketKey.generate (entropy : Except String (Vector UInt8 32)) : Except TlsError TicketKey := do
  let bytes ← entropy.mapError .other
  pure ⟨bytes⟩

/-- `encrypt_with_key`, given the cipher and the nonce the generator answers.  The ticket comes with
the sealing it was made from. -/
def encryptWithKey (cipher : Aead TicketKey 16) (key : TicketKey)
    (entropy : Except String (Vector UInt8 12)) (plain : Bytes) :
    Option (Bytes × Sealing TicketKey) := do
  let nonce ← entropy.toOption
  let (ciphertext, tag) ← cipher.encrypt key nonce.toList ticketAad plain
  some ([ticketVersion] ++ nonce.toList ++ ciphertext ++ tag,
    ⟨key, nonce.toList, ticketAad, plain, ciphertext, tag⟩)

/-- `decrypt_with_key`, given the sealings made so far. -/
def decryptWithKey (sealed : List (Sealing TicketKey)) (key : TicketKey) (ticket : Bytes) :
    Option Bytes :=
  if ticket.length < 29 then none
  else if ticket.getD 0 0 ≠ ticketVersion then none
  else
    let nonce := ticket.extract 1 13
    let ctAndTag := ticket.drop 13
    if ctAndTag.length < 16 then none
    else
      let ptLen := ctAndTag.length - 16
      Sealing.openSealed sealed key nonce ticketAad (ctAndTag.take ptLen) (ctAndTag.drop ptLen)

/-- `OxiTicketer`: the state under its lock and the lifetime it advertises. -/
structure OxiTicketer where
  current : TicketKey
  previous : Option TicketKey
  lifetimeSecs : Nat
  deriving DecidableEq

namespace OxiTicketer

/-- `OxiTicketer::new_with_lifetime`. -/
def newWithLifetime (entropy : Except String (Vector UInt8 32)) (lifetimeSecs : Nat) :
    Except TlsError OxiTicketer := do
  let current ← TicketKey.generate entropy
  pure { current, previous := none, lifetimeSecs }

/-- `OxiTicketer::new`, with a lifetime of six hours. -/
def new (entropy : Except String (Vector UInt8 32)) : Except TlsError OxiTicketer :=
  newWithLifetime entropy (6 * 60 * 60)

variable (ticketer : OxiTicketer)

/-- `OxiTicketer::rotate`: its result and the ticketer afterwards. -/
def rotate (entropy : Except String (Vector UInt8 32)) : Except TlsError Unit × OxiTicketer :=
  match TicketKey.generate entropy with
  | .error error => (.error error, ticketer)
  | .ok newCurrent =>
      (.ok (), { ticketer with current := newCurrent, previous := some ticketer.current })

/-- `decrypt`: the current key first, then the previous one. -/
def decrypt (sealed : List (Sealing TicketKey)) (ticket : Bytes) : Option Bytes :=
  match decryptWithKey sealed ticketer.current ticket with
  | some plain => some plain
  | none =>
      match ticketer.previous with
      | some previous => decryptWithKey sealed previous ticket
      | none => none

end OxiTicketer

/-! ## The wire format -/

/-- A sealing whose ticket can be taken apart again. -/
structure TicketShaped (sealing : Sealing TicketKey) : Prop where
  aad : sealing.aad = ticketAad
  length_nonce : sealing.nonce.length = 12
  length_tag : sealing.tag.length = 16

/-- The ticket of a sealing. -/
def wire (sealing : Sealing TicketKey) : Bytes :=
  [ticketVersion] ++ sealing.nonce ++ sealing.ciphertext ++ sealing.tag

/-- Encryption returns the ticket of a well-shaped sealing under the given key. -/
theorem encryptWithKey_eq_some {cipher : Aead TicketKey 16} {key : TicketKey}
    {entropy : Except String (Vector UInt8 12)} {plain ticket : Bytes}
    {sealing : Sealing TicketKey}
    (encrypted : encryptWithKey cipher key entropy plain = some (ticket, sealing)) :
    ticket = wire sealing ∧ TicketShaped sealing ∧ sealing.key = key ∧
      sealing.plaintext = plain := by
  simp only [encryptWithKey, Option.bind_eq_bind, Option.bind_eq_some_iff, Option.some.injEq,
    Prod.mk.injEq] at encrypted
  obtain ⟨nonce, _, ⟨ciphertext, tag⟩, made, rfl, rfl⟩ := encrypted
  exact ⟨rfl, ⟨rfl, by simp, cipher.length_tag made⟩, rfl, rfl⟩

/-- Decryption of a ticket looks up exactly the parts it was made from. -/
theorem decryptWithKey_wire {sealing : Sealing TicketKey} (shaped : TicketShaped sealing)
    (sealed : List (Sealing TicketKey)) (key : TicketKey) :
    decryptWithKey sealed key (wire sealing) =
      Sealing.openSealed sealed key sealing.nonce sealing.aad sealing.ciphertext sealing.tag := by
  obtain ⟨aad, length_nonce, length_tag⟩ := shaped
  have length_wire : (wire sealing).length = 29 + sealing.ciphertext.length := by
    simp [wire, length_nonce, length_tag]
    omega
  have version_eq : (wire sealing).getD 0 0 = ticketVersion := rfl
  have nonce_eq : (wire sealing).extract 1 13 = sealing.nonce := by
    simp [wire, List.extract_eq_take_drop, length_nonce]
  have rest_eq : (wire sealing).drop 13 = sealing.ciphertext ++ sealing.tag := by
    simp [wire, length_nonce]
  have long : ¬ 29 + sealing.ciphertext.length < 29 := by omega
  have tagged : ¬ sealing.ciphertext.length + 16 < 16 := by omega
  simp only [decryptWithKey, length_wire, long, version_eq, nonce_eq, rest_eq, aad,
    List.length_append, length_tag, tagged, ne_eq, not_true_eq_false, if_false,
    Nat.add_sub_cancel, List.take_left, List.drop_left]

/-- A ticket that decrypts is the ticket of a sealing under that key. -/
theorem mem_of_decryptWithKey {sealed : List (Sealing TicketKey)} {key : TicketKey}
    {ticket plain : Bytes} (decrypted : decryptWithKey sealed key ticket = some plain) :
    ∃ sealing ∈ sealed, sealing.key = key ∧ wire sealing = ticket ∧ sealing.plaintext = plain := by
  simp only [decryptWithKey] at decrypted
  split_ifs at decrypted with short version tagless
  refine ⟨_, Sealing.mem_of_openSealed decrypted, rfl, ?_, rfl⟩
  have version : ticket.getD 0 0 = ticketVersion := by simpa using version
  have head_eq : ticket.take 1 = [ticketVersion] := by
    cases ticket with
    | nil => simp at short
    | cons byte bytes => simpa using version
  calc
    wire _ = ticket.take 1 ++ (ticket.drop 1).take 12 ++ ticket.drop 13 := by
      rw [wire, head_eq, List.append_assoc, List.take_append_drop, List.extract_eq_take_drop]
    _ = ticket := by
      rw [List.append_assoc, show ticket.drop 13 = (ticket.drop 1).drop 12 by simp,
        List.take_append_drop, List.take_append_drop]

/-- Strings that are too short or have another version byte never decrypt. -/
theorem decryptWithKey_eq_none {sealed : List (Sealing TicketKey)} {key : TicketKey}
    {ticket : Bytes} (malformed : ticket.length < 29 ∨ ticket.head? ≠ some ticketVersion) :
    decryptWithKey sealed key ticket = none := by
  cases ticket with
  | nil => simp [decryptWithKey]
  | cons byte bytes =>
      rcases malformed with short | version
      · simp only [decryptWithKey, short, if_true]
      · have different : byte ≠ ticketVersion := by simpa using version
        simp [decryptWithKey, different]

end OxiTls
