import OxiTls.Library.KeySlots
import OxiTls.Ticket.Ticketer

/-!
# Key rotation

Runs of an `OxiTicketer` with its sealings, its keys and the tickets it has issued.  The age of a
ticket is the number of successful rotations since it was issued; it is the position of its key in
the list of generated keys, and the two key slots are the first two positions of that list.
-/

namespace OxiTls

/-- A ticket that `encrypt` returned, with its sealing, the number of keys that had been generated
and the time. -/
structure Issuance where
  ticket : Bytes
  sealing : Sealing TicketKey
  generation : Nat
  issuedAt : Nat
  deriving DecidableEq

/-- A ticketer in operation: the clock, every key it has generated (newest first) and every ticket
it has issued. -/
structure Service where
  clock : Nat
  ticketer : OxiTicketer
  generated : List TicketKey
  issued : List Issuance
  deriving DecidableEq

/-- What happens to a ticketer, with the answers of the operating system's generator. -/
inductive TicketEvent
  | tick (elapsed : Nat)
  | encrypt (entropy : Except String (Vector UInt8 12)) (plain : Bytes)
  | decrypt (ticket : Bytes)
  | rotate (entropy : Except String (Vector UInt8 32))

/-- Whether an event is a successful rotation. -/
def TicketEvent.promotes : TicketEvent → Bool
  | .rotate (.ok _) => true
  | _ => false

/-- The number of successful rotations among some events. -/
def rotations (events : List TicketEvent) : Nat := events.countP TicketEvent.promotes

namespace Service

/-- A new ticketer. -/
def start (key : TicketKey) (lifetimeSecs clock : Nat) : Service :=
  ⟨clock, ⟨key, none, lifetimeSecs⟩, [key], []⟩

variable (cipher : Aead TicketKey 16) (state : Service)

/-- The sealings made so far. -/
def sealed : List (Sealing TicketKey) := state.issued.map Issuance.sealing

/-- The number of successful rotations since a ticket was issued. -/
def age (issuance : Issuance) : Nat := state.generated.length - issuance.generation

/-- `encrypt`: its answer and the service afterwards. -/
def encrypt (entropy : Except String (Vector UInt8 12)) (plain : Bytes) : Option Bytes × Service :=
  match encryptWithKey cipher state.ticketer.current entropy plain with
  | none => (none, state)
  | some (ticket, sealing) =>
      let issuance : Issuance := ⟨ticket, sealing, state.generated.length, state.clock⟩
      (some ticket, { state with issued := state.issued ++ [issuance] })

def decrypt (ticket : Bytes) : Option Bytes := state.ticketer.decrypt state.sealed ticket

/-- `rotate`: its result and the service afterwards. -/
def rotate (entropy : Except String (Vector UInt8 32)) : Except TlsError Unit × Service :=
  match state.ticketer.rotate entropy with
  | (.error error, ticketer) => (.error error, { state with ticketer })
  | (.ok (), ticketer) =>
      (.ok (), { state with ticketer, generated := ticketer.current :: state.generated })

/-- One event. -/
def step : TicketEvent → Option Service
  | .tick elapsed => some { state with clock := state.clock + elapsed }
  | .encrypt entropy plain => some (state.encrypt cipher entropy plain).2
  | .decrypt _ => some state
  | .rotate entropy => some (state.rotate entropy).2

variable {cipher state}

/-! ## What one event does -/

/-- A failed rotation changes nothing. -/
theorem rotate_error (message : String) :
    state.rotate (.error message) = (.error (.other message), state) := rfl

/-- An event passes time, issues a ticket, promotes a key, or changes nothing. -/
theorem step_eq_some {next : Service} {event : TicketEvent}
    (stepped : state.step cipher event = some next) :
    (∃ elapsed, event = .tick elapsed ∧ next = { state with clock := state.clock + elapsed }) ∨
      (∃ entropy plain ticket sealing, event = .encrypt entropy plain ∧
        encryptWithKey cipher state.ticketer.current entropy plain = some (ticket, sealing) ∧
        next = { state with issued :=
          state.issued ++ [⟨ticket, sealing, state.generated.length, state.clock⟩] }) ∨
      (∃ bytes, event = .rotate (.ok bytes) ∧ next =
        { state with
          ticketer := ⟨⟨bytes⟩, some state.ticketer.current, state.ticketer.lifetimeSecs⟩
          generated := ⟨bytes⟩ :: state.generated }) ∨
      event.promotes = false ∧ next = state := by
  cases event with
  | tick elapsed => exact .inl ⟨elapsed, rfl, (Option.some.inj stepped).symm⟩
  | encrypt entropy plain =>
      simp only [step, Service.encrypt, Option.some.injEq] at stepped
      cases made : encryptWithKey cipher state.ticketer.current entropy plain with
      | none =>
          simp only [made] at stepped
          exact .inr (.inr (.inr ⟨rfl, stepped.symm⟩))
      | some pair =>
          obtain ⟨ticket, sealing⟩ := pair
          simp only [made] at stepped
          exact .inr (.inl ⟨entropy, plain, ticket, sealing, rfl, made, stepped.symm⟩)
  | decrypt ticket => exact .inr (.inr (.inr ⟨rfl, (Option.some.inj stepped).symm⟩))
  | rotate entropy =>
      cases entropy with
      | error message => exact .inr (.inr (.inr ⟨rfl, (Option.some.inj stepped).symm⟩))
      | ok bytes => exact .inr (.inr (.inl ⟨bytes, rfl, (Option.some.inj stepped).symm⟩))

/-! ## The invariant -/

/-- A ticket is the ticket of its sealing, and its key is at the position of its age. -/
structure Genuine (state : Service) (issuance : Issuance) : Prop where
  ticket : issuance.ticket = wire issuance.sealing
  shaped : TicketShaped issuance.sealing
  generation : issuance.generation ≤ state.generated.length
  key : state.generated[state.age issuance]? = some issuance.sealing.key
  issuedAt : issuance.issuedAt ≤ state.clock

/-- The key slots are the two newest keys, and every issued ticket is genuine. -/
structure Consistent (state : Service) : Prop where
  current : state.generated[0]? = some state.ticketer.current
  previous : state.generated[1]? = state.ticketer.previous
  genuine : ∀ issuance ∈ state.issued, state.Genuine issuance

theorem consistent_start (key : TicketKey) (lifetimeSecs clock : Nat) :
    (start key lifetimeSecs clock).Consistent where
  current := rfl
  previous := rfl
  genuine := by simp [start]

/-- Promoting a key ages every ticket by one. -/
theorem Genuine.promote {issuance : Issuance} (genuine : state.Genuine issuance)
    (ticketer : OxiTicketer) (key : TicketKey) :
    Genuine { state with ticketer, generated := key :: state.generated } issuance where
  ticket := genuine.ticket
  shaped := genuine.shaped
  generation := Nat.le_succ_of_le genuine.generation
  key := by
    have older : (key :: state.generated).length - issuance.generation =
        state.age issuance + 1 := by
      have bound := genuine.generation
      simp only [List.length_cons, age]
      omega
    simp only [age, older, List.getElem?_cons_succ]
    exact genuine.key
  issuedAt := genuine.issuedAt

theorem Consistent.elapse (consistent : state.Consistent) (elapsed : Nat) :
    Consistent { state with clock := state.clock + elapsed } where
  current := consistent.current
  previous := consistent.previous
  genuine issuance member := by
    have genuine := consistent.genuine issuance member
    exact ⟨genuine.ticket, genuine.shaped, genuine.generation, genuine.key,
      Nat.le_trans genuine.issuedAt (Nat.le_add_right _ _)⟩

theorem Consistent.issue (consistent : state.Consistent)
    {entropy : Except String (Vector UInt8 12)} {plain ticket : Bytes} {sealing : Sealing TicketKey}
    (made : encryptWithKey cipher state.ticketer.current entropy plain = some (ticket, sealing)) :
    Consistent { state with issued :=
      state.issued ++ [⟨ticket, sealing, state.generated.length, state.clock⟩] } where
  current := consistent.current
  previous := consistent.previous
  genuine issuance member := by
    rcases List.mem_append.mp member with earlier | last
    · have genuine := consistent.genuine issuance earlier
      exact ⟨genuine.ticket, genuine.shaped, genuine.generation, genuine.key, genuine.issuedAt⟩
    · obtain rfl := List.mem_singleton.mp last
      obtain ⟨ticket_eq, shaped, key_eq, _⟩ := encryptWithKey_eq_some made
      refine ⟨ticket_eq, shaped, Nat.le_refl _, ?_, Nat.le_refl _⟩
      simpa [age, key_eq] using consistent.current

theorem Consistent.promote (consistent : state.Consistent) (bytes : Vector UInt8 32) :
    (state.rotate (.ok bytes)).2.Consistent where
  current := rfl
  previous := consistent.current
  genuine issuance member := (consistent.genuine issuance member).promote _ _

theorem Consistent.step {next : Service} {event : TicketEvent} (consistent : state.Consistent)
    (stepped : state.step cipher event = some next) : next.Consistent := by
  rcases step_eq_some stepped with
    ⟨elapsed, _, rfl⟩ | ⟨_, _, ticket, sealing, _, made, rfl⟩ | ⟨bytes, _, rfl⟩ | ⟨_, rfl⟩
  · exact consistent.elapse elapsed
  · exact consistent.issue made
  · exact consistent.promote bytes
  · exact consistent

/-- With distinct keys, the position of a ticket's key is its age. -/
theorem Genuine.age_eq {issuance : Issuance} (genuine : state.Genuine issuance)
    (distinct : state.generated.Nodup) {slot : Nat}
    (held : state.generated[slot]? = some issuance.sealing.key) : state.age issuance = slot := by
  obtain ⟨bound, _⟩ := List.getElem?_eq_some_iff.mp genuine.key
  exact (List.getElem?_inj bound distinct).mp (genuine.key.trans held.symm)

/-! ## Decryption in a consistent state -/

/-- `decrypt` looks the ticket up in the two slots. -/
theorem decrypt_eq_lookup (ticket : Bytes) :
    state.decrypt ticket = KeySlots.lookup (decryptWithKey state.sealed · ticket)
      state.ticketer.current state.ticketer.previous := by
  simp only [decrypt, OxiTicketer.decrypt, KeySlots.lookup]
  cases decryptWithKey state.sealed state.ticketer.current ticket with
  | some plain => rfl
  | none => cases state.ticketer.previous <;> rfl

theorem Consistent.newest (consistent : state.Consistent) :
    KeySlots.Newest state.generated state.ticketer.current state.ticketer.previous :=
  ⟨consistent.current, consistent.previous⟩

section Decryption

variable (consistent : state.Consistent) (committing : Sealing.Committing state.sealed)
include consistent committing

/-- A slot opens an issued ticket exactly when it holds the ticket's key. -/
theorem Consistent.decryptWithKey_eq {issuance : Issuance} (member : issuance ∈ state.issued)
    (key : TicketKey) :
    decryptWithKey state.sealed key issuance.ticket =
      if key = issuance.sealing.key then some issuance.sealing.plaintext else none := by
  have genuine := consistent.genuine issuance member
  have sealed : issuance.sealing ∈ state.sealed := List.mem_map_of_mem member
  rw [genuine.ticket, decryptWithKey_wire genuine.shaped, Sealing.openSealed_eq committing sealed]

/-- An issued ticket decrypts while its age is at most one. -/
theorem Consistent.decrypt_of_age_le {issuance : Issuance} (member : issuance ∈ state.issued)
    (young : state.age issuance ≤ 1) :
    state.decrypt issuance.ticket = some issuance.sealing.plaintext := by
  rw [decrypt_eq_lookup]
  exact consistent.newest.lookup_of_age_le (consistent.decryptWithKey_eq committing member)
    (consistent.genuine issuance member).key young

/-- With distinct keys, an issued ticket decrypts exactly while its age is at most one. -/
theorem Consistent.decrypt_issued (distinct : state.generated.Nodup) {issuance : Issuance}
    (member : issuance ∈ state.issued) :
    state.decrypt issuance.ticket =
      if state.age issuance ≤ 1 then some issuance.sealing.plaintext else none := by
  rw [decrypt_eq_lookup]
  exact consistent.newest.lookup_eq (consistent.decryptWithKey_eq committing member)
    (consistent.genuine issuance member).key distinct

omit committing in
/-- Whatever decrypts is a ticket issued under one of the two keys. -/
theorem Consistent.issued_of_decrypt (distinct : state.generated.Nodup) {ticket plain : Bytes}
    (decrypted : state.decrypt ticket = some plain) :
    ∃ issuance ∈ state.issued, issuance.ticket = ticket ∧
      issuance.sealing.plaintext = plain ∧ state.age issuance ≤ 1 := by
  rw [decrypt_eq_lookup] at decrypted
  obtain ⟨slot, key, young, held, opened⟩ := consistent.newest.of_lookup decrypted
  obtain ⟨sealing, sealed, rfl, wired, rfl⟩ := mem_of_decryptWithKey opened
  obtain ⟨issuance, member, rfl⟩ := List.mem_map.mp sealed
  have genuine := consistent.genuine issuance member
  have aged := genuine.age_eq distinct held
  exact ⟨issuance, member, genuine.ticket.trans wired, rfl, by omega⟩

end Decryption

/-! ## Runs -/

/-- A run adds keys in front, one for each successful rotation, and tickets at the end. -/
theorem grows_of_run {final : Service} {events : List TicketEvent}
    (executed : Execution.run (step cipher) state events = some final) :
    ∃ fresh later, final.generated = fresh ++ state.generated ∧
      fresh.length = rotations events ∧ final.issued = state.issued ++ later := by
  induction events generalizing state with
  | nil =>
      obtain rfl := Option.some.inj executed
      exact ⟨[], [], rfl, rfl, (List.append_nil _).symm⟩
  | cons event events induction =>
      obtain ⟨next, stepped, continued⟩ := Execution.run_cons_eq_some_iff.mp executed
      obtain ⟨fresh, later, generated, count, issued⟩ := induction continued
      rcases step_eq_some stepped with
        ⟨elapsed, rfl, rfl⟩ | ⟨_, _, ticket, sealing, rfl, _, rfl⟩ | ⟨bytes, rfl, rfl⟩ |
          ⟨idle, rfl⟩
      · exact ⟨fresh, later, generated, count, issued⟩
      · exact ⟨fresh, _ :: later, generated, count, by simpa using issued⟩
      · refine ⟨fresh ++ [⟨bytes⟩], later, by simpa using generated, ?_, issued⟩
        rw [List.length_append, count]
        simp [rotations, List.countP_cons, TicketEvent.promotes]
      · refine ⟨fresh, later, generated, ?_, issued⟩
        simpa [rotations, idle] using count

/-- The events issued the ticket for the plaintext, and `age` rotations succeeded afterwards. -/
def IssuedIn (cipher : Aead TicketKey 16) (first : Service) (events : List TicketEvent)
    (ticket plain : Bytes) (age : Nat) : Prop :=
  ∃ before entropy after issuing, events = before ++ .encrypt entropy plain :: after ∧
    Execution.run (step cipher) first before = some issuing ∧
    (issuing.encrypt cipher entropy plain).1 = some ticket ∧ rotations after = age

/-- An event before an issue is part of the run that leads to it. -/
theorem IssuedIn.cons {first next : Service} {event : TicketEvent} {events : List TicketEvent}
    {ticket plain : Bytes} {age : Nat} (stepped : first.step cipher event = some next)
    (issued : IssuedIn cipher next events ticket plain age) :
    IssuedIn cipher first (event :: events) ticket plain age := by
  obtain ⟨before, entropy, after, issuing, rfl, executed, answered, count⟩ := issued
  exact ⟨event :: before, entropy, after, issuing, rfl,
    Execution.run_cons_eq_some_iff.mpr ⟨next, stepped, executed⟩, answered, count⟩

/-- Every ticket in the log was there before or was issued by the events. -/
theorem issuedIn_of_mem {final : Service} {events : List TicketEvent} {issuance : Issuance}
    (executed : Execution.run (step cipher) state events = some final)
    (member : issuance ∈ final.issued) :
    issuance ∈ state.issued ∨
      IssuedIn cipher state events issuance.ticket issuance.sealing.plaintext
        (final.age issuance) := by
  induction events generalizing state with
  | nil =>
      obtain rfl := Option.some.inj executed
      exact .inl member
  | cons event events induction =>
      obtain ⟨next, stepped, continued⟩ := Execution.run_cons_eq_some_iff.mp executed
      rcases induction continued with earlier | issued
      · rcases step_eq_some stepped with
          ⟨_, rfl, rfl⟩ | ⟨entropy, plain, ticket, sealing, rfl, made, rfl⟩ | ⟨_, rfl, rfl⟩ |
            ⟨_, rfl⟩
        · exact .inl earlier
        · rcases List.mem_append.mp earlier with former | last
          · exact .inl former
          · obtain rfl := List.mem_singleton.mp last
            obtain ⟨fresh, _, generated, count, _⟩ := grows_of_run continued
            obtain ⟨_, _, _, rfl⟩ := encryptWithKey_eq_some made
            refine .inr ⟨[], entropy, events, state, rfl, rfl, ?_, ?_⟩
            · simp [encrypt, made]
            · simp [age, generated, count]
        · exact .inl earlier
        · exact .inl earlier
      · exact .inr (issued.cons stepped)

/-- What the events issued is in the log, with its age. -/
theorem mem_of_issuedIn {final : Service} {events : List TicketEvent} {ticket plain : Bytes}
    {age : Nat} (executed : Execution.run (step cipher) state events = some final)
    (issued : IssuedIn cipher state events ticket plain age) :
    ∃ issuance ∈ final.issued, issuance.ticket = ticket ∧
      issuance.sealing.plaintext = plain ∧ final.age issuance = age := by
  obtain ⟨before, entropy, after, issuing, rfl, former, answered, count⟩ := issued
  obtain ⟨middle, former', latter⟩ := Execution.run_append_eq_some_iff.mp executed
  obtain rfl := Option.some.inj (former.symm.trans former')
  obtain ⟨next, stepped, continued⟩ := Execution.run_cons_eq_some_iff.mp latter
  cases made : encryptWithKey cipher issuing.ticketer.current entropy plain with
  | none => simp [encrypt, made] at answered
  | some pair =>
      obtain ⟨ticket', sealing⟩ := pair
      simp only [encrypt, made, Option.some.injEq] at answered
      simp only [step, encrypt, made, Option.some.injEq] at stepped
      subst answered stepped
      obtain ⟨fresh, later, generated, length, log⟩ := grows_of_run continued
      obtain ⟨_, _, _, plain_eq⟩ := encryptWithKey_eq_some made
      refine ⟨⟨ticket', sealing, issuing.generated.length, issuing.clock⟩, ?_, rfl, plain_eq, ?_⟩
      · simp [log]
      · simp [Service.age, generated, length, count]

theorem consistent_of_run {key : TicketKey} {lifetimeSecs clock : Nat}
    {events : List TicketEvent} {state : Service}
    (executed : Execution.run (step cipher) (start key lifetimeSecs clock) events = some state) :
    state.Consistent :=
  Execution.invariant_of_run (fun _ _ _ consistent stepped => consistent.step stepped)
    (consistent_start key lifetimeSecs clock) executed

/-- Over every run with distinct keys and committing sealings: a ticket decrypts to its plaintext up
to and including the first rotation after it and not at all after the second; nothing else decrypts,
in particular no short string and no other version; and a failed rotation changes nothing. -/
theorem rotation_contract {key : TicketKey} {lifetimeSecs clock : Nat}
    {events : List TicketEvent} {state : Service}
    (executed : Execution.run (step cipher) (start key lifetimeSecs clock) events = some state)
    (distinct : state.generated.Nodup) (committing : Sealing.Committing state.sealed) :
    (∀ ticket plain age,
        IssuedIn cipher (start key lifetimeSecs clock) events ticket plain age →
          state.decrypt ticket = if age ≤ 1 then some plain else none) ∧
      (∀ ticket,
        (∀ plain age, IssuedIn cipher (start key lifetimeSecs clock) events ticket plain age →
          1 < age) → state.decrypt ticket = none) ∧
      (∀ ticket, ticket.length < 29 ∨ ticket.head? ≠ some ticketVersion →
        state.decrypt ticket = none) ∧
      ∀ message, state.rotate (.error message) = (.error (.other message), state) := by
  have consistent := consistent_of_run executed
  refine ⟨fun ticket plain age issued => ?_, fun ticket unissued => ?_,
    fun ticket malformed => ?_, rotate_error⟩
  · obtain ⟨issuance, member, rfl, rfl, rfl⟩ := mem_of_issuedIn executed issued
    exact consistent.decrypt_issued committing distinct member
  · cases decrypted : state.decrypt ticket with
    | none => rfl
    | some plain =>
        obtain ⟨issuance, member, rfl, _, young⟩ := consistent.issued_of_decrypt distinct decrypted
        rcases issuedIn_of_mem executed member with earlier | issued
        · simp [start] at earlier
        · have old := unissued _ _ issued
          omega
  · unfold decrypt OxiTicketer.decrypt
    simp only [decryptWithKey_eq_none malformed]
    split <;> rfl

/-- A cipher that leaves the plaintext in the clear and tags it with half of the key. -/
def plainCipher : Aead TicketKey 16 where
  encrypt key _ _ plaintext := some (plaintext, key.bytes.toList.take 16)
  length_ciphertext sealed := by
    obtain ⟨rfl, _⟩ := Prod.mk.inj (Option.some.inj sealed)
    rfl
  length_tag sealed := by
    obtain ⟨_, rfl⟩ := Prod.mk.inj (Option.some.inj sealed)
    simp

/-- A key of one repeated byte. -/
def uniformKey (byte : UInt8) : TicketKey := ⟨Vector.replicate 32 byte⟩

/-- The ticket that `plainCipher` makes of the byte 5 under the key of ones. -/
def sampleTicket : Bytes := 1 :: List.replicate 12 0 ++ [5] ++ List.replicate 16 1

/-- One ticket, one rotation and one failed rotation. -/
def sampleEvents : List TicketEvent :=
  [.encrypt (.ok (Vector.replicate 12 0)) [5], .rotate (.ok (Vector.replicate 32 2)),
    .rotate (.error "entropy source unavailable")]

theorem rotation_contract_sample :
    ∃ state, Execution.run (step plainCipher) (start (uniformKey 1) 60 0) sampleEvents =
        some state ∧
      state.decrypt sampleTicket = some [5] := by
  have executed : Execution.run (step plainCipher) (start (uniformKey 1) 60 0) sampleEvents =
    some _ := rfl
  have contract := rotation_contract executed (by decide) (Sealing.committing_singleton _)
  have issued : IssuedIn plainCipher (start (uniformKey 1) 60 0) sampleEvents sampleTicket [5] 1 :=
    ⟨[], _, _, _, rfl, rfl, rfl, rfl⟩
  exact ⟨_, executed, contract.1 sampleTicket [5] 1 issued⟩

end Service

end OxiTls
