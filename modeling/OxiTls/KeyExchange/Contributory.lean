import OxiTls.Hpke.Kem
import OxiTls.KeyExchange.Hybrid

/-!
# All-zero X25519 secrets

An X25519 share of low order makes the shared secret all zero, whatever the other party's key is.
The KEM of HPKE refuses such an exchange on both of its sides.  The key exchanges of TLS use the
secret as it comes.
-/

namespace OxiTls

/-! ## Shares of low order -/

/-- The order of the field of Curve25519. -/
def curve25519Prime : Nat := 2 ^ 255 - 19

/-- The u-coordinate of a share: its bytes are little-endian and the highest bit does not count. -/
def uCoordinate (share : Vector UInt8 x25519PubLen) : Nat :=
  BigEndian.decode share.toList.reverse % 2 ^ 255 % curve25519Prime

/-- The u-coordinates of the points on the curve and on its twist whose order divides 8. -/
def lowOrderCoordinates : List Nat :=
  [0, 1, 325606250916557431795983626356110631294008115727848805560023387167927233504,
    39382357235489614581723060781553021112529911719440698176882885853963445705823,
    curve25519Prime - 1]

/-- The share is a point of low order. -/
def LowOrder (share : Vector UInt8 x25519PubLen) : Prop :=
  uCoordinate share ∈ lowOrderCoordinates

instance (share : Vector UInt8 x25519PubLen) : Decidable (LowOrder share) :=
  inferInstanceAs (Decidable (_ ∈ lowOrderCoordinates))

/-- The secrets are multiples of the cofactor, so that the shared secret is all zero exactly when
the share has low order. -/
def X25519Dalek.VanishesOnLowOrder (dalek : X25519Dalek) : Prop :=
  ∀ secret share, dalek.diffieHellman secret share = Vector.replicate 32 0 ↔ LowOrder share

/-- The bytes are a share of low order. -/
def IsLowOrderShare (bytes : Bytes) : Prop :=
  ∃ share, FixedLength.ofList? x25519PubLen bytes = some share ∧ LowOrder share

/-- The ML-KEM part of a client's share is a key. -/
def MlKem768.AcceptsClientShare (mlkem : MlKem768) (peer : Bytes) : Prop :=
  ∃ array key,
    FixedLength.ofList? mlkem768EncapKeyLen (peer.take mlkem768EncapKeyLen) = some array ∧
    mlkem.ofBytes array = some key

/-- The ML-KEM part of a server's share is a ciphertext. -/
def MlKem768.AcceptsServerShare (mlkem : MlKem768) (key : mlkem.DecapsulationKey) (peer : Bytes) :
    Prop :=
  ∃ secret, mlkem.decapsulateSlice key (peer.take mlkem768CiphertextLen) = some secret

/-! ## What the exchanges do with it -/

/-- The exchange is refused when its X25519 secret is all zero. -/
def RefusesZero {α : Type} (dalek : X25519Dalek) (privKey : dalek.EphemeralSecret) (peer : Bytes)
    (result : Except KeyExchangeError α) : Prop :=
  ∀ share, FixedLength.ofList? x25519PubLen peer = some share →
    dalek.diffieHellman privKey share = Vector.replicate 32 0 → ∃ failure, result = .error failure

section Refusal

variable {dalek : X25519Dalek} {mlkem : MlKem768} {privKey : dalek.EphemeralSecret}

/-- An exchange that succeeds on every share of the right length refuses an all-zero secret exactly
when there is none. -/
theorem refusesZero_iff_of_ok {α : Type} (vanishes : dalek.VanishesOnLowOrder) {peer : Bytes}
    {result : Except KeyExchangeError α}
    (succeeds : ∀ share, FixedLength.ofList? x25519PubLen peer = some share →
      ∃ value, result = .ok value) :
    RefusesZero dalek privKey peer result ↔ ¬ IsLowOrderShare peer := by
  constructor
  · rintro refuses ⟨share, read, lowOrder⟩
    obtain ⟨failure, refused⟩ := refuses share read ((vanishes privKey share).mpr lowOrder)
    obtain ⟨value, succeeded⟩ := succeeds share read
    rw [refused] at succeeded
    contradiction
  · intro highOrder share read zero
    exact absurd ⟨share, read, (vanishes privKey share).mp zero⟩ highOrder

theorem refusesZero_of_error {α : Type} {peer : Bytes} {failure : KeyExchangeError} :
    RefusesZero dalek privKey peer (.error failure : Except KeyExchangeError α) :=
  fun _ _ _ => ⟨failure, rfl⟩

/-- `X25519KeyExchange::complete` refuses nothing but lengths. -/
theorem complete_refusesZero_iff (vanishes : dalek.VanishesOnLowOrder)
    (exchange : X25519.KeyExchange dalek) (peer : Bytes) :
    RefusesZero dalek exchange.privKey peer (exchange.complete peer) ↔ ¬ IsLowOrderShare peer := by
  apply refusesZero_iff_of_ok vanishes
  intro share read
  exact ⟨_, by rw [X25519.KeyExchange.complete, read]⟩

theorem completeHybridComponent_refusesZero_iff (vanishes : dalek.VanishesOnLowOrder)
    (active : ActiveX25519MlKem768 mlkem dalek) (peer : Bytes) :
    RefusesZero dalek active.x25519Priv peer (active.completeHybridComponent peer) ↔
      ¬ IsLowOrderShare peer := by
  apply refusesZero_iff_of_ok vanishes
  intro share read
  exact ⟨_, by rw [ActiveX25519MlKem768.completeHybridComponent, read]⟩

/-- An array at the end of the bytes fixes their length. -/
theorem length_of_read_drop {bytes : Bytes} {offset : Nat} {share : Vector UInt8 x25519PubLen}
    (read : FixedLength.ofList? x25519PubLen (bytes.drop offset) = some share) :
    bytes.length = offset + x25519PubLen := by
  have length := congrArg List.length (FixedLength.eq_toList_of_ofList? read)
  rw [Vector.length_toList, List.length_drop] at length
  have positive : x25519PubLen = 32 := rfl
  omega

theorem startAndComplete_of_not_accepts {random : HybridRandom} {peer : Bytes}
    (malformed : ¬ mlkem.AcceptsClientShare peer) :
    X25519MlKem768.startAndComplete mlkem dalek random peer = .error .invalidKeyShare := by
  rw [X25519MlKem768.startAndComplete]
  split_ifs
  · rfl
  · cases taken : FixedLength.ofList? mlkem768EncapKeyLen (peer.take mlkem768EncapKeyLen) with
    | none => simp only [taken]
    | some array =>
        cases valid : mlkem.ofBytes array with
        | none => simp only [taken, valid]
        | some key => exact absurd ⟨array, key, taken, valid⟩ malformed

theorem complete_of_not_accepts {active : ActiveX25519MlKem768 mlkem dalek} {peer : Bytes}
    (malformed : ¬ mlkem.AcceptsServerShare active.dk peer) :
    active.complete peer = .error .invalidKeyShare := by
  rw [ActiveX25519MlKem768.complete]
  split_ifs
  · rfl
  · cases decapsulated : mlkem.decapsulateSlice active.dk (peer.take mlkem768CiphertextLen) with
    | none => simp only [decapsulated]
    | some secret => exact absurd ⟨secret, decapsulated⟩ malformed

/-- The hybrid server encapsulates to any key and takes any X25519 share. -/
theorem startAndComplete_refusesZero_iff (vanishes : dalek.VanishesOnLowOrder)
    (random : HybridRandom) (peer : Bytes) :
    RefusesZero dalek (dalek.randomFromRng random.x25519) (peer.drop mlkem768EncapKeyLen)
        (X25519MlKem768.startAndComplete mlkem dalek random peer) ↔
      ¬ (mlkem.AcceptsClientShare peer ∧ IsLowOrderShare (peer.drop mlkem768EncapKeyLen)) := by
  by_cases accepts : mlkem.AcceptsClientShare peer
  · rw [and_iff_right accepts]
    apply refusesZero_iff_of_ok vanishes
    intro share read
    have length : peer.length = clientShareLen := length_of_read_drop read
    obtain ⟨array, key, taken, valid⟩ := accepts
    simp only [X25519MlKem768.startAndComplete, if_neg (not_not_intro length), taken, valid, read]
    exact ⟨_, rfl⟩
  · refine iff_of_true ?_ fun both => accepts both.1
    rw [startAndComplete_of_not_accepts accepts]
    exact refusesZero_of_error

/-- The hybrid client decapsulates any ciphertext and takes any X25519 share. -/
theorem hybrid_complete_refusesZero_iff (vanishes : dalek.VanishesOnLowOrder)
    (active : ActiveX25519MlKem768 mlkem dalek) (peer : Bytes) :
    RefusesZero dalek active.x25519Priv (peer.drop mlkem768CiphertextLen)
        (active.complete peer) ↔
      ¬ (mlkem.AcceptsServerShare active.dk peer ∧
        IsLowOrderShare (peer.drop mlkem768CiphertextLen)) := by
  by_cases accepts : mlkem.AcceptsServerShare active.dk peer
  · rw [and_iff_right accepts]
    apply refusesZero_iff_of_ok vanishes
    intro share read
    have length : peer.length = serverShareLen := length_of_read_drop read
    obtain ⟨secret, decapsulated⟩ := accepts
    simp only [ActiveX25519MlKem768.complete, if_neg (not_not_intro length), decapsulated, read]
    exact ⟨_, rfl⟩
  · refine iff_of_true ?_ fun both => accepts both.1
    rw [complete_of_not_accepts accepts]
    exact refusesZero_of_error

end Refusal

/-- The KEM of HPKE refuses an all-zero secret when it encapsulates. -/
theorem KemX25519.encap_of_zero {crates : KemCrates} {skEm pkR : Vector UInt8 32}
    (zero : crates.x25519.diffieHellman skEm pkR = Vector.replicate 32 0) (rest : Bytes) :
    KemX25519.encap crates (skEm.toList ++ rest) pkR.toList = .error encapNonContributory := by
  simp only [encap, KemImpl.encap, impl, encapInputs_eq, if_pos zero]
  rfl

/-- The KEM of HPKE refuses an all-zero secret when it decapsulates. -/
theorem KemX25519.decap_of_zero {crates : KemCrates} {skR pkEm : Vector UInt8 32}
    (zero : crates.x25519.diffieHellman skR pkEm = Vector.replicate 32 0) :
    KemX25519.decap crates skR.toList pkEm.toList = .error decapNonContributory := by
  simp only [decap, KemImpl.decap, impl, decapInputs_eq, if_pos zero]
  rfl

/-- The four exchanges of TLS refuse an all-zero secret exactly when there is none to refuse: when
the X25519 share is not of low order, or the ML-KEM part of the share is refused first.  The KEM of
HPKE refuses it always. -/
theorem refusesZero_iff (dalek : X25519Dalek) (vanishes : dalek.VanishesOnLowOrder)
    (mlkem : MlKem768) (crates : KemCrates) :
    (∀ (exchange : X25519.KeyExchange dalek) (peer : Bytes),
      RefusesZero dalek exchange.privKey peer (exchange.complete peer) ↔ ¬ IsLowOrderShare peer) ∧
    (∀ (random : HybridRandom) (peer : Bytes),
      RefusesZero dalek (dalek.randomFromRng random.x25519) (peer.drop 1184)
          (X25519MlKem768.startAndComplete mlkem dalek random peer) ↔
        ¬ (mlkem.AcceptsClientShare peer ∧ IsLowOrderShare (peer.drop 1184))) ∧
    (∀ (active : ActiveX25519MlKem768 mlkem dalek) (peer : Bytes),
      RefusesZero dalek active.x25519Priv (peer.drop 1088) (active.complete peer) ↔
        ¬ (mlkem.AcceptsServerShare active.dk peer ∧ IsLowOrderShare (peer.drop 1088))) ∧
    (∀ (active : ActiveX25519MlKem768 mlkem dalek) (peer : Bytes),
      RefusesZero dalek active.x25519Priv peer (active.completeHybridComponent peer) ↔
        ¬ IsLowOrderShare peer) ∧
    ∀ secret point : Vector UInt8 32,
      crates.x25519.diffieHellman secret point = Vector.replicate 32 0 →
      (∀ rest, KemX25519.encap crates (secret.toList ++ rest) point.toList =
          .error KemX25519.encapNonContributory) ∧
        KemX25519.decap crates secret.toList point.toList =
          .error KemX25519.decapNonContributory :=
  ⟨complete_refusesZero_iff vanishes, startAndComplete_refusesZero_iff vanishes,
    hybrid_complete_refusesZero_iff vanishes, completeHybridComponent_refusesZero_iff vanishes,
    fun _ _ zero => ⟨KemX25519.encap_of_zero zero, KemX25519.decap_of_zero zero⟩⟩

/-- An X25519 that tells the shares of low order from all others. -/
def coarseX25519 : X25519Dalek where
  EphemeralSecret := Bytes
  randomFromRng random := random
  publicKey _ := Vector.replicate x25519PubLen 9
  diffieHellman _ share := if LowOrder share then Vector.replicate 32 0 else Vector.replicate 32 1

theorem coarseX25519_vanishes : coarseX25519.VanishesOnLowOrder := by
  intro secret share
  by_cases lowOrder : LowOrder share
  · exact iff_of_true (if_pos lowOrder) lowOrder
  · refine iff_of_false (fun zero => ?_) lowOrder
    have ones : Vector.replicate 32 1 = (Vector.replicate 32 0 : Vector UInt8 32) :=
      (if_neg lowOrder).symm.trans zero
    exact absurd ones (by decide)

/-- The exchange of a private key over this X25519. -/
def coarseExchange : X25519.KeyExchange coarseX25519 := ⟨[5], Vector.replicate 32 9⟩

/-- The base point is no share of low order. -/
theorem refusesZero_iff_basePoint :
    RefusesZero coarseX25519 coarseExchange.privKey (9 :: List.replicate 31 0)
      (coarseExchange.complete (9 :: List.replicate 31 0)) := by
  refine ((refusesZero_iff coarseX25519 coarseX25519_vanishes Hybrid.miniatureMlKem768
    summingCrates).1 coarseExchange (9 :: List.replicate 31 0)).mpr ?_
  rintro ⟨share, read, lowOrder⟩
  rw [LowOrder, uCoordinate, FixedLength.eq_toList_of_ofList? read] at lowOrder
  exact absurd lowOrder (by decide)

/-- A share of 32 zeros makes the exchange succeed with an all-zero secret. -/
theorem zero_share_not_refusesZero :
    ¬ RefusesZero coarseX25519 coarseExchange.privKey (List.replicate 32 0)
      (coarseExchange.complete (List.replicate 32 0)) := by
  have lowOrder : IsLowOrderShare (List.replicate 32 0) :=
    ⟨Vector.replicate x25519PubLen 0, rfl, by decide⟩
  intro refuses
  exact (complete_refusesZero_iff coarseX25519_vanishes coarseExchange _).mp refuses lowOrder

end OxiTls
