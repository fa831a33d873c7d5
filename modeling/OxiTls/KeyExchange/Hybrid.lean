import OxiTls.Library.FixedLength
import OxiTls.Library.Fallible
import OxiTls.Pki

/-!
# X25519MLKEM768 key exchange

The hybrid group of the adapter's `kx.rs` and the plain X25519 group of the provider's `kx.rs`.  The
two primitives are parameters, and so is the randomness each party draws.  Shares and secrets are
concatenations, the ML-KEM part first, which the two parties split at different offsets.
-/

namespace OxiTls

/-- The `rustls::Error` a key exchange raises, `PeerMisbehaved(InvalidKeyShare)`. -/
inductive KeyExchangeError
  | invalidKeyShare
  deriving DecidableEq, Repr

/-- The `rustls::NamedGroup` values of the two groups. -/
inductive NamedGroup
  | x25519
  | x25519MlKem768
  deriving DecidableEq, Repr

/-- `rustls::crypto::CompletedKeyExchange`. -/
structure CompletedKeyExchange where
  group : NamedGroup
  pubKey : Bytes
  secret : Bytes
  deriving DecidableEq, Repr

/-- `MLKEM768_ENCAP_KEY_LEN`. -/
def mlkem768EncapKeyLen : Nat := 1184

/-- `MLKEM768_CIPHERTEXT_LEN`. -/
def mlkem768CiphertextLen : Nat := 1088

/-- `X25519_PUB_LEN`. -/
def x25519PubLen : Nat := 32

/-- `CLIENT_SHARE_LEN`. -/
def clientShareLen : Nat := mlkem768EncapKeyLen + x25519PubLen

/-- `SERVER_SHARE_LEN`. -/
def serverShareLen : Nat := mlkem768CiphertextLen + x25519PubLen

/-- The `ml-kem` crate at its 768 parameters. -/
structure MlKem768 where
  DecapsulationKey : Type
  EncapsulationKey : Type
  generateKeypair : (random : Bytes) → DecapsulationKey × EncapsulationKey
  toBytes : EncapsulationKey → Vector UInt8 mlkem768EncapKeyLen
  /-- `EncapsulationKey768::new`, which checks the modulus. -/
  ofBytes : Vector UInt8 mlkem768EncapKeyLen → Option EncapsulationKey
  encapsulate : EncapsulationKey → (random : Bytes) →
    Vector UInt8 mlkem768CiphertextLen × Vector UInt8 32
  /-- `decapsulate_slice`, which checks the length. -/
  decapsulateSlice : DecapsulationKey → Bytes → Option (Vector UInt8 32)

/-- A generated encapsulation key is read back from its bytes, and decapsulation inverts
encapsulation. -/
structure MlKem768.Correct (mlkem : MlKem768) : Prop where
  ofBytes_toBytes (random : Bytes) :
    mlkem.ofBytes (mlkem.toBytes (mlkem.generateKeypair random).2) =
      some (mlkem.generateKeypair random).2
  decapsulate_encapsulate (random coins : Bytes) :
    mlkem.decapsulateSlice (mlkem.generateKeypair random).1
        (mlkem.encapsulate (mlkem.generateKeypair random).2 coins).1.toList =
      some (mlkem.encapsulate (mlkem.generateKeypair random).2 coins).2

/-- The `x25519-dalek` crate. -/
structure X25519Dalek where
  EphemeralSecret : Type
  randomFromRng : (random : Bytes) → EphemeralSecret
  publicKey : EphemeralSecret → Vector UInt8 x25519PubLen
  diffieHellman : EphemeralSecret → Vector UInt8 x25519PubLen → Vector UInt8 32

/-- Both parties of a Diffie-Hellman exchange compute the same secret. -/
def X25519Dalek.Commutative (dalek : X25519Dalek) : Prop :=
  ∀ mine theirs, dalek.diffieHellman mine (dalek.publicKey theirs) =
    dalek.diffieHellman theirs (dalek.publicKey mine)

/-! ## The plain group -/

namespace X25519

variable (dalek : X25519Dalek)

/-- `X25519KeyExchange`. -/
structure KeyExchange where
  privKey : dalek.EphemeralSecret
  pubKey : Vector UInt8 x25519PubLen

/-- `X25519::start`. -/
def start (random : Bytes) : Except KeyExchangeError (KeyExchange dalek) :=
  let privKey := dalek.randomFromRng random
  .ok ⟨privKey, dalek.publicKey privKey⟩

variable {dalek} in
/-- `X25519KeyExchange::complete`. -/
def KeyExchange.complete (exchange : KeyExchange dalek) (peer : Bytes) :
    Except KeyExchangeError Bytes :=
  match FixedLength.ofList? x25519PubLen peer with
  | some peerArray => .ok (dalek.diffieHellman exchange.privKey peerArray).toList
  | none => .error .invalidKeyShare

/-- The `start_and_complete` that rustls gives a group by default. -/
def startAndComplete (random peer : Bytes) : Except KeyExchangeError CompletedKeyExchange := do
  let exchange ← start dalek random
  let secret ← exchange.complete peer
  pure ⟨.x25519, exchange.pubKey.toList, secret⟩

end X25519

/-! ## The hybrid group -/

/-- The randomness one party draws for the two primitives. -/
structure HybridRandom where
  mlkem : Bytes
  x25519 : Bytes

section Hybrid

variable (mlkem : MlKem768) (dalek : X25519Dalek)

/-- `ActiveX25519MlKem768`. -/
structure ActiveX25519MlKem768 where
  dk : mlkem.DecapsulationKey
  x25519Priv : dalek.EphemeralSecret
  combinedPub : Bytes

namespace X25519MlKem768

/-- `X25519MlKem768::start`. -/
def start (random : HybridRandom) :
    Except KeyExchangeError (ActiveX25519MlKem768 mlkem dalek) :=
  let keypair := mlkem.generateKeypair random.mlkem
  let ekBytes := mlkem.toBytes keypair.2
  let x25519Priv := dalek.randomFromRng random.x25519
  let x25519Pub := dalek.publicKey x25519Priv
  .ok ⟨keypair.1, x25519Priv, ekBytes.toList ++ x25519Pub.toList⟩

/-- `X25519MlKem768::start_and_complete`. -/
def startAndComplete (random : HybridRandom) (peerPubKey : Bytes) :
    Except KeyExchangeError CompletedKeyExchange :=
  if peerPubKey.length ≠ clientShareLen then .error .invalidKeyShare
  else
    let peerEkBytes := peerPubKey.take mlkem768EncapKeyLen
    let peerX25519Bytes := peerPubKey.drop mlkem768EncapKeyLen
    match FixedLength.ofList? mlkem768EncapKeyLen peerEkBytes with
    | none => .error .invalidKeyShare
    | some peerEkArray =>
        match mlkem.ofBytes peerEkArray with
        | none => .error .invalidKeyShare
        | some peerEk =>
            let encapsulated := mlkem.encapsulate peerEk random.mlkem
            let x25519Priv := dalek.randomFromRng random.x25519
            let x25519Pub := dalek.publicKey x25519Priv
            match FixedLength.ofList? x25519PubLen peerX25519Bytes with
            | none => .error .invalidKeyShare
            | some peerX25519Array =>
                let x25519Ss := dalek.diffieHellman x25519Priv peerX25519Array
                .ok
                  { group := .x25519MlKem768
                    pubKey := encapsulated.1.toList ++ x25519Pub.toList
                    secret := encapsulated.2.toList ++ x25519Ss.toList }

end X25519MlKem768

namespace ActiveX25519MlKem768

variable {mlkem dalek} (active : ActiveX25519MlKem768 mlkem dalek)

/-- `ActiveX25519MlKem768::complete`. -/
def complete (peerPubKey : Bytes) : Except KeyExchangeError Bytes :=
  if peerPubKey.length ≠ serverShareLen then .error .invalidKeyShare
  else
    let ctBytes := peerPubKey.take mlkem768CiphertextLen
    let peerX25519Bytes := peerPubKey.drop mlkem768CiphertextLen
    match mlkem.decapsulateSlice active.dk ctBytes with
    | none => .error .invalidKeyShare
    | some mlkemSs =>
        match FixedLength.ofList? x25519PubLen peerX25519Bytes with
        | none => .error .invalidKeyShare
        | some peerX25519Array =>
            let x25519Ss := dalek.diffieHellman active.x25519Priv peerX25519Array
            .ok (mlkemSs.toList ++ x25519Ss.toList)

/-- `ActiveX25519MlKem768::hybrid_component`. -/
def hybridComponent : Option (NamedGroup × Bytes) :=
  some (.x25519, active.combinedPub.drop mlkem768EncapKeyLen)

/-- `ActiveX25519MlKem768::complete_hybrid_component`. -/
def completeHybridComponent (peerPubKey : Bytes) : Except KeyExchangeError Bytes :=
  match FixedLength.ofList? x25519PubLen peerPubKey with
  | none => .error .invalidKeyShare
  | some peerArray => .ok (dalek.diffieHellman active.x25519Priv peerArray).toList

/-- `ActiveX25519MlKem768::pub_key`. -/
def pubKey : Bytes := active.combinedPub

end ActiveX25519MlKem768

end Hybrid

/-! ## Agreement -/

namespace Hybrid

variable {mlkem : MlKem768} {dalek : X25519Dalek}

/-- The exchange a client has started. -/
def clientOf (mlkem : MlKem768) (dalek : X25519Dalek) (client : HybridRandom) :
    ActiveX25519MlKem768 mlkem dalek where
  dk := (mlkem.generateKeypair client.mlkem).1
  x25519Priv := dalek.randomFromRng client.x25519
  combinedPub := (mlkem.toBytes (mlkem.generateKeypair client.mlkem).2).toList ++
    (dalek.publicKey (dalek.randomFromRng client.x25519)).toList

theorem start_eq (client : HybridRandom) :
    X25519MlKem768.start mlkem dalek client = .ok (clientOf mlkem dalek client) := rfl

theorem length_pubKey_clientOf (client : HybridRandom) :
    (clientOf mlkem dalek client).pubKey.length = clientShareLen := by
  rw [ActiveX25519MlKem768.pubKey, clientOf, List.length_append, Vector.length_toList,
    Vector.length_toList, clientShareLen]

theorem hybridComponent_clientOf (client : HybridRandom) :
    (clientOf mlkem dalek client).hybridComponent =
      some (.x25519, (dalek.publicKey (dalek.randomFromRng client.x25519)).toList) := by
  rw [ActiveX25519MlKem768.hybridComponent, clientOf, FixedLength.drop_append]

/-- The server encapsulates to the client's key and computes the Diffie-Hellman secret with the
client's public key. -/
theorem startAndComplete_clientOf (correct : mlkem.Correct) (client server : HybridRandom) :
    let encapsulated := mlkem.encapsulate (mlkem.generateKeypair client.mlkem).2 server.mlkem
    let x25519Priv := dalek.randomFromRng server.x25519
    X25519MlKem768.startAndComplete mlkem dalek server (clientOf mlkem dalek client).pubKey =
      .ok
        { group := .x25519MlKem768
          pubKey := encapsulated.1.toList ++ (dalek.publicKey x25519Priv).toList
          secret := encapsulated.2.toList ++ (dalek.diffieHellman x25519Priv
            (dalek.publicKey (dalek.randomFromRng client.x25519))).toList } := by
  intro encapsulated x25519Priv
  rw [X25519MlKem768.startAndComplete, if_neg (not_not_intro (length_pubKey_clientOf client))]
  simp only [ActiveX25519MlKem768.pubKey, clientOf, FixedLength.take_append,
    FixedLength.drop_append, FixedLength.ofList?_toList, correct.ofBytes_toBytes]
  rfl

/-- The client decapsulates what the server encapsulated. -/
theorem complete_clientOf (correct : mlkem.Correct) (client : HybridRandom) (coins : Bytes)
    (peer : Vector UInt8 x25519PubLen) :
    let encapsulated := mlkem.encapsulate (mlkem.generateKeypair client.mlkem).2 coins
    (clientOf mlkem dalek client).complete (encapsulated.1.toList ++ peer.toList) =
      .ok (encapsulated.2.toList ++
        (dalek.diffieHellman (dalek.randomFromRng client.x25519) peer).toList) := by
  intro encapsulated
  have length : (encapsulated.1.toList ++ peer.toList).length = serverShareLen := by
    rw [List.length_append, Vector.length_toList, Vector.length_toList, serverShareLen]
  rw [ActiveX25519MlKem768.complete, if_neg (not_not_intro length)]
  simp only [clientOf, FixedLength.take_append, FixedLength.drop_append,
    FixedLength.ofList?_toList, encapsulated, correct.decapsulate_encapsulate]

theorem plain_startAndComplete (random : Bytes) (peer : Vector UInt8 x25519PubLen) :
    X25519.startAndComplete dalek random peer.toList =
      .ok ⟨.x25519, (dalek.publicKey (dalek.randomFromRng random)).toList,
        (dalek.diffieHellman (dalek.randomFromRng random) peer).toList⟩ := by
  simp only [X25519.startAndComplete, X25519.start, X25519.KeyExchange.complete,
    FixedLength.ofList?_toList]
  rfl

theorem completeHybridComponent_toList (active : ActiveX25519MlKem768 mlkem dalek)
    (peer : Vector UInt8 x25519PubLen) :
    active.completeHybridComponent peer.toList =
      .ok (dalek.diffieHellman active.x25519Priv peer).toList := by
  simp only [ActiveX25519MlKem768.completeHybridComponent, FixedLength.ofList?_toList]

/-! ## Shares of a wrong length -/

theorem startAndComplete_of_length_ne {peer : Bytes} (other : peer.length ≠ clientShareLen)
    (server : HybridRandom) :
    X25519MlKem768.startAndComplete mlkem dalek server peer = .error .invalidKeyShare :=
  if_pos other

theorem complete_of_length_ne {peer : Bytes} (other : peer.length ≠ serverShareLen)
    (active : ActiveX25519MlKem768 mlkem dalek) :
    active.complete peer = .error .invalidKeyShare :=
  if_pos other

theorem completeHybridComponent_of_length_ne {peer : Bytes} (other : peer.length ≠ x25519PubLen)
    (active : ActiveX25519MlKem768 mlkem dalek) :
    active.completeHybridComponent peer = .error .invalidKeyShare := by
  rw [ActiveX25519MlKem768.completeHybridComponent, FixedLength.ofList?_of_length_ne other]

/-- For all randomness of the client and of either server: the shares have their lengths, the hybrid
server and the client agree on the ML-KEM secret followed by the X25519 secret, a plain X25519
server and the client agree on the X25519 secret, and a share of another length is refused. -/
theorem hybrid_agreement (mlkem : MlKem768) (dalek : X25519Dalek) (correct : mlkem.Correct)
    (commutative : dalek.Commutative) (client : HybridRandom) :
    ∃ active, X25519MlKem768.start mlkem dalek client = .ok active ∧
      active.pubKey.length = 1216 ∧
      (∀ server, ∃ completed : CompletedKeyExchange, ∃ mlkemSs x25519Ss : Vector UInt8 32,
        X25519MlKem768.startAndComplete mlkem dalek server active.pubKey = .ok completed ∧
        completed.group = .x25519MlKem768 ∧ completed.pubKey.length = 1120 ∧
        completed.secret.length = 64 ∧ completed.secret = mlkemSs.toList ++ x25519Ss.toList ∧
        mlkem.decapsulateSlice active.dk (completed.pubKey.take 1088) = some mlkemSs ∧
        active.completeHybridComponent (completed.pubKey.drop 1088) = .ok x25519Ss.toList ∧
        active.complete completed.pubKey = .ok completed.secret) ∧
      (∃ component, active.hybridComponent = some (.x25519, component) ∧ component.length = 32 ∧
        ∀ server, ∃ completed : CompletedKeyExchange,
          X25519.startAndComplete dalek server component = .ok completed ∧
          completed.group = .x25519 ∧ completed.secret.length = 32 ∧
          active.completeHybridComponent completed.pubKey = .ok completed.secret) ∧
      (∀ peer : Bytes, peer.length ≠ 1216 → ∀ server,
        X25519MlKem768.startAndComplete mlkem dalek server peer = .error .invalidKeyShare) ∧
      (∀ peer : Bytes, peer.length ≠ 1120 → active.complete peer = .error .invalidKeyShare) ∧
      ∀ peer : Bytes, peer.length ≠ 32 →
        active.completeHybridComponent peer = .error .invalidKeyShare := by
  refine ⟨clientOf mlkem dalek client, start_eq client, length_pubKey_clientOf client, ?_, ?_,
    fun peer other server => startAndComplete_of_length_ne other server,
    fun peer other => complete_of_length_ne other _,
    fun peer other => completeHybridComponent_of_length_ne other _⟩
  · intro server
    refine ⟨_, (mlkem.encapsulate (mlkem.generateKeypair client.mlkem).2 server.mlkem).2,
      dalek.diffieHellman (dalek.randomFromRng server.x25519)
        (dalek.publicKey (dalek.randomFromRng client.x25519)),
      startAndComplete_clientOf correct client server, rfl, ?_, ?_, rfl, ?_, ?_, ?_⟩
    · rw [List.length_append, Vector.length_toList, Vector.length_toList]
      rfl
    · rw [List.length_append, Vector.length_toList, Vector.length_toList]
    · rw [show 1088 = mlkem768CiphertextLen from rfl, FixedLength.take_append]
      exact correct.decapsulate_encapsulate client.mlkem server.mlkem
    · rw [show 1088 = mlkem768CiphertextLen from rfl, FixedLength.drop_append,
        completeHybridComponent_toList, commutative]
      rfl
    · rw [complete_clientOf correct client, commutative]
  · refine ⟨_, hybridComponent_clientOf client, Vector.length_toList, ?_⟩
    intro server
    refine ⟨_, plain_startAndComplete server _, rfl, Vector.length_toList, ?_⟩
    rw [completeHybridComponent_toList, commutative]
    rfl

/-- An ML-KEM whose keys are one byte. -/
def miniatureMlKem768 : MlKem768 where
  DecapsulationKey := UInt8
  EncapsulationKey := UInt8
  generateKeypair random := (random.headD 0, random.headD 0)
  toBytes key := Vector.replicate mlkem768EncapKeyLen key
  ofBytes bytes := some (bytes.toList.headD 0)
  encapsulate key random := (Vector.replicate mlkem768CiphertextLen (random.headD 0),
    Vector.replicate 32 (random.headD 0 + key))
  decapsulateSlice key ciphertext :=
    if ciphertext.length = mlkem768CiphertextLen then
      some (Vector.replicate 32 (ciphertext.headD 0 + key))
    else none

/-- An X25519 whose secrets are one byte. -/
def miniatureX25519 : X25519Dalek where
  EphemeralSecret := UInt8
  randomFromRng random := random.headD 0
  publicKey secret := Vector.replicate x25519PubLen secret
  diffieHellman secret peer := Vector.replicate 32 (secret + peer.toList.headD 0)

theorem headD_replicate {size : Nat} (positive : 0 < size) (byte : UInt8) :
    (Vector.replicate size byte).toList.headD 0 = byte := by
  obtain ⟨size, rfl⟩ := Nat.exists_eq_succ_of_ne_zero (Nat.pos_iff_ne_zero.mp positive)
  rw [Vector.toList_replicate, List.replicate_succ, List.headD_cons]

theorem miniatureMlKem768_correct : miniatureMlKem768.Correct where
  ofBytes_toBytes random := congrArg some (headD_replicate (by decide) _)
  decapsulate_encapsulate random coins := by
    simp only [miniatureMlKem768]
    rw [if_pos Vector.length_toList, headD_replicate (by decide)]

theorem miniatureX25519_commutative : miniatureX25519.Commutative := by
  intro (mine : UInt8) (theirs : UInt8)
  change Vector.replicate 32 (mine + (Vector.replicate x25519PubLen theirs).toList.headD 0) =
    Vector.replicate 32 (theirs + (Vector.replicate x25519PubLen mine).toList.headD 0)
  rw [headD_replicate (by decide), headD_replicate (by decide), UInt8.add_comm]

theorem hybrid_agreement_miniature :
    ∃ active, X25519MlKem768.start miniatureMlKem768 miniatureX25519 ⟨[1], [2]⟩ = .ok active ∧
      ∃ completed : CompletedKeyExchange,
        X25519MlKem768.startAndComplete miniatureMlKem768 miniatureX25519 ⟨[3], [4]⟩
          active.pubKey = .ok completed ∧
        active.complete completed.pubKey = .ok completed.secret := by
  obtain ⟨active, started, -, agreed, -⟩ := hybrid_agreement miniatureMlKem768 miniatureX25519
    miniatureMlKem768_correct miniatureX25519_commutative ⟨[1], [2]⟩
  obtain ⟨completed, -, -, completes, -, -, -, -, -, -, same⟩ := agreed ⟨[3], [4]⟩
  exact ⟨active, started, completed, completes, same⟩

end Hybrid

end OxiTls
