import OxiTls.Library.Restoring
import OxiTls.Pkcs11.Resolver
import OxiTls.Pkcs11.Schemes

/-!
# The provider

`provider.rs`: certificates and keys are read from the token by label, and a server configuration
dispatches on the requested name.  Every read borrows a session of the pool and returns it before
the next one starts, so that a configuration of any size needs one free session.
-/

namespace OxiTls

open Restoring
open Std (TreeMap)

/-- A session, with what the token answers about certificates and signatures. -/
structure ProviderSession extends TokenSession where
  /-- `find_objects` for certificates with a label. -/
  findCertificates : (label : String) → Except String (List Nat)
  /-- `get_attributes` for the value; an attribute of another type is `none`. -/
  getValues : (handle : Nat) → Except String (List (Option Bytes))
  /-- `C_Sign`. -/
  sign : Mechanism → (handle : Nat) → (message : Bytes) → Except String Bytes

/-- The `Pkcs11Error`s that the provider raises. -/
inductive ProviderError
  | key (error : SigningKeyError)
  | tls (message : String)
  deriving DecidableEq, Repr

/-- `SessionPoolExhausted`. -/
def ProviderError.exhausted : ProviderError := .key (.pool .sessionPoolExhausted)

/-! ## On one session -/

namespace ProviderSession

variable (session : ProviderSession)

/-- The loop body of `cert_chain`. -/
def certificateOf (handle : Nat) : Except ProviderError Bytes := do
  let attrs ← (session.getValues handle).mapError fun failure =>
    .key (.pool (.sessionError ("get_attributes failed: " ++ failure)))
  match attrs.findSome? id with
  | some der => .ok der
  | none => .error (.key (.pool (.sessionError "CKA_VALUE not found on certificate")))

/-- `cert_chain`, on the session that was acquired. -/
def certChain (label : String) : Except ProviderError (List Bytes) := do
  let handles ← (session.findCertificates label).mapError fun failure =>
    .key (.keyNotFound ("find_objects failed: " ++ failure))
  if handles.isEmpty then
    .error (.key (.keyNotFound ("no certificate found with label: " ++ label)))
  else handles.mapM session.certificateOf

variable {Pool Module : Type}

/-- `signing_key`, on the session that was acquired. -/
def signingKey (pool : Pool) (label : String) :
    Except ProviderError (Pkcs11SigningKey Pool Module) :=
  (Pkcs11SigningKey.new pool (.ok session.toTokenSession) label).mapError .key

/-- `sign_via_pool`, on the session that was acquired. -/
def signViaPool (keyLabel : String) (scheme : SignatureScheme) (message : Bytes) :
    Except PkcsSignError Bytes := do
  let handle ← findPrivateKeyByLabel session.toTokenSession keyLabel
  let backend : SigningBackend :=
    ⟨fun mechanism message => (session.sign mechanism handle message).mapError .signError⟩
  signWithBackend backend scheme message

end ProviderSession

/-! ## On the pool -/

/-- `acquire`, the use of the guard, and its drop, which pushes the session to the back of the queue
and releases the permit.  The drop runs whether the use succeeds or fails. -/
def withSession {ε α : Type} (exhausted : ε) (use : Session → Except ε α) :
    Using Pkcs11SessionPool ε α :=
  fun pool : Pkcs11SessionPool =>
    match pool.permits, pool.sessions with
    | _ + 1, session :: sessions => (use session, { pool with sessions := sessions ++ [session] })
    | _, _ => (.error exhausted, pool)

/-- `CertifiedKey`: a chain and the key of its leaf. -/
abbrev TokenCertifiedKey (Pool Module : Type) : Type := List Bytes × Pkcs11SigningKey Pool Module

/-- The part of a `ServerConfig` that the provider sets. -/
structure TokenServerConfig (Pool Module : Type) where
  resolver : Pkcs11ServerCertResolver (TokenCertifiedKey Pool Module)

/-- `Pkcs11TlsProvider`: its pool, what the token answers on each session, and what rustls answers
to the request for TLS 1.3. -/
structure Pkcs11TlsProvider (Pool : Type) where
  pool : Pool
  answers : Session → ProviderSession
  withProtocolVersions : Except String Unit

namespace Pkcs11TlsProvider

variable {Pool : Type} (Module : Type) (provider : Pkcs11TlsProvider Pool)

/-- `Pkcs11TlsProvider::cert_chain`. -/
def certChain (label : String) : Using Pkcs11SessionPool ProviderError (List Bytes) :=
  withSession .exhausted fun session => (provider.answers session).certChain label

/-- `Pkcs11TlsProvider::signing_key`. -/
def signingKey (label : String) :
    Using Pkcs11SessionPool ProviderError (Pkcs11SigningKey Pool Module) :=
  withSession .exhausted fun session => (provider.answers session).signingKey provider.pool label

/-- The configuration around a resolver. -/
def configOf (resolver : Pkcs11ServerCertResolver (TokenCertifiedKey Pool Module)) :
    Except ProviderError (TokenServerConfig Pool Module) := do
  provider.withProtocolVersions.mapError .tls
  pure ⟨resolver⟩

/-- `Pkcs11TlsProvider::server_config`. -/
def serverConfig (chainLabel keyLabel : String) :
    Using Pkcs11SessionPool ProviderError (TokenServerConfig Pool Module) := do
  let chain ← provider.certChain chainLabel
  let key ← provider.signingKey Module keyLabel
  liftM (provider.configOf Module (.new (chain, key)))

/-- The map of a resolver, from hostnames to chains and keys. -/
abbrev ResolverMap (Pool Module : Type) : Type := TreeMap String (TokenCertifiedKey Pool Module)

/-- `Pkcs11TlsProvider::server_config_sni`. -/
def serverConfigSni (sniMap : TreeMap String (String × String)) (strictSni : Bool) :
    Using Pkcs11SessionPool ProviderError (TokenServerConfig Pool Module) := do
  let resolverMap ← sniMap.toList.foldlM (fun (resolverMap : ResolverMap Pool Module) entry => do
    let chain ← provider.certChain entry.2.1
    let key ← provider.signingKey Module entry.2.2
    pure (resolverMap.insert entry.1 (chain, key))) ∅
  liftM (provider.configOf Module ((Pkcs11ServerCertResolver.withSniMap resolverMap).withStrictSni
    strictSni))

/-- `sign` of `Pkcs11PooledSigner`, before the error is made one of rustls. -/
def pooledSign (signer : Pkcs11Signer Pool Module) (message : Bytes) :
    Using Pkcs11SessionPool PkcsSignError Bytes :=
  withSession
    (.sessionError
      "pool acquire failed: PKCS#11 session pool exhausted: no available sessions")
    fun session => (provider.answers session).signViaPool signer.keyLabel signer.scheme message

end Pkcs11TlsProvider

/-! ## Sessions come back -/

namespace Pkcs11SessionPool

/-- The calls that a provider made are over: the pool is left with the same permits and the same
sessions, and the steps of the calls lead there. -/
structure Returned (before after : Pkcs11SessionPool) : Prop where
  permits : after.permits = before.permits
  sessions : after.sessions.Perm before.sessions
  steps : ∀ calls, ∃ events count, Execution.run State.step ⟨before, calls⟩ events =
    some ⟨after, calls ++ List.replicate count .dropped⟩

theorem Returned.refl (pool : Pkcs11SessionPool) : Returned pool pool where
  permits := rfl
  sessions := .refl _
  steps calls := ⟨[], 0, by rw [List.replicate_zero, List.append_nil, Execution.run_nil]⟩

theorem Returned.trans {first second third : Pkcs11SessionPool} (former : Returned first second)
    (latter : Returned second third) : Returned first third where
  permits := latter.permits.trans former.permits
  sessions := latter.sessions.trans former.sessions
  steps calls := by
    obtain ⟨events, count, reached⟩ := former.steps calls
    obtain ⟨events', count', reached'⟩ := latter.steps (calls ++ List.replicate count .dropped)
    rw [List.append_assoc, ← List.replicate_add] at reached'
    exact ⟨events ++ events', count + count',
      Execution.run_append_eq_some_iff.mpr ⟨_, reached, reached'⟩⟩

/-- A pool with a free permit whose queue covers its permits. -/
def Free (pool : Pkcs11SessionPool) : Prop :=
  0 < pool.permits ∧ pool.permits ≤ pool.sessions.length

/-- One session is borrowed at a time. -/
def lending : Discipline Pkcs11SessionPool where
  available := Free
  restored := Returned
  refl := Returned.refl
  trans := Returned.trans
  keeps {before after} free returned := by
    rw [Free, returned.permits, returned.sessions.length_eq]
    exact free

/-- A call that is not interrupted takes the session at the front of the queue to its back. -/
theorem run_borrow {permits : Nat} {session : Session} {sessions : List Session}
    (calls : List Phase) :
    Execution.run State.step ⟨⟨session :: sessions, permits + 1⟩, calls⟩
        [.takePermit, .popSession calls.length, .pushSession calls.length,
          .releasePermit calls.length] =
      some ⟨⟨sessions ++ [session], permits + 1⟩, calls ++ [.dropped]⟩ := by
  simp [Execution.run, State.step]

end Pkcs11SessionPool

open Pkcs11SessionPool (lending Returned Free)

/-- On a pool with a free session a use answers as on any session, when all answer alike. -/
theorem answers_withSession {ε α : Type} {exhausted : ε} {use : Session → Except ε α}
    {answer : Except ε α} (alike : ∀ session, use session = answer) :
    Answers lending (withSession exhausted use) answer := by
  rintro ⟨sessions, permits⟩ ⟨positive, covered⟩
  obtain ⟨permits, rfl⟩ := Nat.exists_eq_add_one.mpr positive
  cases sessions with
  | nil => simp at covered
  | cons session sessions =>
      refine ⟨⟨sessions ++ [session], permits + 1⟩, Prod.ext (alike session) rfl, rfl, ?_,
        fun calls => ⟨_, 1, Pkcs11SessionPool.run_borrow calls⟩⟩
      exact List.perm_append_singleton session sessions

/-! ## Tenants -/

namespace ProviderSession

variable {Pool Module : Type} (token : ProviderSession) (pool : Pool)

/-- The labels of a tenant name a chain and a key on the token. -/
def Resolves (labels : String × String) (value : TokenCertifiedKey Pool Module) : Prop :=
  token.certChain labels.1 = .ok value.1 ∧ token.signingKey pool labels.2 = .ok value.2

/-- The loop body of `server_config_sni`, on one session. -/
def addTenant (resolverMap : Pkcs11TlsProvider.ResolverMap Pool Module)
    (entry : String × String × String) :
    Except ProviderError (Pkcs11TlsProvider.ResolverMap Pool Module) := do
  let chain ← token.certChain entry.2.1
  let key ← token.signingKey pool entry.2.2
  pure (resolverMap.insert entry.1 (chain, key))

variable {token pool}

theorem addTenant_eq_ok_iff {before after : Pkcs11TlsProvider.ResolverMap Pool Module}
    {entry : String × String × String} :
    token.addTenant pool before entry = .ok after ↔
      ∃ value, token.Resolves pool entry.2 value ∧ before.insert entry.1 value = after := by
  simp only [addTenant, Resolves, Except.bind_eq_ok_iff, Except.pure_eq_ok_iff, Prod.exists]
  constructor
  · rintro ⟨chain, read, key, found, rfl⟩
    exact ⟨chain, key, ⟨read, found⟩, rfl⟩
  · rintro ⟨chain, key, ⟨read, found⟩, rfl⟩
    exact ⟨chain, read, key, found, rfl⟩

/-- A session that is at hand does not run out. -/
theorem certChain_ne_exhausted (label : String) : token.certChain label ≠ .error .exhausted := by
  refine Except.bind_ne_error (Except.mapError_ne_error (by nofun) _) fun handles => ?_
  split
  · nofun
  · refine Except.mapM_ne_error (fun handle => ?_) handles
    refine Except.bind_ne_error (Except.mapError_ne_error (by nofun) _) fun attrs => ?_
    split <;> nofun

theorem signingKey_ne_exhausted (label : String) :
    (token.signingKey pool label : Except ProviderError (Pkcs11SigningKey Pool Module)) ≠
      .error .exhausted := by
  intro failed
  obtain ⟨error, failed, translated⟩ := Except.mapError_eq_error_iff.mp failed
  have foreign (failure : PkcsSignError) :
      SigningKeyError.ofSignError failure ≠ .pool .sessionPoolExhausted := by
    cases failure <;> simp [SigningKeyError.ofSignError]
  obtain rfl := ProviderError.key.inj translated
  refine absurd failed (Except.bind_ne_error nofun fun session => ?_)
  refine Except.bind_ne_error (Except.mapError_ne_error foreign _) fun handle => ?_
  refine Except.bind_ne_error (Except.mapError_ne_error foreign _) fun keyType => ?_
  exact Except.bind_ne_error (Except.mapError_ne_error (by nofun) _) fun _ => Except.pure_ne_error

theorem addTenant_ne_exhausted (resolverMap : Pkcs11TlsProvider.ResolverMap Pool Module)
    (entry : String × String × String) :
    token.addTenant pool resolverMap entry ≠ .error .exhausted :=
  Except.bind_ne_error (certChain_ne_exhausted _) fun _ =>
    Except.bind_ne_error (signingKey_ne_exhausted _) fun _ => Except.pure_ne_error

/-- The loop leaves the hosts that are not in its entries alone. -/
theorem getElem?_addTenants_of_notMem {entries : List (String × String × String)}
    {before after : Pkcs11TlsProvider.ResolverMap Pool Module} {host : String}
    (added : entries.foldlM (token.addTenant pool) before = .ok after)
    (absent : host ∉ entries.map Prod.fst) : after[host]? = before[host]? := by
  induction entries generalizing before with
  | nil => rw [Except.pure_eq_ok_iff.mp added]
  | cons entry entries induction =>
      simp only [List.foldlM_cons, Except.bind_eq_ok_iff, addTenant_eq_ok_iff] at added
      obtain ⟨middle, ⟨value, -, rfl⟩, added⟩ := added
      rw [List.map_cons, List.mem_cons, not_or] at absent
      rw [induction added absent.2, TreeMap.getElem?_insert, if_neg]
      simpa using Ne.symm absent.1

/-- The loop gives every host what its labels name. -/
theorem getElem?_addTenants {entries : List (String × String × String)}
    {before after : Pkcs11TlsProvider.ResolverMap Pool Module}
    (added : entries.foldlM (token.addTenant pool) before = .ok after)
    (distinct : (entries.map Prod.fst).Nodup) :
    ∀ entry ∈ entries, ∃ value, token.Resolves pool entry.2 value ∧
      after[entry.1]? = some value := by
  induction entries generalizing before with
  | nil => simp
  | cons entry entries induction =>
      simp only [List.foldlM_cons, Except.bind_eq_ok_iff, addTenant_eq_ok_iff] at added
      obtain ⟨middle, ⟨value, resolves, rfl⟩, added⟩ := added
      rw [List.map_cons, List.nodup_cons] at distinct
      rw [List.forall_mem_cons]
      refine ⟨⟨value, resolves, ?_⟩, induction added distinct.2⟩
      rw [getElem?_addTenants_of_notMem added distinct.1, TreeMap.getElem?_insert_self]

/-- The loop succeeds when all labels name something. -/
theorem exists_addTenants {entries : List (String × String × String)}
    (resolve : ∀ entry ∈ entries, ∃ value : TokenCertifiedKey Pool Module,
      token.Resolves pool entry.2 value)
    (before : Pkcs11TlsProvider.ResolverMap Pool Module) :
    ∃ after, entries.foldlM (token.addTenant pool) before = .ok after := by
  induction entries generalizing before with
  | nil => exact ⟨before, rfl⟩
  | cons entry entries induction =>
      rw [List.forall_mem_cons] at resolve
      obtain ⟨⟨value, resolves⟩, later⟩ := resolve
      obtain ⟨after, added⟩ := induction later (before.insert entry.1 value)
      refine ⟨after, ?_⟩
      simp only [List.foldlM_cons, Except.bind_eq_ok_iff, addTenant_eq_ok_iff]
      exact ⟨_, ⟨value, resolves, rfl⟩, added⟩

/-- The resolver map has the hosts of the SNI map, each with what its labels name. -/
structure Tenants (token : ProviderSession) (pool : Pool)
    (sniMap : TreeMap String (String × String))
    (resolverMap : Pkcs11TlsProvider.ResolverMap Pool Module) : Prop where
  missing : ∀ host : String, sniMap[host]? = none → resolverMap[host]? = none
  stored : ∀ (host : String) labels, sniMap[host]? = some labels →
    ∃ value, token.Resolves pool labels value ∧ resolverMap[host]? = some value

theorem tenants_of_added {sniMap : TreeMap String (String × String)}
    {resolverMap : Pkcs11TlsProvider.ResolverMap Pool Module}
    (added : sniMap.toList.foldlM (token.addTenant pool) ∅ = .ok resolverMap) :
    token.Tenants pool sniMap resolverMap where
  missing host absent := by
    rw [getElem?_addTenants_of_notMem added, TreeMap.getElem?_emptyc]
    intro member
    obtain ⟨⟨_, labels⟩, listed, rfl⟩ := List.mem_map.mp member
    rw [mem_toList_iff.mp listed] at absent
    cases absent
  stored host labels found := by
    have distinct : (sniMap.toList.map Prod.fst).Nodup := by
      refine (List.pairwise_map.mpr ?_)
      exact TreeMap.distinct_keys_toList.imp fun different same => different (by simp [same])
    exact getElem?_addTenants added distinct (host, labels) (mem_toList_iff.mpr found)

theorem Tenants.serves {sniMap : TreeMap String (String × String)}
    {resolverMap : Pkcs11TlsProvider.ResolverMap Pool Module}
    (tenants : token.Tenants pool sniMap resolverMap) {name : String} {labels : String × String}
    (serves : Serves sniMap name labels) :
    ∃ value, token.Resolves pool labels value ∧ Serves resolverMap name value := by
  cases serves with
  | exact stored =>
      obtain ⟨value, resolves, found⟩ := tenants.stored name labels stored
      exact ⟨value, resolves, .exact found⟩
  | @wildcard label tail missing splits stored =>
      obtain ⟨value, resolves, found⟩ := tenants.stored _ labels stored
      exact ⟨value, resolves, .wildcard (tenants.missing name missing) splits found⟩

/-- A stored host comes from the SNI map. -/
theorem Tenants.exists_labels {sniMap : TreeMap String (String × String)}
    {resolverMap : Pkcs11TlsProvider.ResolverMap Pool Module}
    (tenants : token.Tenants pool sniMap resolverMap) {host : String}
    {value : TokenCertifiedKey Pool Module} (found : resolverMap[host]? = some value) :
    ∃ labels, sniMap[host]? = some labels := by
  cases stored : sniMap[host]? with
  | none =>
      rw [tenants.missing host stored] at found
      cases found
  | some labels => exact ⟨labels, rfl⟩

theorem Tenants.exists_serves {sniMap : TreeMap String (String × String)}
    {resolverMap : Pkcs11TlsProvider.ResolverMap Pool Module}
    (tenants : token.Tenants pool sniMap resolverMap) {name : String}
    {value : TokenCertifiedKey Pool Module} (serves : Serves resolverMap name value) :
    ∃ labels, Serves sniMap name labels := by
  cases serves with
  | exact found =>
      obtain ⟨labels, stored⟩ := tenants.exists_labels found
      exact ⟨labels, .exact stored⟩
  | @wildcard label tail missing splits found =>
      obtain ⟨labels, stored⟩ := tenants.exists_labels found
      cases own : sniMap[name]? with
      | none => exact ⟨labels, .wildcard own splits stored⟩
      | some other => exact ⟨other, .exact own⟩

end ProviderSession

namespace Pkcs11TlsProvider

variable {Pool Module : Type} {provider : Pkcs11TlsProvider Pool} {token : ProviderSession}

variable (Module) in
/-- The pooled computation answers as a loop over one session would. -/
theorem answers_serverConfigSni (alike : ∀ session, provider.answers session = token)
    (sniMap : TreeMap String (String × String)) (strictSni : Bool) :
    Answers lending (provider.serverConfigSni Module sniMap strictSni)
      (sniMap.toList.foldlM (token.addTenant provider.pool) ∅ >>= fun resolverMap =>
        provider.configOf Module ((Pkcs11ServerCertResolver.withSniMap resolverMap).withStrictSni
          strictSni)) := by
  refine (Answers.foldlM (fun resolverMap entry => ?_) _ _).bind fun _ => Answers.lift _
  refine Answers.bind (answers_withSession fun session => ?_) fun chain =>
    Answers.bind (answers_withSession fun session => ?_) fun key => Answers.pure _
  · rw [alike]
  · rw [alike]

/-- A key of a tenant signs with the private key of the tenant's label. -/
theorem answers_pooledSign (alike : ∀ session, provider.answers session = token)
    {labels : String × String} {value : TokenCertifiedKey Pool Module}
    (resolves : token.Resolves provider.pool labels value) {offered : List SignatureScheme}
    {signer : Pkcs11Signer Pool Module} (chosen : value.2.chooseScheme offered = some signer)
    (message : Bytes) :
    Answers lending (provider.pooledSign Module signer message)
      (token.signViaPool labels.2 signer.scheme message) := by
  have label : signer.keyLabel = labels.2 := by
    have built := Except.mapError_eq_ok_iff.mp resolves.2
    simp only [Pkcs11SigningKey.new, Except.bind_eq_ok_iff, Except.pure_eq_ok_iff] at built
    obtain ⟨-, -, -, -, -, -, algorithm, -, same⟩ := built
    obtain ⟨scheme, -, rfl⟩ := Option.map_eq_some_iff.mp chosen
    exact congrArg Pkcs11SigningKey.keyLabel same.symm
  exact answers_withSession fun session => by rw [alike, label]

theorem configOf_eq_ok_iff
    {resolver : Pkcs11ServerCertResolver (TokenCertifiedKey Pool Module)}
    {config : TokenServerConfig Pool Module} :
    provider.configOf Module resolver = .ok config ↔
      provider.withProtocolVersions = .ok () ∧ config.resolver = resolver := by
  simp only [configOf, Except.bind_eq_ok_iff, Except.mapError_eq_ok_iff, Except.pure_eq_ok_iff]
  constructor
  · rintro ⟨_, versions, rfl⟩
    exact ⟨versions, rfl⟩
  · rintro ⟨versions, rfl⟩
    exact ⟨(), versions, rfl⟩

theorem configOf_ne_exhausted
    (resolver : Pkcs11ServerCertResolver (TokenCertifiedKey Pool Module)) :
    provider.configOf Module resolver ≠ .error .exhausted :=
  Except.bind_ne_error (Except.mapError_ne_error (by nofun) _) fun _ => Except.pure_ne_error

variable (Module) in
/-- In every reachable state of a pool with a free permit, `server_config_sni` runs to its end
without exhausting the pool and leaves it as it was, on success and on failure.  It succeeds exactly
when every tenant's labels name a chain and a key.  The configuration then serves a client with what
the labels of its tenant name, signs with the private key of that label, and serves any other client
with nothing. -/
theorem server_config_sni_serves_tenants {openRo login : Nat → Except String Unit}
    {capacity : Nat} {fresh : Pkcs11SessionPool} {events : List Pkcs11SessionPool.Event}
    {state : Pkcs11SessionPool.State}
    (created : Pkcs11SessionPool.new openRo login capacity = .ok fresh)
    (executed : Execution.run Pkcs11SessionPool.State.step ⟨fresh, []⟩ events = some state)
    (free : 0 < state.pool.permits) (alike : ∀ session, provider.answers session = token)
    (sniMap : TreeMap String (String × String)) (strictSni : Bool) :
    ∃ answer after, (provider.serverConfigSni Module sniMap strictSni).on state.pool =
        (answer, after) ∧ Returned state.pool after ∧ answer ≠ .error .exhausted ∧
      ((∃ config, answer = .ok config) ↔ provider.withProtocolVersions = .ok () ∧
        ∀ (host : String) labels, sniMap[host]? = some labels →
          ∃ value : TokenCertifiedKey Pool Module, token.Resolves provider.pool labels value) ∧
      ∀ config, answer = .ok config → ∀ sni,
        (∀ labels, Pkcs11ServerCertResolver.Covers sniMap sni labels →
          ∃ value, token.Resolves provider.pool labels value ∧
            config.resolver.lookup sni = some value ∧
            ∀ offered signer message, value.2.chooseScheme offered = some signer →
              Answers lending (provider.pooledSign Module signer message)
                (token.signViaPool labels.2 signer.scheme message)) ∧
        ((∀ labels, ¬Pkcs11ServerCertResolver.Covers sniMap sni labels) →
          config.resolver.lookup sni = none) := by
  obtain rfl := Pkcs11SessionPool.new_eq_ok created
  have balanced : state.Balanced capacity :=
    Execution.invariant_of_run (fun _ _ _ balanced stepped => balanced.step stepped)
      (Pkcs11SessionPool.State.balanced_start capacity) executed
  have available : Free state.pool := ⟨free, by rw [balanced.length_sessions]; omega⟩
  obtain ⟨after, answered, returned⟩ :=
    answers_serverConfigSni Module alike sniMap strictSni state.pool available
  refine ⟨_, after, answered, returned, ?_, ?_, ?_⟩
  · exact Except.bind_ne_error
      (Except.foldlM_ne_error ProviderSession.addTenant_ne_exhausted _ _) fun _ =>
        configOf_ne_exhausted _
  · constructor
    · rintro ⟨config, succeeded⟩
      obtain ⟨resolverMap, added, built⟩ := Except.bind_eq_ok_iff.mp succeeded
      refine ⟨(configOf_eq_ok_iff.mp built).1, fun host labels stored => ?_⟩
      obtain ⟨value, resolves, -⟩ :=
        (ProviderSession.tenants_of_added added).stored host labels stored
      exact ⟨value, resolves⟩
    · rintro ⟨versions, resolve⟩
      obtain ⟨resolverMap, added⟩ := ProviderSession.exists_addTenants
        (fun entry listed => resolve entry.1 entry.2 (mem_toList_iff.mp listed))
        (∅ : ResolverMap Pool Module)
      exact ⟨_, Except.bind_eq_ok_iff.mpr
        ⟨resolverMap, added, configOf_eq_ok_iff.mpr ⟨versions, rfl⟩⟩⟩
  · intro config succeeded sni
    obtain ⟨resolverMap, added, built⟩ := Except.bind_eq_ok_iff.mp succeeded
    have tenants := ProviderSession.tenants_of_added added
    rw [(configOf_eq_ok_iff.mp built).2]
    constructor
    · rintro labels ⟨name, rfl, serves⟩
      obtain ⟨value, resolves, served⟩ := tenants.serves serves
      exact ⟨value, resolves, Pkcs11ServerCertResolver.lookup_of_covers ⟨name, rfl, served⟩ _,
        fun _ _ message chosen => answers_pooledSign alike resolves chosen message⟩
    · intro uncovered
      refine Pkcs11ServerCertResolver.lookup_of_not_covers ?_ _
      rintro value ⟨name, rfl, served⟩
      obtain ⟨labels, serves⟩ := tenants.exists_serves served
      exact uncovered labels ⟨name, rfl, serves⟩

/-- A token with one certificate and one key, under every label. -/
def tenantToken : ProviderSession where
  findObjects _ := .ok [1]
  getAttributes _ := .ok [.keyType .ec]
  ecParams _ := .p256
  findCertificates _ := .ok [2]
  getValues _ := .ok [some [0x30]]
  sign _ _ message := .ok message

def tenantProvider : Pkcs11TlsProvider Unit := ⟨(), fun _ => tenantToken, .ok ()⟩

def tenantMap : TreeMap String (String × String) :=
  (∅ : TreeMap String (String × String)).insert "*.example" ("chain", "key")

theorem server_config_sni_serves_tenants_wildcard :
    ∃ config after, (tenantProvider.serverConfigSni Unit tenantMap true).on
        (Pkcs11SessionPool.start 1).pool = (.ok config, after) ∧
      Returned (Pkcs11SessionPool.start 1).pool after ∧
      ∃ value, tenantToken.Resolves () ("chain", "key") value ∧
        config.resolver.lookup (some "host.example") = some value := by
  have created : Pkcs11SessionPool.new (fun _ => .ok ()) (fun _ => .ok ()) 1 =
      .ok (Pkcs11SessionPool.start 1).pool := rfl
  have executed : Execution.run Pkcs11SessionPool.State.step (Pkcs11SessionPool.start 1) [] =
      some (Pkcs11SessionPool.start 1) := rfl
  have alike (session : Session) : tenantProvider.answers session = tenantToken := rfl
  obtain ⟨answer, after, answered, returned, -, succeeds, serves⟩ :=
    server_config_sni_serves_tenants Unit created executed Nat.one_pos alike tenantMap true
  obtain ⟨config, rfl⟩ := succeeds.mpr
    ⟨rfl, fun _ labels _ => ⟨([[0x30]], ⟨.pool (), labels.2, .ecdsa⟩), rfl, rfl⟩⟩
  have splits : SplitsAt "host.example" "host" "example" := ⟨by decide, by decide, by decide⟩
  have covers : Pkcs11ServerCertResolver.Covers tenantMap (some "host.example")
      ("chain", "key") := by
    refine ⟨_, rfl, .wildcard ?_ splits ?_⟩
    · simp [tenantMap]
    · simp [tenantMap]
  obtain ⟨value, resolves, served, -⟩ := (serves config rfl (some "host.example")).1 _ covers
  exact ⟨config, after, answered, returned, value, resolves, served⟩

end Pkcs11TlsProvider

end OxiTls
