import OxiTls.Pkcs11.Pool

/-!
# Opening a pool on a token

`Pkcs11SessionPool::new` against a token of the PKCS#11 standard.  Whether the user is logged in is
a property of the application on the slot, not of a session: the first login holds for every
session, a second one is refused, and closing the last session logs out.  The loop of `new` logs in
once per session.
-/

namespace OxiTls

/-- The `CK_RV` codes with which a token refuses to open a session or to log in. -/
inductive CkRv
  | pinIncorrect
  | sessionCount
  | sessionHandleInvalid
  | userAlreadyLoggedIn
  deriving DecidableEq, Repr

/-- A token, as one application sees it. -/
structure Token where
  pin : String
  /-- `ulMaxSessionCount`; `none` when there is no limit. -/
  maxSessions : Option Nat
  openSessions : Nat
  loggedIn : Bool
  /-- Without a session nobody is logged in. -/
  loggedOut : openSessions = 0 → loggedIn = false
  deriving DecidableEq

namespace Token

variable (token : Token)

/-- `Pkcs11::open_ro_session`: its answer and the token afterwards. -/
def openRoSession : Except CkRv Unit × Token :=
  if token.maxSessions.any fun limit => decide (limit ≤ token.openSessions) then
    (.error .sessionCount, token)
  else (.ok (), { token with
    openSessions := token.openSessions + 1
    loggedOut := fun empty => absurd empty (Nat.succ_ne_zero _) })

/-- `Session::login` as the user: its answer and the token afterwards. -/
def login (pin : String) : Except CkRv Unit × Token :=
  if used : token.openSessions = 0 then (.error .sessionHandleInvalid, token)
  else if token.loggedIn then (.error .userAlreadyLoggedIn, token)
  else if pin ≠ token.pin then (.error .pinIncorrect, token)
  else (.ok (), { token with
    loggedIn := true
    loggedOut := fun empty => absurd empty used })

/-- Dropping a `Session` closes it. -/
def closeSession : Token where
  pin := token.pin
  maxSessions := token.maxSessions
  openSessions := token.openSessions - 1
  loggedIn := token.loggedIn && decide (1 < token.openSessions)
  loggedOut closed := by
    have few : ¬ 1 < token.openSessions := by omega
    simp [few]

variable {token}

theorem openRoSession_eq_ok {opened : Token} (answered : token.openRoSession = (.ok (), opened)) :
    opened.openSessions = token.openSessions + 1 ∧ opened.loggedIn = token.loggedIn := by
  unfold openRoSession at answered
  split_ifs at answered
  · simp at answered
  · obtain ⟨_, rfl⟩ := Prod.mk.inj answered
    exact ⟨rfl, rfl⟩

theorem openRoSession_eq_error {after : Token} {rv : CkRv}
    (answered : token.openRoSession = (.error rv, after)) : after = token := by
  unfold openRoSession at answered
  split_ifs at answered
  · exact (Prod.mk.inj answered).2.symm
  · simp at answered

/-- Logging in succeeds once. -/
theorem login_eq_ok {pin : String} {entered : Token}
    (answered : token.login pin = (.ok (), entered)) :
    token.loggedIn = false ∧ entered.loggedIn = true := by
  unfold login at answered
  split_ifs at answered with used loggedIn wrong
  all_goals try simp at answered
  exact ⟨by simpa using loggedIn, by rw [← answered]⟩

theorem login_openSessions (token : Token) (pin : String) :
    (token.login pin).2.openSessions = token.openSessions := by
  unfold login
  split_ifs <;> rfl

end Token

namespace Pkcs11SessionPool

variable (describe : CkRv → String) (pin : String)

/-- The loop of `Pkcs11SessionPool::new` on a token, given the texts of its refusals.  An early
return drops the sessions that the loop has opened. -/
def openSessions : List Nat → Token → Except Pkcs11Error (List Session) × Token
  | [], token => (.ok [], token)
  | index :: turns, token =>
      match token.openRoSession with
      | (.error rv, token) => (.error (.sessionError (describe rv)), token)
      | (.ok (), token) =>
          match token.login pin with
          | (.error rv, token) =>
              (.error (.sessionError ("login failed: " ++ describe rv)), token.closeSession)
          | (.ok (), token) =>
              match openSessions turns token with
              | (.error error, token) => (.error error, token.closeSession)
              | (.ok sessions, token) => (.ok (⟨index⟩ :: sessions), token)

/-- `Pkcs11SessionPool::new` on a token: its answer and the token afterwards. -/
def newOn (token : Token) (capacity : Nat) : Except Pkcs11Error Pkcs11SessionPool × Token :=
  match openSessions describe pin (List.range capacity) token with
  | (.error error, token) => (.error error, token)
  | (.ok sessions, token) => (.ok ⟨sessions, capacity⟩, token)

/-! ## The token before each turn -/

/-- The token before a turn of the loop, when the turns before it succeeded. -/
def tokenBefore (token : Token) : Nat → Token
  | 0 => token
  | turn + 1 => ((tokenBefore token turn).openRoSession.2.login pin).2

/-- What the token answers to the open of each turn. -/
def openAnswer (token : Token) (turn : Nat) : Except String Unit :=
  (tokenBefore pin token turn).openRoSession.1.mapError describe

/-- What the token answers to the login of each turn. -/
def loginAnswer (token : Token) (turn : Nat) : Except String Unit :=
  ((tokenBefore pin token turn).openRoSession.2.login pin).1.mapError describe

variable {describe pin}

/-- The loop on a token is the loop over the answers of the token. -/
theorem openSessions_eq (describe : CkRv → String) (pin : String) (token : Token)
    (turn turns : Nat) :
    (openSessions describe pin (List.range' turn turns) (tokenBefore pin token turn)).1 =
      (List.range' turn turns).mapM
        (openSession (openAnswer describe pin token) (loginAnswer describe pin token)) := by
  induction turns generalizing turn with
  | zero => rfl
  | succ turns induction =>
      have later := induction (turn + 1)
      simp only [List.range'_succ, openSessions, List.mapM_cons, openSession, openAnswer,
        loginAnswer]
      rw [tokenBefore] at later
      rcases opening : (tokenBefore pin token turn).openRoSession with ⟨_ | _, opened⟩
      · rfl
      · simp only [opening] at later ⊢
        rcases login : opened.login pin with ⟨_ | _, entered⟩
        · rfl
        · simp only [login] at later ⊢
          rw [← later]
          rcases openSessions describe pin (List.range' (turn + 1) turns) entered with
            ⟨_ | _, _⟩ <;> rfl

/-- On a token, `new` is `new` over the answers of the token. -/
theorem newOn_eq (token : Token) (capacity : Nat) :
    (newOn describe pin token capacity).1 =
      new (openAnswer describe pin token) (loginAnswer describe pin token) capacity := by
  have loop := openSessions_eq describe pin token 0 capacity
  rw [← List.range_eq_range'] at loop
  unfold newOn new
  rw [← loop, tokenBefore]
  rcases openSessions describe pin (List.range capacity) token with ⟨_ | _, _⟩ <;> rfl

/-! ## What a turn does -/

/-- A turn that succeeds opens a session, logs in and leaves the rest to the later turns. -/
theorem openSessions_cons_eq_ok {index : Nat} {turns : List Nat} {token after : Token}
    {sessions : List Session}
    (finished : openSessions describe pin (index :: turns) token = (.ok sessions, after)) :
    ∃ opened entered rest, token.openRoSession = (.ok (), opened) ∧
      opened.login pin = (.ok (), entered) ∧
      openSessions describe pin turns entered = (.ok rest, after) ∧
      sessions = ⟨index⟩ :: rest := by
  rw [openSessions] at finished
  split at finished
  · simp at finished
  · next opened opening =>
      split at finished
      · simp at finished
      · next entered login =>
          split at finished
          · simp at finished
          · next rest after' continued =>
              obtain ⟨queued, rfl⟩ := Prod.mk.inj finished
              exact ⟨opened, entered, rest, opening, login, continued,
                (Except.ok.inj queued).symm⟩

/-- A pool that could not be opened leaves no session behind. -/
theorem openSessions_of_error {turns : List Nat} {token after : Token} {error : Pkcs11Error}
    (failed : openSessions describe pin turns token = (.error error, after)) :
    after.openSessions = token.openSessions := by
  induction turns generalizing token after error with
  | nil => simp [openSessions] at failed
  | cons index turns induction =>
      rw [openSessions] at failed
      split at failed
      · next refused opening =>
          obtain ⟨_, rfl⟩ := Prod.mk.inj failed
          rw [Token.openRoSession_eq_error opening]
      · next opened opening =>
          have more := (Token.openRoSession_eq_ok opening).1
          split at failed
          · next refused login =>
              obtain ⟨_, rfl⟩ := Prod.mk.inj failed
              have same : refused.openSessions = opened.openSessions := by
                rw [← opened.login_openSessions pin, login]
              simp only [Token.closeSession]
              omega
          · next entered login =>
              have same : entered.openSessions = opened.openSessions := by
                rw [← opened.login_openSessions pin, login]
              split at failed
              · next left continued =>
                  obtain ⟨_, rfl⟩ := Prod.mk.inj failed
                  have fewer := induction continued
                  simp only [Token.closeSession]
                  omega
              · simp at failed

/-! ## Which pools can be opened -/

/-- `new` answers a pool with the given number of sessions and of free permits. -/
def Opens (describe : CkRv → String) (pin : String) (token : Token) (capacity : Nat) : Prop :=
  ∃ pool, (newOn describe pin token capacity).1 = .ok pool ∧
    pool.sessions.length = capacity ∧ pool.permits = capacity

/-- The loop does not get past a turn that finds the user logged in. -/
theorem openSessions_of_loggedIn {index : Nat} {turns : List Nat} {token after : Token}
    {sessions : List Session} (entered : token.loggedIn = true) :
    openSessions describe pin (index :: turns) token ≠ (.ok sessions, after) := by
  intro finished
  obtain ⟨opened, _, _, opening, login, _⟩ := openSessions_cons_eq_ok finished
  have fresh := (Token.login_eq_ok login).1
  rw [(Token.openRoSession_eq_ok opening).2, entered] at fresh
  contradiction

/-- On a token that opens every session and knows the PIN, `new` opens exactly the pools of one
session, and only while the user is not logged in. -/
theorem opens_iff {token : Token} {capacity : Nat} (positive : 0 < capacity)
    (unlimited : token.maxSessions = none) (correct : token.pin = pin) :
    Opens describe pin token capacity ↔ capacity = 1 ∧ token.loggedIn = false := by
  obtain ⟨others, rfl⟩ := Nat.exists_eq_succ_of_ne_zero (Nat.pos_iff_ne_zero.mp positive)
  constructor
  · rintro ⟨pool, created, _, _⟩
    unfold newOn at created
    rw [List.range_eq_range', Nat.succ_eq_add_one, List.range'_succ] at created
    split at created
    · contradiction
    · next sessions after finished =>
        obtain ⟨opened, entered, rest, opening, login, continued, _⟩ :=
          openSessions_cons_eq_ok finished
        obtain ⟨fresh, loggedIn⟩ := Token.login_eq_ok login
        rw [(Token.openRoSession_eq_ok opening).2] at fresh
        refine ⟨?_, fresh⟩
        cases others with
        | zero => rfl
        | succ others =>
            rw [List.range'_succ] at continued
            exact absurd continued (openSessions_of_loggedIn loggedIn)
  · rintro ⟨single, fresh⟩
    obtain rfl : others = 0 := by omega
    refine ⟨⟨[⟨0⟩], 1⟩, ?_, rfl, rfl⟩
    simp [newOn, openSessions, Token.openRoSession, Token.login, unlimited, fresh, correct]

/-- A token without a limit on which nobody is logged in. -/
def freshToken : Token := ⟨"1234", none, 0, false, fun _ => rfl⟩

theorem opens_iff_single :
    0 < 1 ∧ freshToken.maxSessions = none ∧ freshToken.pin = "1234" ∧
      Opens (fun _ => "") "1234" freshToken 1 := by
  have correct : freshToken.pin = "1234" := rfl
  exact ⟨by decide, rfl, correct, (opens_iff (by decide) rfl correct).mpr ⟨rfl, rfl⟩⟩

/-- With two sessions the second login is refused, and the token is logged out again. -/
theorem two_sessions_not_opens :
    newOn (fun _ => "user already logged in") "1234" freshToken 2 =
        (.error (.sessionError "login failed: user already logged in"), freshToken) ∧
      ¬ Opens (fun _ => "user already logged in") "1234" freshToken 2 := by
  have refused : newOn (fun _ => "user already logged in") "1234" freshToken 2 =
      (.error (.sessionError "login failed: user already logged in"), freshToken) := by decide
  refine ⟨refused, ?_⟩
  rintro ⟨pool, created, _⟩
  rw [refused] at created
  contradiction

end Pkcs11SessionPool

end OxiTls
