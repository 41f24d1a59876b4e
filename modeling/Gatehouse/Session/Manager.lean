import Gatehouse.Login.Provider
import Gatehouse.Redirect
import Gatehouse.Session.Locate
import Gatehouse.Session.Tally
import Gatehouse.Table

/-
  The life of sessions.

  A manager opens a session for each completed login,
  validates and refreshes sessions, and removes them at
  logout, when it meets an expired one, and in sweeps.  It
  waits for the provider for a limited time only.

  Key definitions include:
    * `Session.Terms`
    * `Session.Manager`
    * `Session.Manager.initiate`
    * `Session.Manager.complete`
    * `Session.Manager.logout`
    * `Session.Manager.refresh`
    * `Session.Manager.validate`
    * `Session.Manager.sweep`
-/

namespace Gatehouse

namespace Session

/- What a manager holds its sessions to. -/
structure Terms where
  redirects : Redirect.Policy
  /- How long a session lives, in nanoseconds. -/
  lifetime : Nat
  /- How long the provider is waited for, in nanoseconds. -/
  patience : Nat
  deriving DecidableEq, Repr

/- Sessions by id, the provider, and counts. -/
structure Manager
    (σ : Type) where
  terms : Terms
  providerState : σ
  sessions : Table String Session
  tally : Tally

namespace Manager

variable {σ : Type}

/- A manager without sessions. -/
def start
    (terms : Terms)
    (provider : σ) : Manager σ :=
  ⟨terms, provider, Table.empty, Tally.zero⟩

/- The number of sessions. -/
def active
    (m : Manager σ) : Nat :=
  m.sessions.size

/- The end of a session that is opened or refreshed now. -/
def deadline
    (m : Manager σ)
    (now : Instant) : Instant :=
  now.moveOrLatest m.terms.lifetime

/- Note how many sessions there are. -/
def noteActive
    (m : Manager σ) : Manager σ :=
  { m with tally.active := some m.active }

/- Put a session under its id. -/
def store
    (m : Manager σ)
    (s : Session) : Manager σ :=
  { m with sessions := m.sessions.insert s.id s }

/- Remove a session. -/
def remove
    (m : Manager σ)
    (id : String) : Manager σ :=
  { m with sessions := m.sessions.erase id }

------------------------------------------------------------
-- Logins
------------------------------------------------------------

/- What a caller is told of a login that was to start. -/
def initiated
    (m : Manager σ) :
    Login.Reply Login.Ticket →
      Except Refusal Login.Ticket × Manager σ
  | .done ticket =>
      (.ok ticket,
        { m with tally.initiated := m.tally.initiated + 1 })
  | .failed f => (.error (.failed f.message), m)
  | .timedOut =>
      (.error (.failed
        "authorization URL request timed out"), m)

/- Start a login that returns to an address. -/
def initiate
    (p : Login.Provider σ)
    (m : Manager σ)
    (address : String) :
    Except Refusal Login.Ticket × Manager σ :=
  match m.terms.redirects.check address with
  | .error e => (.error e, m)
  | .ok () =>
      let (answer, after) :=
        p.authorize m.providerState address
      { m with providerState := after }.initiated
        (answer.within m.terms.patience)

/- Open a session for a user. -/
def enroll
    (m : Manager σ)
    (now : Instant)
    (id : String)
    (user : User) : Descriptor × Manager σ :=
  let s : Session :=
    { id := id
      user := user
      createdAt := now
      expiresAt := m.deadline now }
  let m' := (m.store s).noteActive
  (s.descriptor,
    { m' with tally.completed := m'.tally.completed + 1 })

/- What a caller is told of a login that was to end. -/
def completed
    (m : Manager σ)
    (now : Instant)
    (id : String) :
    Login.Reply User →
      Except Refusal Descriptor × Manager σ
  | .done user =>
      let (d, m') := m.enroll now id user
      (.ok d, m')
  | _ =>
      (.error (.unauthorized "code exchange failed"),
        { m with tally.failed := m.tally.failed + 1 })

/-
  Finish a login: exchange the code for a user and open a
  session with a fresh id.
-/
def complete
    (p : Login.Provider σ)
    (m : Manager σ)
    (now : Instant)
    (id : String)
    (code state : String) :
    Except Refusal Descriptor × Manager σ :=
  if code.isEmpty || state.isEmpty then
    (.error (.badRequest "missing code or state"), m)
  else
    let (answer, after) :=
      p.exchange m.providerState code state
    { m with providerState := after }.completed now id
      (answer.within m.terms.patience)

------------------------------------------------------------
-- Logout
------------------------------------------------------------

/- Ask the provider to revoke a token, if there is one. -/
def revokeToken
    (p : Login.Provider σ)
    (m : Manager σ)
    (token : Secret) : Manager σ :=
  if token.isEmpty then
    m
  else
    { m with
      providerState := (p.revoke m.providerState token.reveal).2 }

/-
  End a session.  Whether the provider revokes the token
  does not matter any more.
-/
def logout
    (p : Login.Provider σ)
    (m : Manager σ)
    (id : String) : Except Refusal Unit × Manager σ :=
  if id.isEmpty then
    (.error (.badRequest "missing session id"), m)
  else
    match m.sessions.get? id with
    | none => (.error (.notFound "session not found"), m)
    | some s =>
        let m' := (m.remove id).noteActive
        let m'' :=
          { m' with tally.logouts := m'.tally.logouts + 1 }
        (.ok (), m''.revokeToken p s.user.providerToken)

------------------------------------------------------------
-- Refresh and Validation
------------------------------------------------------------

/- Move the end of a live session away from now. -/
def refresh
    (m : Manager σ)
    (now : Instant)
    (id : String) :
    Except Refusal Descriptor × Manager σ :=
  if id.isEmpty then
    (.error (.badRequest "missing session id"), m)
  else
    match m.sessions.get? id with
    | none => (.error (.notFound "session not found"), m)
    | some s =>
        if s.isExpired now then
          (.error (.unauthorized "session expired"),
            (m.remove id).noteActive)
        else
          let s' := s.extendTo (m.deadline now)
          (.ok s'.descriptor,
            { m with sessions := m.sessions.insert id s' })

/- The user of a live session; an expired one is removed. -/
def validateId
    (m : Manager σ)
    (now : Instant)
    (id : String) : Except Refusal User × Manager σ :=
  match m.sessions.get? id with
  | none =>
      (.error (.unauthorized "session not found"),
        { m with tally.unknown := m.tally.unknown + 1 })
  | some s =>
      if s.isExpired now then
        let m' := (m.remove id).noteActive
        (.error (.unauthorized "session expired"),
          { m' with tally.expired := m'.tally.expired + 1 })
      else
        (.ok s.user,
          { m with tally.valid := m.tally.valid + 1 })

/- The user of the session that a request names. -/
def validate
    (m : Manager σ)
    (now : Instant)
    (hs : List Http.Header)
    (query : Option (List UInt8)) :
    Except Refusal User × Manager σ :=
  match locate? hs query with
  | none =>
      (.error (.unauthorized "no session id"),
        { m with tally.missing := m.tally.missing + 1 })
  | some id => m.validateId now id

------------------------------------------------------------
-- Sweeps
------------------------------------------------------------

/- The sessions that are live now. -/
def live
    (m : Manager σ)
    (now : Instant) : Table String Session :=
  m.sessions.retain (fun _ s => !s.isExpired now)

/- Remove the expired sessions, and say how many. -/
def sweep
    (m : Manager σ)
    (now : Instant) : Nat × Manager σ :=
  let left := { m with sessions := m.live now }
  let removed := m.active - left.active
  if removed = 0 then
    (0, left)
  else
    let left' := left.noteActive
    (removed,
      { left' with
        tally.swept := left'.tally.swept + removed })

------------------------------------------------------------
-- What Stays
------------------------------------------------------------

/- A request for nothing changes nothing. -/
@[simp]
theorem logout_empty
    (p : Login.Provider σ)
    (m : Manager σ) :
    m.logout p "" =
      (.error (.badRequest "missing session id"), m) := rfl

/- A session that is opened can be found. -/
theorem get?_enroll
    (m : Manager σ)
    (now : Instant)
    (id : String)
    (user : User) :
    (m.enroll now id user).2.sessions.get? id =
      some ⟨id, user, now, m.deadline now⟩ := by
  simp [enroll, store, noteActive, Table.get?_insert]

end Manager

end Session

end Gatehouse
