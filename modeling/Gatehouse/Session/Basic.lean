import Gatehouse.Json.Value
import Gatehouse.Secret
import Gatehouse.Time.Timestamp

/-
  Sessions.

  A session belongs to a user and ends at an instant that
  only ever moves forward.  Its id is the credential that
  the client presents; the token of the provider stays
  inside.

  Key definitions include:
    * `User`
    * `Session`
    * `Session.isExpired`
    * `Session.extendTo`
    * `Session.Descriptor`
-/

namespace Gatehouse

------------------------------------------------------------
-- Users
------------------------------------------------------------

/- Who logged in. -/
structure User where
  id : String
  login : String
  name : String
  /- The token of the provider for this user. -/
  providerToken : Secret
  orgs : List String
  teams : List String
  deriving DecidableEq

/- A user as a document, without the token. -/
def User.toJson
    (u : User) : Json.Value :=
  .object
    [("user_id", .text u.id),
     ("login", .text u.login),
     ("name", .text u.name),
     ("orgs", .ofTexts u.orgs),
     ("teams", .ofTexts u.teams)]

------------------------------------------------------------
-- Sessions
------------------------------------------------------------

/- What a login opens. -/
structure Session where
  id : String
  user : User
  createdAt : Instant
  /- The last instant at which the session is live. -/
  expiresAt : Instant
  deriving DecidableEq

namespace Session

/- Is the instant later than the last one of the session? -/
def isExpired
    (s : Session)
    (now : Instant) : Bool :=
  s.expiresAt < now

/- Move the end of a session forward, never back. -/
def extendTo
    (s : Session)
    (last : Instant) : Session :=
  if s.expiresAt < last then
    { s with expiresAt := last }
  else
    s

/- What a client receives. -/
structure Descriptor where
  sessionId : String
  expiresAt : Instant
  user : User
  deriving DecidableEq

/- What a client receives of a session. -/
def descriptor
    (s : Session) : Descriptor :=
  ⟨s.id, s.expiresAt, s.user⟩

/- The kind of token that a session id is. -/
def tokenType : String :=
  "Bearer"

/- The end of a session as text. -/
def Descriptor.expiryJson
    (d : Descriptor) : Json.Value :=
  .text (Timestamp.write d.expiresAt)

/- A descriptor as a document. -/
def Descriptor.toJson
    (d : Descriptor) : Json.Value :=
  .object
    [("session_id", .text d.sessionId),
     ("access_token", .text d.sessionId),
     ("token_type", .text tokenType),
     ("expires_at", d.expiryJson),
     ("user", d.user.toJson)]

/- The end of a session never moves back. -/
theorem le_extendTo
    (s : Session)
    (last : Instant) :
    s.expiresAt ≤ (s.extendTo last).expiresAt := by
  unfold extendTo
  split
  · exact Int.le_of_lt ‹s.expiresAt < last›
  · exact Int.le_refl _

/- An extended session ends no earlier than it was to. -/
theorem le_extendTo_last
    (s : Session)
    (last : Instant) :
    last ≤ (s.extendTo last).expiresAt := by
  unfold extendTo
  split
  · exact Int.le_refl _
  · exact Int.not_lt.mp ‹¬s.expiresAt < last›

/- The id of a session stays. -/
@[simp]
theorem id_extendTo
    (s : Session)
    (last : Instant) :
    (s.extendTo last).id = s.id := by
  unfold extendTo
  split <;> rfl

/- The user of a session stays. -/
@[simp]
theorem user_extendTo
    (s : Session)
    (last : Instant) :
    (s.extendTo last).user = s.user := by
  unfold extendTo
  split <;> rfl

/- The opening of a session stays. -/
@[simp]
theorem createdAt_extendTo
    (s : Session)
    (last : Instant) :
    (s.extendTo last).createdAt = s.createdAt := by
  unfold extendTo
  split <;> rfl

end Session

end Gatehouse
