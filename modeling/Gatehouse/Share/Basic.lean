import Gatehouse.Json.Value
import Gatehouse.Time.Timestamp

/-
  Shares.

  A share is a capability: who holds its token may see one
  session, until the share expires.  A share without end
  date never expires.

  Key definitions include:
    * `Share`
    * `Share.isExpired`
    * `Share.toJson`
    * `Share.Fault`
-/

namespace Gatehouse

/- The right to see a session. -/
structure Share where
  token : String
  sessionId : String
  createdBy : String
  createdAt : Instant
  /- The last instant at which the share is live, if any. -/
  expiresAt : Option Instant
  deriving DecidableEq, Repr

namespace Share

/- Is the instant later than the last one of the share? -/
def isExpired
    (s : Share)
    (now : Instant) : Bool :=
  match s.expiresAt with
  | none => false
  | some last => last < now

/- The text of the last instant, if there is one. -/
def expiryJson
    (s : Share) : Json.Value :=
  .ofText? (s.expiresAt.map Timestamp.write)

/- A share as a document. -/
def toJson
    (s : Share) : Json.Value :=
  .object
    [("token", .text s.token),
     ("session_id", .text s.sessionId),
     ("created_by", .text s.createdBy),
     ("created_at", .text (Timestamp.write s.createdAt)),
     ("expires_at", s.expiryJson)]

------------------------------------------------------------
-- Faults
------------------------------------------------------------

/- Why a share cannot be had. -/
inductive Fault where
  | notFound
  | expired
  | invalidInput (reason : String)
  | storage (reason : String)
  deriving DecidableEq, Repr

/- The text of a fault. -/
def Fault.message :
    Fault → String
  | .notFound => "share not found"
  | .expired => "share expired"
  | .invalidInput r => "invalid input: " ++ r
  | .storage r => "share storage error: " ++ r

------------------------------------------------------------
-- Expiry
------------------------------------------------------------

/- A share without end date is never expired. -/
theorem isExpired_of_none
    (s : Share)
    (now : Instant)
    (h : s.expiresAt = none) :
    s.isExpired now = false := by
  simp [isExpired, h]

/- A share is live up to and including its last instant. -/
theorem isExpired_iff
    (s : Share)
    (now : Instant) :
    s.isExpired now = true ↔
      ∃ last, s.expiresAt = some last ∧ last < now := by
  cases h : s.expiresAt with
  | none => simp [isExpired, h]
  | some last => simp [isExpired, h]

/- A share that is live now was live before. -/
theorem isExpired_eq_false_of_le
    (s : Share)
    {earlier now : Instant}
    (hLive : s.isExpired now = false)
    (hOrder : earlier ≤ now) :
    s.isExpired earlier = false := by
  rw [← Bool.not_eq_true, isExpired_iff] at hLive ⊢
  rintro ⟨last, hLast, hBefore⟩
  exact
    hLive ⟨last, hLast,
      Instant.lt_of_lt_of_le hBefore hOrder⟩

/- A share is live while its last instant is not over. -/
theorem isExpired_eq_false_iff
    (s : Share)
    (now : Instant) :
    s.isExpired now = false ↔
      ∀ last, s.expiresAt = some last → now ≤ last := by
  rw [← Bool.not_eq_true, isExpired_iff]
  simp only [not_exists, not_and, Instant.not_lt]

end Share

end Gatehouse
