import Gatehouse.Share.Basic
import Gatehouse.Table

/-
  Stored shares.

  A store finds shares by token and by session.  A session
  has one share at most: a later one takes the place of the
  one before.  The first to share a session holds it until
  that share is gone or expired.

  Key definitions include:
    * `Share.Store`
    * `Share.Store.save`
    * `Share.Store.claim`
    * `Share.Store.findLive`
    * `Share.Store.cleanup`
-/

namespace Gatehouse

namespace Share

/- Shares by token, and the token of each shared session. -/
structure Store where
  byToken : Table String Share
  bySession : Table String String

namespace Store

/- The store without shares. -/
def empty : Store :=
  ⟨Table.empty, Table.empty⟩

/- The number of shares. -/
def size
    (s : Store) : Nat :=
  s.byToken.size

------------------------------------------------------------
-- Changes
------------------------------------------------------------

/- Remove the share of a token. -/
def deleteToken
    (s : Store)
    (token : String) : Store :=
  match s.byToken.get? token with
  | none => s
  | some share =>
      let bySession :=
        if s.bySession.get? share.sessionId = some token then
          s.bySession.erase share.sessionId
        else
          s.bySession
      ⟨s.byToken.erase token, bySession⟩

/- Remove the share of a session. -/
def deleteSession
    (s : Store)
    (sessionId : String) : Store :=
  match s.bySession.get? sessionId with
  | none => s
  | some token =>
      ⟨s.byToken.erase token, s.bySession.erase sessionId⟩

/-
  Store a share, in place of the one that its session had
  and of the one that its token had.
-/
def save
    (s : Store)
    (share : Share) : Store :=
  let freed :=
    (s.deleteSession share.sessionId).deleteToken share.token
  ⟨freed.byToken.insert share.token share,
    freed.bySession.insert share.sessionId share.token⟩

------------------------------------------------------------
-- Questions
------------------------------------------------------------

/- The share of a token. -/
def findToken
    (s : Store)
    (token : String) : Except Fault Share :=
  match s.byToken.get? token with
  | none => .error .notFound
  | some share => .ok share

/- The share of a session, if it has one. -/
def current?
    (s : Store)
    (sessionId : String) : Option Share :=
  (s.bySession.get? sessionId).bind s.byToken.get?

/- The share of a session. -/
def findSession
    (s : Store)
    (sessionId : String) : Except Fault Share :=
  match s.current? sessionId with
  | none => .error .notFound
  | some share => .ok share

------------------------------------------------------------
-- Claims and Expiry
------------------------------------------------------------

/- Does someone else hold the session of a share? -/
def isHeldByOther
    (s : Store)
    (now : Instant)
    (share : Share) : Bool :=
  match s.current? share.sessionId with
  | none => false
  | some held =>
      held.createdBy ≠ share.createdBy &&
        !held.isExpired now

/- Store a share unless someone else holds its session. -/
def claim
    (s : Store)
    (now : Instant)
    (share : Share) : Except Fault Unit × Store :=
  if s.isHeldByOther now share then
    (.error .notFound, s)
  else
    (.ok (), s.save share)

/- The live share of a token; an expired one is removed. -/
def findLive
    (s : Store)
    (now : Instant)
    (token : String) : Except Fault Share × Store :=
  match s.byToken.get? token with
  | none => (.error .notFound, s)
  | some share =>
      if share.isExpired now then
        (.error .expired, s.deleteToken token)
      else
        (.ok share, s)

/- The tokens of the expired shares. -/
def expiredTokens
    (s : Store)
    (now : Instant) : List String :=
  (s.byToken.values.filter (·.isExpired now)).map (·.token)

/- Remove the expired shares, and say how many. -/
def cleanup
    (s : Store)
    (now : Instant) : Nat × Store :=
  let tokens := s.expiredTokens now
  (tokens.length, tokens.foldl deleteToken s)

------------------------------------------------------------
-- Lookups After Changes
------------------------------------------------------------

/- A saved share is found by its token. -/
theorem findToken_save
    (s : Store)
    (share : Share) :
    (s.save share).findToken share.token = .ok share := by
  simp [findToken, save, Table.get?_insert]

/- A saved share is found by its session. -/
theorem findSession_save
    (s : Store)
    (share : Share) :
    (s.save share).findSession share.sessionId =
      .ok share := by
  simp [findSession, current?, save, Table.get?_insert]

/- A removed token is not found. -/
theorem findToken_deleteToken
    (s : Store)
    (token : String) :
    (s.deleteToken token).findToken token =
      .error .notFound := by
  unfold deleteToken
  cases h : s.byToken.get? token with
  | none => simp [findToken, h]
  | some share => simp [findToken, Table.get?_erase]

end Store

end Share

end Gatehouse
