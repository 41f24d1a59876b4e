import Gatehouse.Share.Store
import Gatehouse.Share.Token

/-
  Issue of shares.

  A registry issues shares with drawn tokens, resolves and
  revokes tokens, and counts what it issued and what
  expired.  Only the creator of a share may revoke it;
  others learn nothing about it.

  Key definitions include:
    * `Share.Order`
    * `Share.Registry`
    * `Share.Registry.create`
    * `Share.Registry.resolve`
    * `Share.Registry.revoke`
    * `Share.Registry.cleanup`
-/

namespace Gatehouse

namespace Share

------------------------------------------------------------
-- Orders
------------------------------------------------------------

/- A wish for a share. -/
structure Order where
  sessionId : String
  createdBy : String
  /- How long the share lives; for ever if not given. -/
  lifetime : Option Span
  deriving DecidableEq, Repr

namespace Order

/- What is missing in an order. -/
def fault?
    (o : Order) : Option Fault :=
  if o.sessionId.isEmpty then
    some (.invalidInput "missing session id")
  else if o.createdBy.isEmpty then
    some (.invalidInput "missing creator")
  else
    none

/- The end date, unless no date expresses it. -/
def expiry?
    (o : Order)
    (now : Instant) : Option (Option Instant) :=
  match o.lifetime with
  | none => some none
  | some d => (now.move? d).map some

/- The share of an order. -/
def share?
    (o : Order)
    (now : Instant)
    (token : String) : Except Fault Share :=
  match o.expiry? now with
  | none => .error (.invalidInput "ttl out of range")
  | some expiry =>
      .ok
        { token := token
          sessionId := o.sessionId
          createdBy := o.createdBy
          createdAt := now
          expiresAt := expiry }

/- An order is complete if it names a session and a creator. -/
theorem fault?_eq_none_iff
    (o : Order) :
    o.fault? = none ↔ o.sessionId ≠ "" ∧ o.createdBy ≠ "" := by
  unfold fault?
  split
  · simp_all
  · split <;> simp_all

/- The share of an order says what the order says. -/
theorem share?_fields
    {o : Order}
    {now : Instant}
    {token : String}
    {x : Share}
    (h : o.share? now token = .ok x) :
    x.token = token ∧
      x.sessionId = o.sessionId ∧
        x.createdBy = o.createdBy := by
  unfold share? at h
  cases hExpiry : o.expiry? now with
  | none =>
      rw [hExpiry] at h
      cases h
  | some expiry =>
      rw [hExpiry] at h
      cases h
      exact ⟨rfl, rfl, rfl⟩

end Order

------------------------------------------------------------
-- Registries
------------------------------------------------------------

/- What a registry has counted. -/
structure Tally where
  issued : Nat
  expired : Nat
  deriving DecidableEq, Repr

/- Stored shares, the source of tokens, and counts. -/
structure Registry where
  store : Store
  minter : Token.Minter
  tally : Tally

namespace Registry

/- A registry without shares. -/
def empty : Registry :=
  ⟨Store.empty, Token.Minter.initial, ⟨0, 0⟩⟩

/- The number of shares. -/
def size
    (r : Registry) : Nat :=
  r.store.size

/- Count issued shares. -/
def countIssued
    (r : Registry)
    (n : Nat) : Registry :=
  { r with tally.issued := r.tally.issued + n }

/- Count expired shares. -/
def countExpired
    (r : Registry)
    (n : Nat) : Registry :=
  { r with tally.expired := r.tally.expired + n }

/- Store an issued share, unless its session is taken. -/
def accept
    (r : Registry)
    (now : Instant)
    (share : Share) : Except Fault Share × Registry :=
  match r.store.claim now share with
  | (.error e, store) => (.error e, { r with store := store })
  | (.ok (), store) =>
      (.ok share, { r with store := store }.countIssued 1)

/-
  Issue a share.  A draw is used exactly when nothing is
  missing in the order.
-/
def create
    (r : Registry)
    (now : Instant)
    (draw : Draw)
    (o : Order) : Except Fault Share × Registry :=
  match o.fault? with
  | some e => (.error e, r)
  | none =>
      let (token, minter) := r.minter.mint now draw
      let r' := { r with minter := minter }
      match o.share? now token with
      | .error e => (.error e, r')
      | .ok share => r'.accept now share

/- The live share of a token. -/
def resolve
    (r : Registry)
    (now : Instant)
    (token : String) : Except Fault Share × Registry :=
  match r.store.findLive now token with
  | (.error .expired, store) =>
      (.error .expired,
        { r with store := store }.countExpired 1)
  | (found, store) => (found, { r with store := store })

/- Remove the share of a token on behalf of its creator. -/
def revoke
    (r : Registry)
    (token requester : String) :
    Except Fault Unit × Registry :=
  match r.store.findToken token with
  | .error e => (.error e, r)
  | .ok share =>
      if share.createdBy = requester then
        (.ok (), { r with store := r.store.deleteToken token })
      else
        (.error .notFound, r)

/- Store a share as it is. -/
def save
    (r : Registry)
    (share : Share) : Registry :=
  { r with store := r.store.save share }

/- Remove the share of a session. -/
def deleteSession
    (r : Registry)
    (sessionId : String) : Registry :=
  { r with store := r.store.deleteSession sessionId }

/- Remove the share of a token. -/
def deleteToken
    (r : Registry)
    (token : String) : Registry :=
  { r with store := r.store.deleteToken token }

/- Remove the expired shares, and say how many. -/
def cleanup
    (r : Registry)
    (now : Instant) : Nat × Registry :=
  let (removed, store) := r.store.cleanup now
  (removed, { r with store := store }.countExpired removed)

------------------------------------------------------------
-- Refusals
------------------------------------------------------------

/- An order with something missing changes nothing. -/
theorem create_of_fault
    (r : Registry)
    (now : Instant)
    (draw : Draw)
    (o : Order)
    (e : Fault)
    (h : o.fault? = some e) :
    r.create now draw o = (.error e, r) := by
  simp [create, h]

/- A token that is not stored is not found. -/
theorem revoke_of_unknown
    (r : Registry)
    (token requester : String)
    (h : r.store.byToken.get? token = none) :
    r.revoke token requester = (.error .notFound, r) := by
  simp [revoke, Store.findToken, h]

end Registry

end Share

end Gatehouse
