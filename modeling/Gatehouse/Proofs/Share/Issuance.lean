import Gatehouse.Proofs.History
import Gatehouse.Proofs.Share.Refinement
import Gatehouse.Share.Registry

/-
  What the calls of a registry do.

  Each call of a registry gives a reply and changes the set
  of shares that its store represents.  The rules below say
  all that a call can do; what holds of every rule holds of
  every run.

  Key definitions include:
    * `Share.Registry.Call`
    * `Share.Registry.perform`
    * `Share.Registry.Step`

  Main results include:
    * `Share.Registry.revoke_cases`
    * `Share.Registry.perform_step`
    * `Share.Registry.ordered_of_created`
    * `Share.Registry.create_of_held`
-/

namespace Gatehouse

namespace Share

namespace Registry

open Store (Reply)
open Collection (Held put)

------------------------------------------------------------
-- Calls
------------------------------------------------------------

/- What a registry can be asked to do. -/
inductive Call where
  | create (draw : Draw) (o : Order)
  | resolve (token : String)
  | findToken (token : String)
  | findSession (sessionId : String)
  | revoke (token requester : String)
  | deleteSession (sessionId : String)
  | deleteToken (token : String)
  | cleanup
  deriving DecidableEq

/- Perform a call at a time. -/
def perform
    (r : Registry)
    (now : Instant) :
    Call → Reply × Registry
  | .create draw o =>
      let (result, r') := r.create now draw o
      (result.map .share, r')
  | .resolve token =>
      let (result, r') := r.resolve now token
      (result.map .share, r')
  | .findToken token =>
      ((r.store.findToken token).map .share, r)
  | .findSession sessionId =>
      ((r.store.findSession sessionId).map .share, r)
  | .revoke token requester =>
      let (result, r') := r.revoke token requester
      (result.map (fun _ => .nothing), r')
  | .deleteSession sessionId =>
      (.ok .nothing, r.deleteSession sessionId)
  | .deleteToken token =>
      (.ok .nothing, r.deleteToken token)
  | .cleanup =>
      let (removed, r') := r.cleanup now
      (.ok (.count removed), r')

/- The registry after a call. -/
def next
    (r : Registry)
    (event : History.Event Call) : Registry :=
  (r.perform event.now event.call).2

/-
  What a call at a time gives, and what it makes of the set
  of stored shares.
-/
inductive Step
    (now : Instant) :
    Finset Share → Call → Reply → Finset Share → Prop where
  | incomplete {c draw o e}
      (hFault : Order.fault? o = some e) :
      Step now c (.create draw o) (.error e) c
  | endless {c draw o token e}
      (hFault : Order.fault? o = none)
      (hShare : Order.share? o now token = .error e) :
      Step now c (.create draw o) (.error e) c
  | held {c draw o token x}
      (hFault : Order.fault? o = none)
      (hShare : Order.share? o now token = .ok x)
      (hHeld : Held c now x) :
      Step now c (.create draw o) (.error .notFound) c
  | created {c draw o token x}
      (hFault : Order.fault? o = none)
      (hShare : Order.share? o now token = .ok x)
      (hFree : ¬Held c now x) :
      Step now c (.create draw o) (.ok (.share x)) (put c x)
  | resolved {c token x}
      (hx : x ∈ c)
      (hToken : x.token = token)
      (hLive : x.isExpired now = false) :
      Step now c (.resolve token) (.ok (.share x)) c
  | expired {c token x}
      (hx : x ∈ c)
      (hToken : x.token = token)
      (hExpired : x.isExpired now = true) :
      Step now c (.resolve token) (.error .expired)
        (c.erase x)
  | unresolved {c token}
      (hAbsent : ∀ x ∈ c, x.token ≠ token) :
      Step now c (.resolve token) (.error .notFound) c
  | foundToken {c token reply}
      (hFound :
        Collection.Step c (.findToken token) reply c) :
      Step now c (.findToken token) reply c
  | foundSession {c sessionId reply}
      (hFound :
        Collection.Step c (.findSession sessionId)
          reply c) :
      Step now c (.findSession sessionId) reply c
  | revoked {c x requester}
      (hx : x ∈ c)
      (hOwn : x.createdBy = requester) :
      Step now c (.revoke x.token requester) (.ok .nothing)
        (c.erase x)
  | notRevoked {c token requester}
      (hOthers :
        ∀ x ∈ c, x.token = token →
          x.createdBy ≠ requester) :
      Step now c (.revoke token requester)
        (.error .notFound) c
  | deletedSession {c sessionId} :
      Step now c (.deleteSession sessionId) (.ok .nothing)
        (c.filter (fun y => y.sessionId ≠ sessionId))
  | deletedToken {c token} :
      Step now c (.deleteToken token) (.ok .nothing)
        (c.filter (fun y => y.token ≠ token))
  | cleaned {c} :
      Step now c .cleanup
        (.ok (.count
          (c.filter (fun y =>
            y.isExpired now = true)).card))
        (c.filter (fun y => y.isExpired now = false))

------------------------------------------------------------
-- Each Call
------------------------------------------------------------

variable {r : Registry} {c : Finset Share}

/- Creation follows the rules. -/
theorem create_step
    (h : r.store.Represents c)
    (now : Instant)
    (draw : Draw)
    (o : Order) :
    ∃ c',
      (r.perform now (.create draw o)).2.store.Represents
          c' ∧
        Step now c (.create draw o)
          (r.perform now (.create draw o)).1 c' := by
  simp only [perform, create]
  cases hFault : o.fault? with
  | some e => exact ⟨c, h, Step.incomplete hFault⟩
  | none =>
      dsimp only
      generalize hMinted :
        (r.minter.mint now draw) = minted
      cases hShare : o.share? now minted.1 with
      | error e =>
          exact ⟨c, h, Step.endless hFault hShare⟩
      | ok x =>
          dsimp only [accept]
          by_cases hHeld : Held c now x
          · rw [(h.claim_of_held hHeld)]
            exact ⟨c, h, Step.held hFault hShare hHeld⟩
          · rw [(h.claim_of_free hHeld)]
            exact
              ⟨put c x, h.save x,
                Step.created hFault hShare hHeld⟩

/- Resolution follows the rules. -/
theorem resolve_step
    (h : r.store.Represents c)
    (now : Instant)
    (token : String) :
    ∃ c',
      (r.perform now (.resolve token)).2.store.Represents
          c' ∧
        Step now c (.resolve token)
          (r.perform now (.resolve token)).1 c' := by
  simp only [perform, resolve]
  rcases h.findLive_cases now token with
    ⟨hAbsent, hFound⟩ |
      ⟨x, hx, hToken, hLive, hFound⟩ |
        ⟨x, hx, hToken, hExpired, hFound⟩
  · rw [hFound]
    exact ⟨c, h, Step.unresolved hAbsent⟩
  · rw [hFound]
    exact ⟨c, h, Step.resolved hx hToken hLive⟩
  · rw [hFound]
    exact
      ⟨c.erase x, h.without hx,
        Step.expired hx hToken hExpired⟩

/-
  A revocation removes a share of the requester, or else
  changes nothing and finds nothing.
-/
theorem revoke_cases
    (h : r.store.Represents c)
    (token requester : String) :
    (∃ x ∈ c,
      x.token = token ∧ x.createdBy = requester ∧
        r.revoke token requester =
          (.ok (), { r with store := r.store.without x })) ∨
      (∀ x ∈ c, x.token = token → x.createdBy ≠ requester) ∧
        r.revoke token requester =
          (.error .notFound, r) := by
  unfold revoke
  rcases h.findToken_cases token with
    ⟨hAbsent, hFound⟩ | ⟨x, hx, rfl, hFound⟩
  · refine Or.inr ⟨?_, by rw [hFound]⟩
    intro x hx hToken
    exact absurd hToken (hAbsent x hx)
  · rw [hFound]
    by_cases hOwn : x.createdBy = requester
    · refine Or.inl ⟨x, hx, rfl, hOwn, ?_⟩
      simp only [hOwn, if_true, h.deleteToken_eq_without hx]
    · refine Or.inr ⟨?_, by simp only [hOwn, if_false]⟩
      intro y hy hToken
      rw [h.eq_of_token_eq hy hx hToken]
      exact hOwn

/- Revocation follows the rules. -/
theorem revoke_step
    (h : r.store.Represents c)
    (now : Instant)
    (token requester : String) :
    ∃ c',
      (r.perform now
          (.revoke token requester)).2.store.Represents
          c' ∧
        Step now c (.revoke token requester)
          (r.perform now (.revoke token requester)).1
          c' := by
  simp only [perform]
  rcases revoke_cases h token requester with
    ⟨x, hx, rfl, hOwn, hRevoked⟩ | ⟨hOthers, hRevoked⟩
  · rw [hRevoked]
    exact ⟨c.erase x, h.without hx, Step.revoked hx hOwn⟩
  · rw [hRevoked]
    exact ⟨c, h, Step.notRevoked hOthers⟩

/- Every call follows the rules. -/
theorem perform_step
    (h : r.store.Represents c)
    (now : Instant)
    (call : Call) :
    ∃ c',
      (r.perform now call).2.store.Represents c' ∧
        Step now c call (r.perform now call).1 c' := by
  cases call with
  | create draw o => exact create_step h now draw o
  | resolve token => exact resolve_step h now token
  | findToken token =>
      exact ⟨c, h, Step.foundToken (h.findToken token)⟩
  | findSession sessionId =>
      exact
        ⟨c, h, Step.foundSession (h.findSession sessionId)⟩
  | revoke token requester =>
      exact revoke_step h now token requester
  | deleteSession sessionId =>
      exact
        ⟨_, h.deleteSession sessionId, Step.deletedSession⟩
  | deleteToken token =>
      exact ⟨_, h.deleteToken token, Step.deletedToken⟩
  | cleanup =>
      refine ⟨_, h.cleanup now, ?_⟩
      simp only [perform, cleanup, h.cleanup_count]
      exact Step.cleaned

------------------------------------------------------------
-- Creation
------------------------------------------------------------

/- What is created is what was ordered, with a minted token. -/
theorem ordered_of_created
    {r : Registry}
    {now : Instant}
    {draw : Draw}
    {o : Order}
    {x : Share}
    (hCreated :
      (r.perform now (.create draw o)).1 =
        .ok (.share x)) :
    o.fault? = none ∧
      o.share? now (r.minter.mint now draw).1 = .ok x := by
  simp only [perform, create] at hCreated
  cases hFault : o.fault? with
  | some e =>
      rw [hFault] at hCreated
      cases hCreated
  | none =>
      rw [hFault] at hCreated
      dsimp only at hCreated
      cases hShare :
          o.share? now (r.minter.mint now draw).1 with
      | error e =>
          rw [hShare] at hCreated
          cases hCreated
      | ok y =>
          rw [hShare] at hCreated
          dsimp only [accept] at hCreated
          split at hCreated
          · cases hCreated
          · cases hCreated
            exact ⟨rfl, rfl⟩

/-
  While a live share of another creator holds the session,
  creation fails and leaves the store as it is.  Unless the
  order itself has a fault, the session is not found.
-/
theorem create_of_held
    (h : r.store.Represents c)
    {now : Instant}
    {o : Order}
    {y : Share}
    (hy : y ∈ c)
    (hSession : y.sessionId = o.sessionId)
    (hOther : y.createdBy ≠ o.createdBy)
    (hLive : y.isExpired now = false)
    (draw : Draw) :
    (r.create now draw o).2.store = r.store ∧
      ∃ e, (r.create now draw o).1 = .error e ∧
        (o.fault? = none →
          (o.expiry? now).isSome →
            e = .notFound) := by
  unfold create
  cases hFault : o.fault? with
  | some e => exact ⟨rfl, e, rfl, by simp⟩
  | none =>
      dsimp only
      cases hShare :
          o.share? now (r.minter.mint now draw).1 with
      | error e =>
          refine ⟨rfl, e, rfl, ?_⟩
          intro _ hExpiry
          rcases Option.isSome_iff_exists.mp hExpiry with
            ⟨expiry, hEnd⟩
          simp [Order.share?, hEnd] at hShare
      | ok x =>
          rcases Order.share?_fields hShare with
            ⟨_, hSame, hCreator⟩
          have hHeld : Held c now x := by
            refine ⟨y, hy, hSession.trans hSame.symm, ?_, hLive⟩
            rw [hCreator]
            exact hOther
          dsimp only [accept]
          rw [h.claim_of_held hHeld]
          exact ⟨rfl, .notFound, rfl, fun _ _ => rfl⟩

end Registry

end Share

end Gatehouse
