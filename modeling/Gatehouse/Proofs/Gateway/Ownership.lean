import Gatehouse.Proofs.Gateway.Requests
import Gatehouse.Proofs.Session.Lifecycle
import Gatehouse.Proofs.Share.Validity

/-
  Whose shares the gateway gives up.

  A live share stays stored, whatever requests and periodic
  tasks come, until its creator revokes it or shares the
  session anew.  Shares are only ever added in the name of
  the user whose session is presented.

  Key definitions include:
    * `Gateway.Event`
    * `Gateway.next`
    * `Gateway.Reachable`
    * `Gateway.Prompts`
    * `Gateway.Wish.InRange`

  Main results include:
    * `Gateway.Reachable.represents`
    * `Gateway.next_cases`
    * `Gateway.next_owner_bound`
-/

namespace Gatehouse

namespace Gateway

open Session.Manager (briefTerms byCode)
open Share (Registry)
open Share.Store (Represents Holds)

variable {σ : Type}

------------------------------------------------------------
-- Reachable Gateways
------------------------------------------------------------

/- What can happen to a gateway. -/
inductive Event where
  | request (o : Occasion) (r : Request)
  | sweep (now : Instant)
  | clean (now : Instant)

/- When an event happens. -/
def Event.now :
    Event → Instant
  | .request o _ => o.now
  | .sweep now => now
  | .clean now => now

/- The gateway after an event. -/
def next
    (p : Login.Provider σ)
    (g : Gateway σ) :
    Event → Gateway σ
  | .request o r => (g.handle p o r).2
  | .sweep now => g.sweepSessions now
  | .clean now => g.cleanShares now

/- A gateway that a new one becomes by events. -/
inductive Reachable
    (p : Login.Provider σ) :
    Gateway σ → Prop where
  | start
      (terms : Session.Terms)
      (provider : σ)
      (usualLifetime : Option Span)
      (tick : Nat) :
      Reachable p
        (start (Session.Manager.start terms provider)
          usualLifetime tick)
  | step {g : Gateway σ}
      (hReach : Reachable p g)
      (event : Event) :
      Reachable p (next p g event)

/- A run from a reachable gateway ends in one. -/
theorem Reachable.run
    {p : Login.Provider σ}
    (events : List Event) :
    ∀ {g : Gateway σ},
      Reachable p g →
        Reachable p (events.foldl (next p) g) := by
  induction events with
  | nil => exact fun hReach => hReach
  | cons event events ih =>
      exact fun hReach => ih (hReach.step event)

/-
  Which call of the registry an event leads to.  A request
  is answered with the status of the reply.
-/
inductive Prompts
    (p : Login.Provider σ)
    (g : Gateway σ) :
    Event → Registry.Call → Prop where
  | request {o r call success}
      (hAsks : g.Asks o r call success)
      (hStatus :
        (g.handle p o r).1.status =
          statusOf success (g.shares.perform o.now call).1) :
      Prompts p g (.request o r) call
  | clean {now} :
      Prompts p g (.clean now) .cleanup

/- An event leaves the shares alone or leads to a call. -/
theorem next_cases
    (p : Login.Provider σ)
    (g : Gateway σ)
    (event : Event) :
    (next p g event).shares = g.shares ∨
      ∃ call, Prompts p g event call ∧
        (next p g event).shares =
          (g.shares.perform event.now call).2 := by
  cases event with
  | request o r =>
      rcases concerns_handle p (g := g) (o := o) (r := r) with
        ⟨hSame, _⟩ | ⟨call, success, hAsks, hShares, hStatus⟩
      · exact Or.inl hSame
      · exact
          Or.inr
            ⟨call, Prompts.request hAsks hStatus, hShares⟩
  | sweep now => exact Or.inl rfl
  | clean now => exact Or.inr ⟨.cleanup, Prompts.clean, rfl⟩

/-
  An event leaves the set of shares alone or changes it as
  the rules of the registry say.
-/
theorem next_step
    (p : Login.Provider σ)
    {g : Gateway σ}
    {c : Finset Share}
    (h : g.shares.store.Represents c)
    (event : Event) :
    ∃ c', (next p g event).shares.store.Represents c' ∧
      (c' = c ∨
        ∃ call, Prompts p g event call ∧
          Registry.Step event.now c call
            (g.shares.perform event.now call).1 c') := by
  rcases next_cases p g event with
    hSame | ⟨call, hPrompts, hShares⟩
  · rw [hSame]
    exact ⟨c, h, Or.inl rfl⟩
  · rcases Registry.perform_step h event.now call with
      ⟨c', h', hStep⟩
    rw [hShares]
    exact ⟨c', h', Or.inr ⟨call, hPrompts, hStep⟩⟩

/- Only a request that orders a share creates one. -/
theorem Prompts.create
    {p : Login.Provider σ}
    {g : Gateway σ}
    {event : Event}
    {draw : Share.Draw}
    {order : Share.Order}
    (h : Prompts p g event (.create draw order)) :
    ∃ o r s w,
      event = .request o r ∧ draw = o.shareDraw ∧
        g.Presents r o.now s ∧ r.OrdersShare w ∧
          order.sessionId = w.sessionId ∧
            order.createdBy = s.user.id ∧
              (g.handle p o r).1.status =
                statusOf 201
                  (g.shares.perform o.now
                    (.create draw order)).1 := by
  cases h with
  | @request o r _ _ hAsks hStatus =>
      cases hAsks with
      | @order s w lifetime hPresents hOrders _ =>
          exact
            ⟨o, r, s, w, rfl, rfl, hPresents, hOrders, rfl,
              rfl, hStatus⟩

/- Only a request that revokes a share revokes one. -/
theorem Prompts.revoke
    {p : Login.Provider σ}
    {g : Gateway σ}
    {event : Event}
    {token requester : String}
    (h : Prompts p g event (.revoke token requester)) :
    ∃ o r s,
      event = .request o r ∧ g.Presents r o.now s ∧
        r.RevokesShare token ∧ requester = s.user.id ∧
          (g.handle p o r).1.status =
            statusOf 200
              (g.shares.perform o.now
                (.revoke token requester)).1 := by
  cases h with
  | @request o r _ _ hAsks hStatus =>
      cases hAsks with
      | @revoke s _ hPresents hRevokes =>
          exact
            ⟨o, r, s, rfl, hPresents, hRevokes, rfl, hStatus⟩

------------------------------------------------------------
-- Shares That Come
------------------------------------------------------------

section Sets

variable {p : Login.Provider σ}
variable {g : Gateway σ}
variable {c c' : Finset Share}
variable {event : Event}

/-
  A share that comes was ordered by the request, for a
  session and in the name of who presents a live session.
-/
theorem request_of_added
    (h : g.shares.store.Represents c)
    (h' : (next p g event).shares.store.Represents c')
    {y : Share}
    (hy : y ∈ c')
    (hNew : y ∉ c) :
    ∃ o r s w,
      event = .request o r ∧ g.Presents r o.now s ∧
        r.OrdersShare w ∧ y.sessionId = w.sessionId ∧
          y.sessionId ≠ "" ∧ y.createdBy = s.user.id ∧
            (g.handle p o r).1.status = 201 := by
  rcases next_step p h event with ⟨c'', h'', hChange⟩
  rw [h'.unique h''] at hy
  rcases hChange with rfl | ⟨call, hPrompts, hStep⟩
  · exact absurd hy hNew
  · have hIssued := (hStep.issued_or_mem hy).resolve_right hNew
    rcases Registry.create_of_issued hIssued with
      ⟨draw, order, rfl, hReply⟩
    rcases Registry.ordered_of_created hReply with
      ⟨hFault, hShare⟩
    rcases Share.Order.share?_fields hShare with
      ⟨_, hSession, hCreator⟩
    rcases hPrompts.create with
      ⟨o, r, s, w, rfl, _, hPresents, hOrders, hWished,
        hUser, hStatus⟩
    refine
      ⟨o, r, s, w, rfl, hPresents, hOrders,
        hSession.trans hWished, ?_, hCreator.trans hUser, ?_⟩
    · rw [hSession]
      exact (order.fault?_eq_none_iff.mp hFault).1
    · rw [hStatus]
      dsimp only [Event.now] at hReply
      rw [hReply]
      rfl

------------------------------------------------------------
-- Shares That Go
------------------------------------------------------------

/- Is the token new that an order of a share would mint? -/
def Event.MintsNew
    (g : Gateway σ) :
    Event → Prop
  | .request o r =>
      ∀ w, r.OrdersShare w →
        g.shares.store.byToken.get?
          (g.shares.minter.mint o.now o.shareDraw).1 = none
  | _ => True

/- What an event creates has a token of its own. -/
theorem token_ne_of_issued
    (h : g.shares.store.Represents c)
    (hMints : event.MintsNew g)
    {call : Registry.Call}
    (hPrompts : Prompts p g event call)
    {x y : Share}
    (hx : x ∈ c)
    (hIssued :
      Registry.issued?
        (g.shares.perform event.now call).1 call = some y) :
    y.token ≠ x.token := by
  rcases Registry.create_of_issued hIssued with
    ⟨draw, order, rfl, hReply⟩
  rcases Registry.ordered_of_created hReply with
    ⟨_, hShare⟩
  rw [(Share.Order.share?_fields hShare).1]
  rcases hPrompts.create with
    ⟨o, r, s, w, rfl, rfl, _, hOrders, _⟩
  have hAbsent := hMints w hOrders
  rw [h.token_eq_none_iff] at hAbsent
  exact (hAbsent x hx).symm

/-
  A live share that goes was revoked under its token, or its
  session was shared anew; and whoever asked for it presents
  a live session of its creator.
-/
theorem request_of_lost
    (h : g.shares.store.Represents c)
    (h' : (next p g event).shares.store.Represents c')
    (hMints : event.MintsNew g)
    {x : Share}
    (hx : x ∈ c)
    (hLive : x.isExpired event.now = false)
    (hLost : x ∉ c') :
    ∃ o r s,
      event = .request o r ∧ g.Presents r o.now s ∧
        s.user.id = x.createdBy ∧
          (r.RevokesShare x.token ∧
              (g.handle p o r).1.status = 200 ∨
            ∃ w, r.OrdersShare w ∧
              w.sessionId = x.sessionId ∧
                (g.handle p o r).1.status = 201) := by
  rcases next_step p h event with ⟨c'', h'', hChange⟩
  rw [h'.unique h''] at hLost
  rcases hChange with rfl | ⟨call, hPrompts, hStep⟩
  · exact absurd hx hLost
  · have hEnds :
        Registry.Ends x
          (g.shares.perform event.now call).1 call := by
      by_contra hNoEnd
      refine hLost (hStep.mem_of_live hx hLive hNoEnd ?_)
      intro y hIssued
      exact token_ne_of_issued h hMints hPrompts hx hIssued
    have hCreator :=
      hStep.creator_of_ends h.distinct hx hLive hEnds
    cases call with
    | create draw order =>
        rcases hEnds with ⟨y, hReply, hSession⟩
        rcases Registry.ordered_of_created hReply with
          ⟨_, hShare⟩
        rcases Share.Order.share?_fields hShare with
          ⟨_, hOrdered, hOrderer⟩
        rcases hPrompts.create with
          ⟨o, r, s, w, rfl, _, hPresents, hOrders, hWished,
            hUser, hStatus⟩
        refine ⟨o, r, s, rfl, hPresents, ?_, Or.inr ?_⟩
        · have hSame := hCreator.1 draw order rfl y hReply
          rw [hSame, hOrderer, hUser]
        · refine ⟨w, hOrders, ?_, ?_⟩
          · rw [← hWished, ← hOrdered, hSession]
          · dsimp only [Event.now] at hReply
            rw [hStatus, hReply]
            rfl
    | revoke token requester =>
        rcases hEnds with ⟨rfl, hReply⟩
        rcases hPrompts.revoke with
          ⟨o, r, s, rfl, hPresents, hRevokes, hUser, hStatus⟩
        refine
          ⟨o, r, s, rfl, hPresents, ?_,
            Or.inl ⟨hRevokes, ?_⟩⟩
        · rw [hCreator.2 _ _ rfl, hUser]
        · dsimp only [Event.now] at hReply
          rw [hStatus, hReply]
          rfl
    | deleteSession sessionId =>
        cases hPrompts with
        | request hAsks _ => cases hAsks
    | deleteToken token =>
        cases hPrompts with
        | request hAsks _ => cases hAsks
    | _ => exact absurd hEnds id

------------------------------------------------------------
-- Shares That Are Held
------------------------------------------------------------

/- Is the lifetime of a wish, if any, short enough to end? -/
def Wish.InRange
    (w : Wish)
    (usual : Option Span)
    (now : Instant) : Prop :=
  ∀ d, w.span usual = some d →
    d ≤ Span.longest ∧ (now.move? d).isSome

/- The lifetime of a wish is what it asks for. -/
theorem Wish.eq_span_of_lifetime?
    {w : Wish}
    {usual lifetime : Option Span}
    (h : w.lifetime? usual = some lifetime) :
    lifetime = w.span usual := by
  unfold lifetime? at h
  split at h
  next hSpan => rw [hSpan, Option.some.inj h]
  next d hSpan =>
    split at h
    · rw [hSpan, Option.some.inj h]
    · cases h

/- A wish in range has a lifetime. -/
theorem Wish.InRange.lifetime?_ne_none
    {w : Wish}
    {usual : Option Span}
    {now : Instant}
    (h : w.InRange usual now) :
    w.lifetime? usual ≠ none := by
  unfold lifetime?
  cases hSpan : w.span usual with
  | none => simp
  | some d => simp [(h d hSpan).1]

/- An order over a lifetime in range has an end date. -/
theorem Wish.InRange.isSome_expiry?
    {w : Wish}
    {usual : Option Span}
    {now : Instant}
    (h : w.InRange usual now)
    (sessionId creator : String) :
    (Share.Order.expiry?
      ⟨sessionId, creator, w.span usual⟩ now).isSome := by
  unfold Share.Order.expiry?
  dsimp only
  cases hSpan : w.span usual with
  | none => rfl
  | some d => simpa using (h d hSpan).2

/-
  While a share is live, nobody but its creator can share
  its session: the store stays as it is, and an order that
  is otherwise in order is told that there is no share.
-/
theorem handle_of_held
    (p : Login.Provider σ)
    (h : g.shares.store.Represents c)
    {o : Occasion}
    {r : Request}
    {w : Wish}
    {x : Share}
    (hOrders : r.OrdersShare w)
    (hx : x ∈ c)
    (hNamed : x.sessionId ≠ "")
    (hLive : x.isExpired o.now = false)
    (hSession : w.sessionId = x.sessionId)
    (hOthers :
      ∀ s, g.Presents r o.now s → s.user.id ≠ x.createdBy) :
    400 ≤ (g.handle p o r).1.status ∧
      (g.handle p o r).2.shares.store = g.shares.store ∧
        ∀ s, g.Presents r o.now s →
          s.user.id ≠ "" →
            w.InRange g.usualLifetime o.now →
              (g.handle p o r).1.status = 404 := by
  rcases concerns_handle p (g := g) (o := o) (r := r) with
    ⟨hSame, hRefused⟩ | ⟨call, success, hAsks, hShares, hStatus⟩
  · rcases hRefused w hOrders with ⟨hBad, hWhy⟩
    refine ⟨hBad, by rw [hSame], ?_⟩
    intro s hPresents _ hInRange
    rcases hWhy with hNone | hNoLifetime
    · exact absurd hPresents (hNone s)
    · exact absurd hNoLifetime hInRange.lifetime?_ne_none
  · rw [hShares, hStatus]
    cases hAsks with
    | @order s w' lifetime hPresents hOrders' hLifetime =>
        have hWish : w' = w :=
          Option.some.inj
            (hOrders'.2.2.symm.trans hOrders.2.2)
        rw [hWish] at hLifetime ⊢
        have hSpan := Wish.eq_span_of_lifetime? hLifetime
        have hOther : x.createdBy ≠ s.user.id :=
          (hOthers s hPresents).symm
        rcases Registry.create_of_held h hx
            (o := ⟨w.sessionId, s.user.id, lifetime⟩)
            hSession.symm hOther hLive o.shareDraw with
          ⟨hStore, e, hReply, hNotFound⟩
        dsimp only [Registry.perform]
        rw [hReply]
        refine ⟨Problem.le_status _, hStore, ?_⟩
        intro s' hPresents' hUser hInRange
        rw [hPresents'.unique hPresents] at hUser
        rw [hNotFound]
        · rfl
        · rw [Share.Order.fault?_eq_none_iff]
          refine ⟨?_, hUser⟩
          rw [hSession]
          exact hNamed
        · rw [hSpan]
          exact hInRange.isSome_expiry? _ _
    | resolve hNoOrder => exact absurd hOrders (hNoOrder w)
    | revoke _ hRevokes =>
        have hMethods := hOrders.1.symm.trans hRevokes.1
        exact absurd hMethods (by decide)

end Sets

------------------------------------------------------------
-- Whole Histories
------------------------------------------------------------

/-
  The store of a reachable gateway represents a set of
  shares, each of them of a session with a name.
-/
theorem Reachable.represents
    {p : Login.Provider σ}
    {g : Gateway σ}
    (hReach : Reachable p g) :
    ∃ c, g.shares.store.Represents c ∧
      ∀ x ∈ c, x.sessionId ≠ "" := by
  induction hReach with
  | start => exact ⟨∅, Share.Store.represents_empty, by simp⟩
  | @step g _ event ih =>
      rcases ih with ⟨c, h, hNamed⟩
      rcases next_step p h event with ⟨c', h', _⟩
      refine ⟨c', h', ?_⟩
      intro y hy
      by_cases hOld : y ∈ c
      · exact hNamed y hOld
      · rcases request_of_added h h' hy hOld with
          ⟨_, _, _, _, _, _, _, _, hName, _⟩
        exact hName

/-
  Shares belong to their creators, whatever the gateway went
  through.  A live share goes only if a session of its
  creator is presented, to revoke it or to share anew.  A
  share comes only in the name of whose session is presented.
  An order by anybody else for the session of a live share
  fails and leaves the store as it is.
-/
theorem next_owner_bound
    (p : Login.Provider σ)
    {g : Gateway σ}
    (hReach : Reachable p g)
    (event : Event) :
    (event.MintsNew g →
      ∀ x, g.shares.store.Holds x →
        x.isExpired event.now = false →
          ¬(next p g event).shares.store.Holds x →
            ∃ o r s,
              event = .request o r ∧
                g.Presents r o.now s ∧
                  s.user.id = x.createdBy ∧
                    (r.RevokesShare x.token ∧
                        (g.handle p o r).1.status = 200 ∨
                      ∃ w, r.OrdersShare w ∧
                        w.sessionId = x.sessionId ∧
                          (g.handle p o r).1.status =
                            201)) ∧
      (∀ y, (next p g event).shares.store.Holds y →
        ¬g.shares.store.Holds y →
          ∃ o r s,
            event = .request o r ∧
              g.Presents r o.now s ∧
                y.createdBy = s.user.id ∧
                  (g.handle p o r).1.status = 201 ∧
                    ∃ w, r.OrdersShare w ∧
                      w.sessionId = y.sessionId) ∧
        ∀ o r w x,
          event = .request o r →
            g.shares.store.Holds x →
              x.isExpired o.now = false →
                r.OrdersShare w →
                  w.sessionId = x.sessionId →
                    (∀ s, g.Presents r o.now s →
                        s.user.id ≠ x.createdBy) →
                      400 ≤ (g.handle p o r).1.status ∧
                        (next p g event).shares.store =
                            g.shares.store ∧
                          ∀ s, g.Presents r o.now s →
                            s.user.id ≠ "" →
                              w.InRange g.usualLifetime
                                  o.now →
                                (g.handle p o r).1.status =
                                  404 := by
  rcases hReach.represents with ⟨c, h, hNamed⟩
  rcases next_step p h event with ⟨c', h', _⟩
  simp only [← h.mem_iff, ← h'.mem_iff]
  refine ⟨?_, ?_, ?_⟩
  · intro hMints x hx hLive hLost
    exact request_of_lost h h' hMints hx hLive hLost
  · intro y hy hNew
    rcases request_of_added h h' hy hNew with
      ⟨o, r, s, w, hEvent, hPresents, hOrders, hSession, _,
        hCreator, hStatus⟩
    exact
      ⟨o, r, s, hEvent, hPresents, hCreator, hStatus, w,
        hOrders, hSession.symm⟩
  · rintro o r w x rfl hx hLive hOrders hSession hOthers
    exact
      handle_of_held p h hOrders hx (hNamed x hx) hLive
        hSession hOthers

/- An occasion at which one octet is drawn all the time. -/
def drawing
    (octet : UInt8) : Occasion :=
  ⟨⟨0⟩, 0, Vector.replicate 32 octet,
    some (Vector.replicate 16 octet), "", 0⟩

/- The return of a person from the provider. -/
def returnOf
    (user : String) : Request :=
  ⟨"GET",
    .ofChars ("/auth/callback?state=s&code=" ++ user).toList,
    [], []⟩

/- An order of a share by who logged in at an occasion. -/
def orderOf
    (login : Occasion) : Request :=
  ⟨"POST", .ofChars "/shares".toList,
    [⟨"x-session-id", Utf8.encode login.sessionId⟩],
    Utf8.encode "[\"s\"]"⟩

/- A gateway at which one of two users shared a session. -/
def sharedByAnn : Gateway Unit :=
  [Event.request (drawing 1) (returnOf "ann"),
   .request (drawing 2) (returnOf "bob"),
   .request (drawing 1) (orderOf (drawing 1))].foldl
    (next byCode)
    (start (Session.Manager.start briefTerms ()) none 0)

/- The other user cannot take the session over. -/
theorem handle_orderOf_bob :
    Reachable byCode sharedByAnn ∧
      (sharedByAnn.handle byCode (drawing 2)
          (orderOf (drawing 2))).1.status = 404 ∧
        (next byCode sharedByAnn
            (.request (drawing 2)
              (orderOf (drawing 2)))).shares.store =
          sharedByAnn.shares.store := by
  have hReach : Reachable byCode sharedByAnn :=
    Reachable.run _ (Reachable.start _ _ _ _)
  let x : Share :=
    ⟨Share.Token.ofOctets (Vector.replicate 16 1), "s",
      "ann", ⟨0⟩, none⟩
  let bob : Session :=
    ⟨(drawing 2).sessionId,
      ⟨"bob", "bob", "bob", .hide "", [], []⟩, ⟨0⟩, ⟨10⟩⟩
  have hHolds : sharedByAnn.shares.store.Holds x := by
    unfold Share.Store.Holds
    decide +kernel
  have hPresents :
      sharedByAnn.Presents (orderOf (drawing 2))
        (drawing 2).now bob := by
    refine ⟨(drawing 2).sessionId, ?_, ?_, ?_⟩ <;>
      decide +kernel
  have hOrders :
      (orderOf (drawing 2)).OrdersShare ⟨"s", none⟩ := by
    refine ⟨rfl, ?_, ?_⟩ <;> decide +kernel
  have hOthers :
      ∀ s,
        sharedByAnn.Presents (orderOf (drawing 2))
            (drawing 2).now s →
          s.user.id ≠ x.createdBy := by
    intro s hOther
    rw [hOther.unique hPresents]
    decide
  have hRefused :=
    (next_owner_bound byCode hReach
      (.request (drawing 2) (orderOf (drawing 2)))).2.2
      (drawing 2) (orderOf (drawing 2)) ⟨"s", none⟩ x rfl
      hHolds rfl hOrders rfl hOthers
  have hInRange :
      Wish.InRange ⟨"s", none⟩ sharedByAnn.usualLifetime
        (drawing 2).now := by
    have hUsual : sharedByAnn.usualLifetime = none := by
      decide +kernel
    rw [hUsual]
    intro d hSpan
    cases hSpan
  refine ⟨hReach, ?_, hRefused.2.1⟩
  exact hRefused.2.2 bob hPresents (by decide) hInRange

end Gateway

end Gatehouse
