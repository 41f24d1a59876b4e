import Gatehouse.Proofs.Gateway.Capabilities
import Gatehouse.Proofs.Gateway.Likeness
import Gatehouse.Proofs.Json.RoundTrip

/-
  How long an ordered share lives.

  An order over seconds is granted to the nanosecond or
  refused.  What is granted is shown, whatever the gateway
  goes through, up to and including its last instant, and
  never after it, unless it is revoked or another share
  takes its place.

  Key definitions include:
    * `Gateway.Event.Ends`
    * `Gateway.Lasts`
    * `Gateway.Grants`

  Main results include:
    * `Gateway.run_of_lasts`
    * `Gateway.exists_grants`
    * `Gateway.order_exact_or_refused`
-/

namespace Gatehouse

------------------------------------------------------------
-- Creation
------------------------------------------------------------

namespace Share

namespace Registry

open Collection (Held put)

variable {r : Registry} {c : Finset Share}
variable {now : Instant} {draw : Draw} {o : Order}

/- An order of a free session is fulfilled. -/
theorem create_of_free
    (h : r.store.Represents c)
    {x : Share}
    (hFault : o.fault? = none)
    (hShare :
      o.share? now (r.minter.mint now draw).1 = .ok x)
    (hFree : ¬Held c now x) :
    (r.create now draw o).1 = .ok x ∧
      (r.create now draw o).2.store.Represents (put c x) := by
  unfold create
  rw [hFault]
  dsimp only
  rw [hShare]
  dsimp only [accept]
  rw [h.claim_of_free hFree]
  exact ⟨rfl, h.save x⟩

/- An order that no date can end is refused. -/
theorem create_of_endless
    (r : Registry)
    (draw : Draw)
    (hFault : o.fault? = none)
    (hExpiry : o.expiry? now = none) :
    (r.create now draw o).1 =
        .error (.invalidInput "ttl out of range") ∧
      (r.create now draw o).2.store = r.store := by
  unfold create Order.share?
  rw [hFault, hExpiry]
  exact ⟨rfl, rfl⟩

end Registry

end Share

namespace Gateway

open Session.Manager (byCode briefTerms)
open Share (Registry)
open Share.Token (IsToken)

variable {σ : Type}
variable {p : Login.Provider σ}
variable {g : Gateway σ}

------------------------------------------------------------
-- Runs
------------------------------------------------------------

/-
  Does an event put an end to a share?  It is revoked, or
  another one is issued for its session or with its token.
-/
def Event.Ends
    (p : Login.Provider σ)
    (g : Gateway σ)
    (x : Share) :
    Event → Prop
  | .request o r =>
      r.RevokesShare x.token ∧
          (g.handle p o r).1.status = 200 ∨
        ∃ w, r.OrdersShare w ∧
          (g.handle p o r).1.status = 201 ∧
            (w.sessionId = x.sessionId ∨
              (g.shares.minter.mint o.now o.shareDraw).1 =
                x.token)
  | _ => False

/- Does no event of a run put an end to a share? -/
def Lasts
    (p : Login.Provider σ)
    (g : Gateway σ)
    (x : Share)
    (events : List Event) : Prop :=
  ∀ (n : Nat) (event : Event),
    events[n]? = some event →
      ¬event.Ends p (run p g (events.take n)) x

section Runs

variable {c c' : Finset Share}
variable {x : Share}
variable {event : Event}
variable {events : List Event}

/- What lasts over a run lasts over its first event. -/
theorem Lasts.head
    (h : Lasts p g x (event :: events)) :
    ¬event.Ends p g x :=
  h 0 event rfl

/- What lasts over a run lasts over its later events. -/
theorem Lasts.tail
    (h : Lasts p g x (event :: events)) :
    Lasts p (next p g event) x events :=
  fun n later hLater => h (n + 1) later hLater

/- What the registry is asked to end is ended. -/
theorem Prompts.ends
    {call : Registry.Call}
    (hPrompts : Prompts p g event call)
    (hEnds :
      Registry.Ends x
        (g.shares.perform event.now call).1 call) :
    event.Ends p g x := by
  cases call with
  | create draw order =>
      rcases hEnds with ⟨y, hReply, hSession⟩
      rcases Registry.ordered_of_created hReply with
        ⟨_, hShare⟩
      rcases Share.Order.share?_fields hShare with
        ⟨_, hOrdered, _⟩
      rcases hPrompts.create with
        ⟨o, r, s, w, rfl, _, _, hOrders, hWished, _, hStatus⟩
      refine Or.inr ⟨w, hOrders, ?_, Or.inl ?_⟩
      · dsimp only [Event.now] at hReply
        rw [hStatus, hReply]
        rfl
      · rw [← hWished, ← hOrdered, hSession]
  | revoke token requester =>
      rcases hEnds with ⟨rfl, hReply⟩
      rcases hPrompts.revoke with
        ⟨o, r, s, rfl, _, hRevokes, _, hStatus⟩
      refine Or.inl ⟨hRevokes, ?_⟩
      dsimp only [Event.now] at hReply
      rw [hStatus, hReply]
      rfl
  | deleteSession sessionId =>
      cases hPrompts with
      | request hAsks _ => cases hAsks
  | deleteToken token =>
      cases hPrompts with
      | request hAsks _ => cases hAsks
  | _ => exact absurd hEnds id

/- What is issued with the token of a share ends the share. -/
theorem Prompts.ends_of_issued
    {call : Registry.Call}
    (hPrompts : Prompts p g event call)
    {y : Share}
    (hIssued :
      Registry.issued?
        (g.shares.perform event.now call).1 call = some y)
    (hToken : y.token = x.token) :
    event.Ends p g x := by
  rcases Registry.create_of_issued hIssued with
    ⟨draw, order, rfl, hReply⟩
  rcases Registry.ordered_of_created hReply with ⟨_, hShare⟩
  have hMinted := (Share.Order.share?_fields hShare).1
  rcases hPrompts.create with
    ⟨o, r, s, w, rfl, rfl, _, hOrders, _, _, hStatus⟩
  refine Or.inr ⟨w, hOrders, ?_, Or.inr ?_⟩
  · dsimp only [Event.now] at hReply
    rw [hStatus, hReply]
    rfl
  · rw [← hToken, hMinted]
    rfl

/- A live share that is not ended stays. -/
theorem mem_next
    (h : g.shares.store.Represents c)
    (h' : (next p g event).shares.store.Represents c')
    (hEnds : ¬event.Ends p g x)
    (hx : x ∈ c)
    (hLive : x.isExpired event.now = false) :
    x ∈ c' := by
  rcases next_step p h event with ⟨c'', h'', hChange⟩
  rw [h'.unique h'']
  rcases hChange with rfl | ⟨call, hPrompts, hStep⟩
  · exact hx
  · apply hStep.mem_of_live hx hLive
    · intro hEnded
      exact hEnds (hPrompts.ends hEnded)
    · intro y hIssued hToken
      exact hEnds (hPrompts.ends_of_issued hIssued hToken)

/- No other share gets the token of one that is not ended. -/
theorem eq_of_mem_next
    (h : g.shares.store.Represents c)
    (h' : (next p g event).shares.store.Represents c')
    (hEnds : ¬event.Ends p g x)
    (hOnly : ∀ y ∈ c, y.token = x.token → y = x)
    {y : Share}
    (hy : y ∈ c')
    (hToken : y.token = x.token) :
    y = x := by
  rcases next_step p h event with ⟨c'', h'', hChange⟩
  rw [h'.unique h''] at hy
  rcases hChange with rfl | ⟨call, hPrompts, hStep⟩
  · exact hOnly y hy hToken
  · rcases hStep.issued_or_mem hy with hIssued | hOld
    · exact
        absurd (hPrompts.ends_of_issued hIssued hToken) hEnds
    · exact hOnly y hOld hToken

/-
  Over a run that does not put an end to a share, no other
  one gets its token; and the share stays, unless the run
  comes to a time at which it is expired.
-/
theorem run_of_lasts
    (p : Login.Provider σ)
    (events : List Event) :
    ∀ {g : Gateway σ} {c : Finset Share},
      g.shares.store.Represents c →
        (∀ y ∈ c, y.token = x.token → y = x) →
          Lasts p g x events →
            ∃ c',
              (run p g events).shares.store.Represents c' ∧
                (∀ y ∈ c', y.token = x.token → y = x) ∧
                  (x ∈ c →
                    (∀ event ∈ events,
                        x.isExpired event.now = false) →
                      x ∈ c') := by
  induction events with
  | nil =>
      intro g c h hOnly _
      exact ⟨c, h, hOnly, fun hx _ => hx⟩
  | cons event events ih =>
      intro g c h hOnly hLasts
      rcases next_step p h event with ⟨c₁, h₁, _⟩
      have hOnly₁ :
          ∀ y ∈ c₁, y.token = x.token → y = x :=
        fun y hy hToken =>
          eq_of_mem_next h h₁ hLasts.head hOnly hy hToken
      rcases ih h₁ hOnly₁ hLasts.tail with
        ⟨c', h', hOnly', hStays⟩
      refine ⟨c', h', hOnly', ?_⟩
      intro hx hLive
      rcases List.forall_mem_cons.mp hLive with
        ⟨hNow, hLater⟩
      exact hStays (mem_next h h₁ hLasts.head hx hNow) hLater

end Runs

------------------------------------------------------------
-- Showing
------------------------------------------------------------

section Showing

variable {c : Finset Share}
variable {x : Share}
variable {r : Request}

/- The path of a token leads to its share. -/
theorem resolvesShare_of_isToken
    {token : String}
    (hToken : IsToken token)
    (hMethod : r.method = "GET" ∨ r.method = "HEAD")
    (hPath :
      r.target.path = "/shares/".toList ++ token.toList) :
    r.ResolvesShare token :=
  ⟨hMethod, token.toList, hPath,
    segmentText?_of_urlSafe hToken.isUrlSafe⟩

/- A live share is shown to who knows its token. -/
theorem handle_resolve_of_live
    (p : Login.Provider σ)
    (h : g.shares.store.Represents c)
    {o : Occasion}
    (hToken : IsToken x.token)
    (hx : x ∈ c)
    (hLive : x.isExpired o.now = false)
    (hResolves : r.ResolvesShare x.token) :
    (g.handle p o r).1 =
      (Response.document 200 (publicJson x)).forMethod
        r.method := by
  have hFound :=
    (Registry.resolve_eq_ok_iff h o.now x.token x).mpr
      ⟨hx, rfl, hLive⟩
  rw [(handle_of_resolves p g o hToken.isUrlSafe
    hToken.ne_empty hResolves).1]
  unfold resolveShare
  dsimp only
  rw [hFound]

/- What is expired is not shown. -/
theorem handle_resolve_of_expired
    (p : Login.Provider σ)
    (h : g.shares.store.Represents c)
    {o : Occasion}
    (hToken : IsToken x.token)
    (hOnly : ∀ y ∈ c, y.token = x.token → y = x)
    (hExpired : x.isExpired o.now = true)
    (hResolves : r.ResolvesShare x.token) :
    (g.handle p o r).1.status = 401 ∨
      (g.handle p o r).1.status = 404 := by
  rw [(handle_of_resolves p g o hToken.isUrlSafe
    hToken.ne_empty hResolves).1, Response.status_forMethod]
  unfold resolveShare
  dsimp only
  cases hReply : (g.shares.resolve o.now x.token).1 with
  | ok y =>
      rcases (Registry.resolve_eq_ok_iff h _ _ _).mp hReply
        with ⟨hy, hSame, hLive⟩
      rw [hOnly y hy hSame, hExpired] at hLive
      cases hLive
  | error e =>
      rcases Registry.resolve_eq_error h hReply with
        ⟨rfl, _⟩ | ⟨rfl, _⟩
      · exact Or.inr rfl
      · exact Or.inl rfl

end Showing

------------------------------------------------------------
-- Orders
------------------------------------------------------------

section Orders

variable {o : Occasion}
variable {r : Request}
variable {w : Wish}
variable {s : Session}

/- An order in the name of a user goes to the registry. -/
theorem handle_of_order
    (p : Login.Provider σ)
    (hOrders : r.OrdersShare w)
    (hPresents : g.Presents r o.now s) :
    (g.handle p o r).1 = (g.orderShare o s.user w).1 ∧
      (g.handle p o r).2.shares =
        (g.orderShare o s.user w).2.shares := by
  have hServed :
      ∃ sessions,
        { g with served := g.served + 1 }.serve p o r =
          { g with
            served := g.served + 1
            sessions := sessions }.orderShare o s.user w := by
    rw [serve_of_task? p _ o r hOrders.task?_eq]
    dsimp only [perform]
    rcases authenticate_cases
        { g with served := g.served + 1 } o r with
      ⟨sessions, ⟨hNone, _⟩ | ⟨s', hPresents', hPassed⟩⟩
    · exact absurd hPresents (hNone s)
    · rw [createShare, hPassed]
      dsimp only
      rw [hOrders.2.2, hPresents.unique hPresents']
      exact ⟨sessions, rfl⟩
  rcases hServed with ⟨sessions, hServed⟩
  unfold handle
  dsimp only
  rw [hServed, hOrders.1]
  unfold orderShare
  dsimp only
  cases w.lifetime? g.usualLifetime with
  | none => exact ⟨rfl, rfl⟩
  | some lifetime =>
      dsimp only
      cases (g.shares.create o.now o.shareDraw
          ⟨w.sessionId, s.user.id, lifetime⟩).1 with
      | error e => exact ⟨rfl, rfl⟩
      | ok x => exact ⟨rfl, rfl⟩

/-
  What an order of a share for a user gives and leads to if
  it is granted.
-/
structure Grants
    (p : Login.Provider σ)
    (g : Gateway σ)
    (o : Occasion)
    (r : Request)
    (sessionId user : String)
    (x : Share) : Prop where
  response :
    (g.handle p o r).1 = .document 201 x.toJson
  stored :
    (g.handle p o r).2.shares.store.Holds x
  session : x.sessionId = sessionId
  creator : x.createdBy = user
  creation : x.createdAt = o.now
  /- The path of the token leads to the share. -/
  found :
    ∀ r' : Request,
      r'.method = "GET" ∨ r'.method = "HEAD" →
        r'.target.path =
            "/shares/".toList ++ x.token.toList →
          r'.ResolvesShare x.token
  /- It is shown up to and including its last instant. -/
  shown :
    ∀ (events : List Event) (o' : Occasion) (r' : Request),
      Lasts p (g.handle p o r).2 x events →
        (∀ last, x.expiresAt = some last →
            o'.now ≤ last ∧
              ∀ event ∈ events, event.now ≤ last) →
          r'.ResolvesShare x.token →
            ((run p (g.handle p o r).2 events).handle
                p o' r').1 =
              (Response.document 200
                (publicJson x)).forMethod r'.method
  /- It is not shown at any later instant. -/
  hidden :
    ∀ (events : List Event) (o' : Occasion) (r' : Request),
      Lasts p (g.handle p o r).2 x events →
        (∃ last, x.expiresAt = some last ∧ last < o'.now) →
          r'.ResolvesShare x.token →
            ((run p (g.handle p o r).2 events).handle
                  p o' r').1.status = 401 ∨
              ((run p (g.handle p o r).2 events).handle
                  p o' r').1.status = 404

/- What is stored with a minted token is granted. -/
theorem grants_of_stored
    {c : Finset Share}
    {x : Share}
    (hStored :
      (g.handle p o r).2.shares.store.Represents c)
    (hx : x ∈ c)
    (hToken : IsToken x.token)
    (hResponse :
      (g.handle p o r).1 = .document 201 x.toJson)
    (hCreation : x.createdAt = o.now) :
    Grants p g o r x.sessionId x.createdBy x := by
  have hOnly : ∀ y ∈ c, y.token = x.token → y = x :=
    fun y hy hSame => hStored.eq_of_token_eq hy hx hSame
  refine
    { response := hResponse
      stored := (hStored.mem_iff x).mp hx
      session := rfl
      creator := rfl
      creation := hCreation
      found := fun r' hMethod hPath =>
        resolvesShare_of_isToken hToken hMethod hPath
      shown := ?_
      hidden := ?_ }
  · intro events o' r' hLasts hTimes hResolves
    rcases run_of_lasts p events hStored hOnly hLasts with
      ⟨c', h', _, hStays⟩
    have hLive : x.isExpired o'.now = false := by
      rw [x.isExpired_eq_false_iff]
      exact fun last hLast => (hTimes last hLast).1
    have hThroughout :
        ∀ event ∈ events,
          x.isExpired event.now = false := by
      intro event hEvent
      rw [x.isExpired_eq_false_iff]
      exact fun last hLast =>
        (hTimes last hLast).2 event hEvent
    exact
      handle_resolve_of_live p h' hToken
        (hStays hx hThroughout) hLive hResolves
  · intro events o' r' hLasts hOver hResolves
    rcases run_of_lasts p events hStored hOnly hLasts with
      ⟨c', h', hOnly', _⟩
    have hExpired := (x.isExpired_iff o'.now).mpr hOver
    exact
      handle_resolve_of_expired p h' hToken hOnly' hExpired
        hResolves

/- An order with an end date, or none, is granted. -/
theorem exists_grants
    (hReach : Reachable p g)
    (hOrders : r.OrdersShare w)
    (hPresents : g.Presents r o.now s)
    (hUser : s.user.id ≠ "")
    (hSession : w.sessionId ≠ "")
    (hFree :
      ∀ y, g.shares.store.Holds y →
        y.sessionId = w.sessionId →
          y.isExpired o.now = false →
            y.createdBy = s.user.id)
    {lifetime : Option Span}
    {expiry : Option Instant}
    (hLifetime :
      w.lifetime? g.usualLifetime = some lifetime)
    (hExpiry :
      Share.Order.expiry?
        ⟨w.sessionId, s.user.id, lifetime⟩ o.now =
          some expiry) :
    ∃ x, Grants p g o r w.sessionId s.user.id x ∧
      x.expiresAt = expiry := by
  rcases hReach.represents with ⟨c, h, _⟩
  let x : Share :=
    ⟨(g.shares.minter.mint o.now o.shareDraw).1,
      w.sessionId, s.user.id, o.now, expiry⟩
  have hShare :
      Share.Order.share? ⟨w.sessionId, s.user.id, lifetime⟩
          o.now x.token =
        .ok x := by
    unfold Share.Order.share?
    rw [hExpiry]
  have hUnheld : ¬Share.Collection.Held c o.now x := by
    rintro ⟨y, hy, hSame, hOther, hLive⟩
    exact hOther (hFree y ((h.mem_iff y).mp hy) hSame hLive)
  rcases Registry.create_of_free h
      ((Share.Order.fault?_eq_none_iff _).mpr
        ⟨hSession, hUser⟩) hShare hUnheld with
    ⟨hReply, hStored⟩
  rcases handle_of_order p hOrders hPresents with
    ⟨hResponse, hShares⟩
  unfold orderShare at hResponse hShares
  rw [hLifetime] at hResponse hShares
  dsimp only at hResponse hShares
  rw [hReply] at hResponse hShares
  dsimp only at hShares
  rw [← hShares] at hStored
  have hGrants :=
    grants_of_stored hStored
      (Finset.mem_insert_self _ _)
      (Share.Token.isToken_mint _ _ _) hResponse rfl
  exact ⟨x, hGrants, rfl⟩

/- An order that no date can end is refused. -/
theorem handle_of_endless
    (p : Login.Provider σ)
    (hOrders : r.OrdersShare w)
    (hPresents : g.Presents r o.now s)
    (hUser : s.user.id ≠ "")
    (hSession : w.sessionId ≠ "")
    (hEndless :
      ∀ lifetime, w.lifetime? g.usualLifetime = some lifetime →
        Share.Order.expiry?
          ⟨w.sessionId, s.user.id, lifetime⟩ o.now = none) :
    (g.handle p o r).1.status = 400 ∧
      (g.handle p o r).2.shares.store = g.shares.store := by
  rcases handle_of_order p hOrders hPresents with
    ⟨hResponse, hShares⟩
  rw [hResponse, hShares]
  unfold orderShare
  cases hLifetime : w.lifetime? g.usualLifetime with
  | none => exact ⟨rfl, rfl⟩
  | some lifetime =>
      rcases Registry.create_of_endless g.shares o.shareDraw
          ((Share.Order.fault?_eq_none_iff _).mpr
            ⟨hSession, hUser⟩)
          (hEndless lifetime hLifetime) with
        ⟨hReply, hStore⟩
      dsimp only
      rw [hReply]
      exact ⟨rfl, hStore⟩

------------------------------------------------------------
-- Seconds
------------------------------------------------------------

/- Zero seconds stand for no end. -/
theorem Wish.lifetime?_of_zero
    (hSeconds : w.seconds = some 0)
    (usual : Option Span) :
    w.lifetime? usual = some none := by
  unfold lifetime? span
  rw [hSeconds]
  rfl

/- Seconds are as long as they say, unless beyond measure. -/
theorem Wish.lifetime?_of_pos
    {n : Nat}
    (hSeconds : w.seconds = some n)
    (hPos : 0 < n)
    (usual : Option Span) :
    w.lifetime? usual =
      if Span.ofSeconds n ≤ Span.longest then
        some (some (Span.ofSeconds n))
      else
        none := by
  unfold lifetime? span
  rw [hSeconds]
  cases n with
  | zero => cases hPos
  | succ n => rfl

/- From a date to the last one it is less than the longest. -/
theorem le_longest_of_le_latest
    {now : Instant}
    {d : Int}
    (hDate : Instant.earliest ≤ now)
    (hLast : now.nanos + d ≤ Instant.latest.nanos) :
    d ≤ Span.longest := by
  rw [Instant.le_iff] at hDate
  unfold Instant.earliest at hDate
  unfold Instant.latest at hLast
  dsimp only at hDate hLast
  change d ≤ (9223372036854775807000000 : Int)
  omega

/-
  A share that is ordered over seconds is exact or refused:
  it has no end for zero, it ends that many seconds after
  its creation if a date expresses this, and otherwise the
  order fails and stores nothing.
-/
theorem order_exact_or_refused
    (hReach : Reachable p g)
    (hDate : Instant.earliest ≤ o.now)
    (hOrders : r.OrdersShare w)
    {n : Nat}
    (hSeconds : w.seconds = some n)
    (hPresents : g.Presents r o.now s)
    (hUser : s.user.id ≠ "")
    (hSession : w.sessionId ≠ "")
    (hFree :
      ∀ y, g.shares.store.Holds y →
        y.sessionId = w.sessionId →
          y.isExpired o.now = false →
            y.createdBy = s.user.id) :
    (n = 0 →
      ∃ x, Grants p g o r w.sessionId s.user.id x ∧
        x.expiresAt = none) ∧
      (0 < n →
        o.now.nanos + Span.ofSeconds n ≤
            Instant.latest.nanos →
          ∃ x, Grants p g o r w.sessionId s.user.id x ∧
            x.expiresAt =
              some ⟨o.now.nanos + Span.ofSeconds n⟩) ∧
        (0 < n →
          Instant.latest.nanos <
              o.now.nanos + Span.ofSeconds n →
            (g.handle p o r).1.status = 400 ∧
              (g.handle p o r).2.shares.store =
                g.shares.store) := by
  refine ⟨?_, ?_, ?_⟩
  · rintro rfl
    exact
      exists_grants hReach hOrders hPresents hUser hSession
        hFree (Wish.lifetime?_of_zero hSeconds _) rfl
  · intro hPos hLast
    have hLifetime :=
      Wish.lifetime?_of_pos hSeconds hPos g.usualLifetime
    rw [if_pos (le_longest_of_le_latest hDate hLast)]
      at hLifetime
    apply
      exists_grants hReach hOrders hPresents hUser hSession
        hFree hLifetime
    unfold Share.Order.expiry? Span.ofSeconds
    dsimp only
    rw [Instant.move?_of_le hDate hLast]
    rfl
  · intro hPos hBeyond
    apply handle_of_endless p hOrders hPresents hUser hSession
    intro lifetime hLifetime
    rw [Wish.lifetime?_of_pos hSeconds hPos] at hLifetime
    split at hLifetime
    · rw [← Option.some.inj hLifetime]
      unfold Share.Order.expiry?
      dsimp only
      rw [Instant.move?_of_lt hBeyond]
      rfl
    · cases hLifetime

end Orders

------------------------------------------------------------
-- Written Orders
------------------------------------------------------------

/- A body that names a session and seconds. -/
def Wish.bodyOf
    (sessionId : String)
    (seconds : Nat) : List UInt8 :=
  Utf8.encode <|
    Json.Value.write <|
      .object
        [("session_id", .text sessionId),
         ("ttl_secs", .natural seconds)]

/- Every number of sixty-four bits can be asked for. -/
theorem Wish.ofBody?_bodyOf
    (sessionId : String)
    {n : Nat}
    (hWord : n ≤ Decimal.greatestWord64) :
    ofBody? (bodyOf sessionId n) =
      some ⟨sessionId, some n⟩ := by
  unfold ofBody? bodyOf Json.ofOctets?
  rw [Utf8.units_encode]
  change (Json.ofText? _).bind _ = _
  rw [Json.ofText?_write, Option.bind_some]
  have hWord64 :
      (Json.Value.natural n).node.word64? = some n :=
    Decimal.bounded?_digits hWord
  have hFields :
      (Json.Value.node
          (.object
            [("session_id", .text sessionId),
             ("ttl_secs", .natural n)])).fields?
        ["session_id", "ttl_secs"] =
        some
          [some (Json.Value.text sessionId).node,
            some (Json.Value.natural n).node] := rfl
  unfold ofNode?
  rw [hFields]
  change
    ((Json.Value.natural n).node.word64?.map some).bind _ = _
  rw [hWord64]
  rfl

/- An order of a share over seconds by who logged in. -/
def orderOver
    (login : Occasion)
    (seconds : Nat) : Request :=
  ⟨"POST", .ofChars "/shares".toList,
    [⟨"x-session-id", Utf8.encode login.sessionId⟩],
    Wish.bodyOf "s" seconds⟩

/- A gateway at which one user logged in. -/
def enteredByAnn : Gateway Unit :=
  run byCode
    (start (Session.Manager.start briefTerms ()) none 0)
    [.request (drawing 1) (returnOf "ann")]

/- An occasion five nanoseconds after that. -/
def soonAfter : Occasion :=
  { drawing 1 with now := ⟨5⟩ }

/- A share lives up to the last second, but not beyond. -/
theorem orderOver_lastSecond :
    (∃ x,
      Grants byCode enteredByAnn soonAfter
          (orderOver soonAfter 8210266876799) "s" "ann" x ∧
        x.expiresAt = some ⟨8210266876799000000005⟩) ∧
      (enteredByAnn.handle byCode soonAfter
        (orderOver soonAfter 8210266876800)).1.status =
          400 := by
  have hReach : Reachable byCode enteredByAnn :=
    Reachable.run _ (Reachable.start _ _ _ _)
  let ann : Session :=
    ⟨soonAfter.sessionId,
      ⟨"ann", "ann", "ann", .hide "", [], []⟩, ⟨0⟩, ⟨10⟩⟩
  have hOrders :
      ∀ n ≤ Decimal.greatestWord64,
        (orderOver soonAfter n).OrdersShare
          ⟨"s", some n⟩ :=
    fun n hWord =>
      ⟨rfl, rfl, Wish.ofBody?_bodyOf "s" hWord⟩
  have hPresents :
      ∀ n,
        enteredByAnn.Presents (orderOver soonAfter n)
          soonAfter.now ann := by
    intro n
    have hLocated :
        Session.locate? (orderOf soonAfter).headers none =
          some soonAfter.sessionId := by
      decide +kernel
    exact
      ⟨soonAfter.sessionId, hLocated, by decide +kernel,
        by decide⟩
  have hFree :
      ∀ y, enteredByAnn.shares.store.Holds y →
        y.sessionId = "s" →
          y.isExpired soonAfter.now = false →
            y.createdBy = ann.user.id := by
    intro y hHolds
    cases hHolds
  refine ⟨?_, ?_⟩
  · apply
      (order_exact_or_refused hReach (by decide)
        (hOrders 8210266876799 (by decide)) rfl
        (hPresents _) (by decide) (by decide) hFree).2.1
    · decide
    · decide
  · exact
      ((order_exact_or_refused hReach (by decide)
        (hOrders 8210266876800 (by decide)) rfl
        (hPresents _) (by decide) (by decide) hFree).2.2
        (by decide) (by decide)).1

end Gateway

end Gatehouse
