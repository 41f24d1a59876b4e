import Gatehouse.Proofs.Gateway.Ownership

/-
  Failed requests.

  A request that fails leaves everything live as it is.  It
  may remove one record at most, which is expired: the
  session that it presents, or the share whose token it
  wants resolved.

  Key definitions include:
    * `Gateway.Request.ResolvesShare`
    * `Gateway.Sheds`
    * `Gateway.Spares`

  Main results include:
    * `Gateway.spares_handle`
    * `Gateway.handle_keeps_live_of_failed`
-/

namespace Gatehouse

------------------------------------------------------------
-- Calls That Fail
------------------------------------------------------------

namespace Session

namespace Manager

variable {σ : Type}

/- A login that is refused leaves the sessions alone. -/
theorem sessions_complete_of_error
    {p : Login.Provider σ}
    {m : Manager σ}
    {now : Instant}
    {id code state : String}
    {e : Refusal}
    (h : (m.complete p now id code state).1 = .error e) :
    (m.complete p now id code state).2.sessions =
      m.sessions := by
  rcases m.complete_cases p now id code state with
    ⟨_, _, hReply, _⟩ | ⟨_, hSessions⟩
  · rw [hReply] at h
    cases h
  · exact hSessions

/- A logout that is refused changes nothing. -/
theorem logout_of_error
    {p : Login.Provider σ}
    {m : Manager σ}
    {id : String}
    {e : Refusal}
    (h : (m.logout p id).1 = .error e) :
    (m.logout p id).2 = m := by
  unfold logout at h ⊢
  split
  · rfl
  next hId =>
    rw [if_neg hId] at h
    cases hFound : m.sessions.get? id with
    | none => rfl
    | some s =>
        rw [hFound] at h
        cases h

/-
  A refresh that is refused leaves the sessions alone, or
  removes the one that it names, which is expired.
-/
theorem sessions_refresh_of_error
    {m : Manager σ}
    {now : Instant}
    {id : String}
    {e : Refusal}
    (h : (m.refresh now id).1 = .error e) :
    (m.refresh now id).2.sessions = m.sessions ∨
      id ≠ "" ∧
        ∃ s, m.sessions.get? id = some s ∧
          s.expiresAt < now ∧
            (m.refresh now id).2.sessions =
              m.sessions.erase id := by
  by_cases hId : id = ""
  · subst hId
    exact Or.inl rfl
  · rcases m.refresh_cases now hId with
      ⟨_, hReply⟩ | ⟨s, hFound, hOver, _, hSessions⟩ |
        ⟨s, _, _, ⟨d, hReply⟩, _⟩
    · rw [hReply]
      exact Or.inl rfl
    · exact Or.inr ⟨hId, s, hFound, hOver, hSessions⟩
    · rw [hReply] at h
      cases h

/-
  A validation leaves the sessions alone, or removes the one
  that it names: an expired one, which is refused.
-/
theorem sessions_validate
    (m : Manager σ)
    (now : Instant)
    (hs : List Http.Header)
    (query : Option (List UInt8)) :
    (m.validate now hs query).2.sessions = m.sessions ∨
      (∃ e, (m.validate now hs query).1 = .error e) ∧
        ∃ id s, locate? hs query = some id ∧
          m.sessions.get? id = some s ∧
            s.expiresAt < now ∧
              (m.validate now hs query).2.sessions =
                m.sessions.erase id := by
  unfold validate
  cases locate? hs query with
  | none => exact Or.inl rfl
  | some id =>
      dsimp only
      rcases m.validateId_cases now id with
        ⟨_, _, hSessions⟩ |
          ⟨s, hFound, hOver, hReply, hSessions⟩ |
            ⟨s, _, _, _, hSessions⟩
      · exact Or.inl hSessions
      · exact
          Or.inr
            ⟨⟨_, hReply⟩, id, s, rfl, hFound, hOver,
              hSessions⟩
      · exact Or.inl hSessions

end Manager

end Session

namespace Share

namespace Registry

variable {r : Registry}

/- An order that is refused leaves the store as it is. -/
theorem store_create_of_error
    {now : Instant}
    {draw : Draw}
    {o : Order}
    {e : Fault}
    (h : (r.create now draw o).1 = .error e) :
    (r.create now draw o).2.store = r.store := by
  unfold create at h ⊢
  cases hFault : o.fault? with
  | some e => rfl
  | none =>
      rw [hFault] at h
      dsimp only at h ⊢
      cases hShare :
          o.share? now (r.minter.mint now draw).1 with
      | error e => rfl
      | ok x =>
          rw [hShare] at h
          dsimp only [accept, Store.claim] at h ⊢
          cases hHeld : r.store.isHeldByOther now x with
          | true => rfl
          | false =>
              rw [hHeld] at h
              cases h

/- A revocation that is refused changes nothing. -/
theorem revoke_of_error
    {token requester : String}
    {e : Fault}
    (h : (r.revoke token requester).1 = .error e) :
    (r.revoke token requester).2 = r := by
  unfold revoke at h ⊢
  split
  next => rfl
  next x hFound =>
    rw [hFound] at h
    dsimp only at h
    split at h
    next => cases h
    next hOther => rw [if_neg hOther]

/-
  A resolution that fails leaves the store as it is, or
  removes the share of the token, which is expired.
-/
theorem store_resolve_of_error
    {c : Finset Share}
    (hStore : r.store.Represents c)
    {now : Instant}
    {token : String}
    {e : Fault}
    (h : (r.resolve now token).1 = .error e) :
    (r.resolve now token).2.store = r.store ∨
      ∃ x, x.token = token ∧ r.store.Holds x ∧
        x.isExpired now = true ∧
          (r.resolve now token).2.store =
            r.store.without x := by
  unfold resolve at h ⊢
  rcases hStore.findLive_cases now token with
    ⟨_, hFound⟩ | ⟨x, _, _, _, hFound⟩ |
      ⟨x, hx, hToken, hOver, hFound⟩
  · rw [hFound]
    exact Or.inl rfl
  · rw [hFound] at h
    cases h
  · rw [hFound]
    exact
      Or.inr ⟨x, hToken, (hStore.mem_iff x).mp hx, hOver, rfl⟩

end Registry

end Share

namespace Gateway

variable {σ : Type}

open Session.Manager (byCode)

------------------------------------------------------------
-- What a Failure Removes
------------------------------------------------------------

/- Does a request want the share of a token? -/
def Request.ResolvesShare
    (r : Request)
    (token : String) : Prop :=
  (r.method = "GET" ∨ r.method = "HEAD") ∧
    ∃ segment,
      r.target.path = "/shares/".toList ++ segment ∧
        segmentText? segment = some token

/- Shares are resolved under their tokens only. -/
theorem Request.resolvesShare_of_task?
    {r : Request}
    {segment : List Char}
    {token : String}
    (hTask : r.task? = some (.resolveShare segment))
    (hToken : segmentText? segment = some token) :
    r.ResolvesShare token := by
  rcases Option.bind_eq_some_iff.mp hTask with
    ⟨place, hPlace, hAtPlace⟩
  have hMem := Place.mem_tasks_of_task? hAtPlace
  have hShare :
      servedBy r.method = "GET" ∧
        place = .share segment := by
    cases place <;> simp [Place.tasks] at hMem
    exact ⟨hMem.1, by rw [hMem.2]⟩
  rw [hShare.2] at hPlace
  refine
    ⟨?_, segment, Place.path_of_share hPlace, hToken⟩
  by_cases hHead : r.method = "HEAD"
  · exact Or.inr hHead
  · have hServed := hShare.1
    unfold servedBy at hServed
    rw [if_neg hHead] at hServed
    exact Or.inl hServed

/-
  What a gateway may lose over a request at an occasion:
  nothing, or one expired record that the request names.
-/
inductive Sheds
    (g : Gateway σ)
    (o : Occasion)
    (r : Request)
    (g' : Gateway σ) : Prop where
  | nothing
      (hSessions :
        g'.sessions.sessions = g.sessions.sessions)
      (hStore : g'.shares.store = g.shares.store)
  | session {id s}
      (hPresented :
        Session.locate? r.headers r.target.query = some id)
      (hFound : g.sessions.sessions.get? id = some s)
      (hOver : s.expiresAt < o.now)
      (hSessions :
        g'.sessions.sessions =
          g.sessions.sessions.erase id)
      (hStore : g'.shares.store = g.shares.store)
  | share {x}
      (hResolves : r.ResolvesShare x.token)
      (hHolds : g.shares.store.Holds x)
      (hOver : x.isExpired o.now = true)
      (hSessions :
        g'.sessions.sessions = g.sessions.sessions)
      (hStore :
        g'.shares.store = g.shares.store.without x)

/- A failure loses no more than it may. -/
def Spares
    (g : Gateway σ)
    (o : Occasion)
    (r : Request)
    (answer : Response × Gateway σ) : Prop :=
  400 ≤ answer.1.status → g.Sheds o r answer.2

namespace Sheds

variable {g g' : Gateway σ}
variable {o : Occasion}
variable {r : Request}

/- Only the stored sessions and shares matter. -/
theorem of_stores
    {kept kept' : Gateway σ}
    (h : kept.Sheds o r kept')
    (hSessions :
      kept.sessions.sessions = g.sessions.sessions)
    (hStore : kept.shares.store = g.shares.store)
    (hSessions' :
      kept'.sessions.sessions = g'.sessions.sessions)
    (hStore' : kept'.shares.store = g'.shares.store) :
    g.Sheds o r g' := by
  cases h with
  | nothing hSame hKept =>
      rw [hSessions', hSessions] at hSame
      rw [hStore', hStore] at hKept
      exact Sheds.nothing hSame hKept
  | session hPresented hFound hOver hErased hKept =>
      rw [hSessions', hSessions] at hErased
      rw [hStore', hStore] at hKept
      rw [hSessions] at hFound
      exact
        Sheds.session hPresented hFound hOver hErased hKept
  | share hResolves hHolds hOver hSame hErased =>
      rw [hSessions', hSessions] at hSame
      rw [hStore', hStore] at hErased
      rw [hStore] at hHolds
      exact
        Sheds.share hResolves hHolds hOver hSame hErased

/- No live session is lost, and none comes. -/
theorem session_iff
    (h : g.Sheds o r g')
    (id : String)
    {s : Session}
    (hLive : o.now ≤ s.expiresAt) :
    g'.sessions.sessions.get? id = some s ↔
      g.sessions.sessions.get? id = some s := by
  cases h with
  | nothing hSessions => rw [hSessions]
  | @session lost s' _ hFound hOver hSessions =>
      rw [hSessions, Table.get?_erase]
      by_cases hSame : lost = id
      · rw [if_pos hSame, ← hSame, hFound]
        constructor
        · intro hNone
          cases hNone
        · intro hStored
          rw [Option.some.inj hStored] at hOver
          exact
            absurd hOver ((Instant.not_lt _ _).mpr hLive)
      · rw [if_neg hSame]
  | share _ _ _ hSessions => rw [hSessions]

/- No live share is lost, and none comes. -/
theorem share_iff
    (h : g.Sheds o r g')
    {x : Share}
    (hLive : x.isExpired o.now = false) :
    g'.shares.store.Holds x ↔ g.shares.store.Holds x := by
  cases h with
  | nothing _ hStore => rw [hStore]
  | session _ _ _ _ hStore => rw [hStore]
  | @share y _ hHolds hOver _ hStore =>
      rw [hStore]
      unfold Share.Store.Holds Share.Store.without
      rw [Table.get?_erase]
      by_cases hSame : y.token = x.token
      · rw [if_pos hSame, ← hSame]
        constructor
        · intro hNone
          cases hNone
        · intro hStored
          have hEq : y = x :=
            Option.some.inj (hHolds.symm.trans hStored)
          rw [hEq, hLive] at hOver
          exact absurd hOver Bool.false_ne_true
      · rw [if_neg hSame]

end Sheds

------------------------------------------------------------
-- Each Task
------------------------------------------------------------

section Tasks

variable (p : Login.Provider σ)
variable (g : Gateway σ)
variable (o : Occasion)
variable (r : Request)

/- A document of a success is no failure. -/
theorem spares_document
    {status : Nat}
    (hStatus : status < 400)
    (v : Json.Value)
    (g' : Gateway σ) :
    g.Spares o r (.document status v, g') :=
  fun hFailed => absurd hFailed (Nat.not_le.mpr hStatus)

/- A login opens no session by itself. -/
theorem spares_login :
    g.Spares o r (g.login p o r) := by
  intro _
  refine Sheds.nothing ?_ (shares_login p g o r ▸ rfl)
  unfold login
  split
  · rfl
  · dsimp only
    split
    · exact g.sessions.sessions_initiate p _
    · exact g.sessions.sessions_initiate p _

/- A callback that fails opens no session. -/
theorem spares_callback :
    g.Spares o r (g.callback p o r) := by
  unfold callback
  split
  next => exact fun _ => Sheds.nothing rfl rfl
  next c _ =>
    split
    next => exact fun _ => Sheds.nothing rfl rfl
    next =>
      dsimp only
      split
      next e hReply =>
        intro _
        exact
          Sheds.nothing
            (Session.Manager.sessions_complete_of_error
              hReply) rfl
      next => exact spares_document _ _ _ (by decide) _ _

/- A logout that fails ends no session. -/
theorem spares_logout :
    g.Spares o r (g.logout p o r) := by
  unfold logout
  dsimp only
  split
  next e hReply =>
    intro _
    refine Sheds.nothing ?_ rfl
    dsimp only
    rw [Session.Manager.logout_of_error hReply]
  next => exact spares_document _ _ _ (by decide) _ _

/- The session that a request names is the presented one. -/
theorem locate?_of_namedSession
    (hNamed : namedSession r ≠ "") :
    Session.locate? r.headers r.target.query =
      some (namedSession r) := by
  unfold namedSession at hNamed ⊢
  cases hLocated :
      Session.locate? r.headers r.target.query with
  | none =>
      rw [hLocated] at hNamed
      exact absurd rfl hNamed
  | some id => rfl

/- A refresh that fails loses the presented session at most. -/
theorem spares_refresh :
    g.Spares o r (g.refresh o r) := by
  unfold refresh
  dsimp only
  split
  next e hReply =>
    intro _
    rcases Session.Manager.sessions_refresh_of_error
        hReply with
      hSame | ⟨hNamed, s, hFound, hOver, hErased⟩
    · exact Sheds.nothing hSame rfl
    · exact
        Sheds.session (locate?_of_namedSession r hNamed)
          hFound hOver hErased rfl
  next => exact spares_document _ _ _ (by decide) _ _

/-
  Who is not authenticated loses the presented session at
  most, and who is keeps everything.
-/
theorem sheds_authenticate :
    g.Sheds o r (g.authenticate o r).2 ∧
      ∀ user,
        (g.authenticate o r).1 = .ok user →
          (g.authenticate o r).2.sessions.sessions =
            g.sessions.sessions := by
  unfold authenticate
  rcases g.sessions.sessions_validate o.now r.headers
      r.target.query with
    hSame |
      ⟨⟨e, hReply⟩, id, s, hLocated, hFound, hOver, hErased⟩
  · exact ⟨Sheds.nothing hSame rfl, fun _ _ => hSame⟩
  · refine
      ⟨Sheds.session hLocated hFound hOver hErased rfl, ?_⟩
    intro user hOk
    dsimp only at hOk
    rw [hReply] at hOk
    cases hOk

/- An authentication leaves the shares alone. -/
theorem shares_authenticate :
    (g.authenticate o r).2.shares = g.shares := rfl

variable {g o r} in
/-
  Who must be authenticated first loses no more by a failure
  than what is done afterwards does by itself.
-/
theorem spares_of_authenticate
    {answer : Response × Gateway σ}
    (hRefused :
      ∀ e g', g.authenticate o r = (.error e, g') →
        answer = (o.decline e, g'))
    (hPassed :
      ∀ user g', g.authenticate o r = (.ok user, g') →
        g'.Spares o r answer) :
    g.Spares o r answer := by
  have hAuth := g.sheds_authenticate o r
  have hShares := g.shares_authenticate o r
  rcases hResult : g.authenticate o r with ⟨outcome, g'⟩
  rw [hResult] at hAuth hShares
  cases outcome with
  | error e =>
      intro _
      rw [hRefused e g' hResult]
      exact hAuth.1
  | ok user =>
      intro hFailed
      exact
        (hPassed user g' hResult hFailed).of_stores
          (hAuth.2 user rfl)
          (congrArg Share.Registry.store hShares) rfl rfl

/- Who asks in vain who they are loses no more than that. -/
theorem spares_me :
    g.Spares o r (g.me o r) := by
  unfold me
  apply spares_of_authenticate
  · intro e g' hResult
    rw [hResult]
  · intro user g' hResult
    rw [hResult]
    exact spares_document _ _ _ (by decide) _ _

/- An order that fails issues nothing. -/
theorem spares_orderShare
    (user : User)
    (w : Wish) :
    g.Spares o r (g.orderShare o user w) := by
  unfold orderShare
  split
  next => exact fun _ => Sheds.nothing rfl rfl
  next lifetime _ =>
    dsimp only
    split
    next e hReply =>
      intro _
      exact
        Sheds.nothing rfl
          (Share.Registry.store_create_of_error hReply)
    next => exact spares_document _ _ _ (by decide) _ _

/- A resolution that fails loses the wanted share at most. -/
theorem spares_resolveShare
    {c : Finset Share}
    (h : g.shares.store.Represents c)
    {token : String}
    (hResolves : r.ResolvesShare token) :
    g.Spares o r (g.resolveShare o token) := by
  unfold resolveShare
  dsimp only
  split
  next e hReply =>
    intro _
    rcases Share.Registry.store_resolve_of_error h
        hReply with
      hSame | ⟨x, rfl, hHolds, hOver, hErased⟩
    · exact Sheds.nothing rfl hSame
    · exact Sheds.share hResolves hHolds hOver rfl hErased
  next => exact spares_document _ _ _ (by decide) _ _

/- Sharing a session in vain issues nothing. -/
theorem spares_createShare :
    g.Spares o r (g.createShare o r) := by
  unfold createShare
  apply spares_of_authenticate
  · intro e g' hResult
    rw [hResult]
  · intro user g' hResult
    rw [hResult]
    dsimp only
    split
    · exact fun _ => Sheds.nothing rfl rfl
    · exact g'.spares_orderShare o r user _

/- Taking a share back in vain removes nothing. -/
theorem spares_revokeShare
    (token : String) :
    g.Spares o r (g.revokeShare o r token) := by
  unfold revokeShare
  apply spares_of_authenticate
  · intro e g' hResult
    rw [hResult]
  · intro user g' hResult
    rw [hResult]
    dsimp only
    split
    next e hReply =>
      intro _
      refine Sheds.nothing rfl ?_
      dsimp only
      rw [Share.Registry.revoke_of_error hReply]
    next => exact spares_document _ _ _ (by decide) _ _

------------------------------------------------------------
-- Every Request
------------------------------------------------------------

variable {g o r}

/- A token that is no text costs nothing. -/
theorem spares_withToken
    {segment : List Char}
    {use : String → Response × Gateway σ}
    (hUse :
      ∀ token, segmentText? segment = some token →
        g.Spares o r (use token)) :
    g.Spares o r (g.withToken segment use) := by
  unfold withToken
  cases hToken : segmentText? segment with
  | none => exact fun _ => Sheds.nothing rfl rfl
  | some token => exact hUse token hToken

/- Every task that fails loses no more than it may. -/
theorem spares_perform
    {c : Finset Share}
    (h : g.shares.store.Represents c)
    {task : Task}
    (hTask : r.task? = some task) :
    g.Spares o r (g.perform p o r task) := by
  cases task with
  | login => exact g.spares_login p o r
  | callback => exact g.spares_callback p o r
  | logout => exact g.spares_logout p o r
  | refresh => exact g.spares_refresh o r
  | me => exact g.spares_me o r
  | createShare => exact g.spares_createShare o r
  | resolveShare segment =>
      apply spares_withToken
      intro token hToken
      exact
        g.spares_resolveShare o r h
          (Request.resolvesShare_of_task? hTask hToken)
  | revokeShare segment =>
      apply spares_withToken
      intro token _
      exact g.spares_revokeShare o r token
  | health => exact fun _ => Sheds.nothing rfl rfl
  | metrics => exact fun _ => Sheds.nothing rfl rfl

/- A request that leads nowhere costs nothing. -/
theorem spares_serve
    {c : Finset Share}
    (h : g.shares.store.Represents c) :
    g.Spares o r (g.serve p o r) := by
  unfold serve
  cases hPlace : Place.ofPath? r.target.path with
  | none => exact fun _ => Sheds.nothing rfl rfl
  | some place =>
      dsimp only
      have hTask : r.task? = place.task? r.method := by
        simp [Request.task?, hPlace]
      cases hAtPlace : place.task? r.method with
      | none => exact fun _ => Sheds.nothing rfl rfl
      | some task =>
          exact spares_perform p h (hTask.trans hAtPlace)

/-
  Every request that fails loses no more than it may.  The
  counts of the gateway do not matter to it.
-/
theorem spares_handle
    {c : Finset Share}
    (h : g.shares.store.Represents c) :
    g.Spares o r (g.handle p o r) := by
  have hServed :
      { g with served := g.served + 1 }.Spares o r
        ({ g with served := g.served + 1 }.serve p o r) :=
    spares_serve p h
  unfold handle
  intro hFailed
  rw [Response.status_forMethod] at hFailed
  exact (hServed hFailed).of_stores rfl rfl rfl rfl

end Tasks

/-
  A request that fails, whatever it is, leaves the live
  sessions and the live shares of a gateway as they are.  It
  removes nothing, or else one expired record: the session
  that it presents, or the share whose token it wants
  resolved.
-/
theorem handle_keeps_live_of_failed
    {p : Login.Provider σ}
    {g : Gateway σ}
    (hReach : Reachable p g)
    (o : Occasion)
    (r : Request)
    (hFailed : 400 ≤ (g.handle p o r).1.status) :
    g.Sheds o r (g.handle p o r).2 ∧
      (∀ id s,
        o.now ≤ s.expiresAt →
          ((g.handle p o r).2.sessions.sessions.get? id =
              some s ↔
            g.sessions.sessions.get? id = some s)) ∧
        ∀ x : Share,
          x.isExpired o.now = false →
            ((g.handle p o r).2.shares.store.Holds x ↔
              g.shares.store.Holds x) := by
  rcases hReach.represents with ⟨c, h, _⟩
  have hSheds := spares_handle p h hFailed
  refine ⟨hSheds, ?_, ?_⟩
  · intro id s hLive
    exact hSheds.session_iff id hLive
  · intro x hLive
    exact hSheds.share_iff hLive

/- An occasion after the sessions of a run are over. -/
def tooLate : Occasion :=
  { drawing 3 with now := ⟨11⟩ }

/- A question of who logged in at an occasion. -/
def meOf
    (login : Occasion) : Request :=
  ⟨"GET", .ofChars "/auth/me".toList,
    [⟨"x-session-id", Utf8.encode login.sessionId⟩], []⟩

/- A session that is over is removed, its share is not. -/
theorem handle_meOf_tooLate :
    400 ≤
        (sharedByAnn.handle byCode tooLate
          (meOf (drawing 1))).1.status ∧
      (sharedByAnn.handle byCode tooLate
          (meOf (drawing 1))).2.sessions.sessions.get?
        (drawing 1).sessionId = none ∧
        (sharedByAnn.handle byCode tooLate
            (meOf (drawing 1))).2.shares.store.Holds
          ⟨Share.Token.ofOctets (Vector.replicate 16 1),
            "s", "ann", ⟨0⟩, none⟩ := by
  have hReach : Reachable byCode sharedByAnn :=
    Reachable.run _ (Reachable.start _ _ _ _)
  have hFailed :
      400 ≤
        (sharedByAnn.handle byCode tooLate
          (meOf (drawing 1))).1.status := by
    decide +kernel
  refine ⟨hFailed, ?_, ?_⟩
  · decide +kernel
  · rw [(handle_keeps_live_of_failed hReach tooLate
      (meOf (drawing 1)) hFailed).2.2 _ rfl]
    unfold Share.Store.Holds
    decide +kernel

end Gateway

end Gatehouse
