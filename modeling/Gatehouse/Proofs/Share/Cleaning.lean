import Gatehouse.Proofs.Pairing
import Gatehouse.Proofs.Share.Validity

/-
  Cleanups do not show.

  Only the live shares decide what a registry issues and
  resolves.  An expired share holds no session and resolves
  no token, and a cleanup removes expired shares alone.  So
  two runs that differ in their cleanups issue the same
  shares and resolve the same tokens.

  Key definitions include:
    * `Share.Collection.SameLive`
    * `Share.Registry.Spares`
    * `Share.Registry.SameLive`
    * `Share.Registry.Agrees`

  Main results include:
    * `Share.Registry.Step.mem_iff_of_live`
    * `Share.Registry.agrees_of_sameLive`
    * `Share.Registry.runs_agree_despite_cleanups`
-/

namespace Gatehouse

namespace Share

------------------------------------------------------------
-- Sets with the Same Live Shares
------------------------------------------------------------

namespace Collection

/- Have two sets the same shares that are live now? -/
def SameLive
    (now : Instant)
    (c₁ c₂ : Finset Share) : Prop :=
  ∀ x, x.isExpired now = false → (x ∈ c₁ ↔ x ∈ c₂)

namespace SameLive

variable {now : Instant} {c₁ c₂ : Finset Share}

/- What is live now in both is live later in both. -/
theorem later
    {earlier : Instant}
    (hOrder : earlier ≤ now)
    (h : SameLive earlier c₁ c₂) :
    SameLive now c₁ c₂ := by
  intro x hLive
  exact h x (x.isExpired_eq_false_of_le hLive hOrder)

/- A session is held in both or in neither. -/
theorem held_iff
    (h : SameLive now c₁ c₂)
    (x : Share) :
    Held c₁ now x ↔ Held c₂ now x := by
  unfold Held
  constructor
  · rintro ⟨y, hy, hSession, hOther, hLive⟩
    have hIn₂ := (h y hLive).mp hy
    exact ⟨y, hIn₂, hSession, hOther, hLive⟩
  · rintro ⟨y, hy, hSession, hOther, hLive⟩
    have hIn₁ := (h y hLive).mpr hy
    exact ⟨y, hIn₁, hSession, hOther, hLive⟩

/- A share that is put into both makes no difference. -/
theorem put
    (h : SameLive now c₁ c₂)
    (x : Share) :
    SameLive now (put c₁ x) (Collection.put c₂ x) := by
  intro y hLive
  rw [mem_put_iff, mem_put_iff, h y hLive]

end SameLive

end Collection

namespace Registry

open History (Event Entry Ordered Simulation Until
  foreground log run)
open Store (Reply)

------------------------------------------------------------
-- What a Call Spares
------------------------------------------------------------

/- Does a call that issues nothing spare a live share? -/
def Spares
    (x : Share) :
    Call → Prop
  | .revoke token requester =>
      ¬(x.token = token ∧ x.createdBy = requester)
  | .deleteSession sessionId => x.sessionId ≠ sessionId
  | .deleteToken token => x.token ≠ token
  | _ => True

/- Does a call issue shares? -/
def Call.isCreate :
    Call → Bool
  | .create _ _ => true
  | _ => false

/- Is the call a cleanup? -/
def Call.isCleanup :
    Call → Bool
  | .cleanup => true
  | _ => false

/-
  A call that issues nothing leaves the live shares that it
  spares, and no others.
-/
theorem Step.mem_iff_of_live
    {now : Instant}
    {c c' : Finset Share}
    {call : Call}
    {reply : Reply}
    (hStep : Step now c call reply c')
    (hDistinct : Collection.Distinct c)
    (hCall : call.isCreate = false)
    {x : Share}
    (hLive : x.isExpired now = false) :
    x ∈ c' ↔ x ∈ c ∧ Spares x call := by
  cases hStep with
  | incomplete => cases hCall
  | endless => cases hCall
  | held => cases hCall
  | created => cases hCall
  | resolved => simp [Spares]
  | expired _ _ hExpired =>
      rw [Finset.mem_erase]
      constructor
      · rintro ⟨_, hx⟩
        exact ⟨hx, trivial⟩
      · rintro ⟨hx, _⟩
        refine ⟨?_, hx⟩
        rintro rfl
        rw [hLive] at hExpired
        exact Bool.false_ne_true hExpired
  | unresolved => simp [Spares]
  | foundToken => simp [Spares]
  | foundSession => simp [Spares]
  | @revoked y requester hy hOwn =>
      rw [Finset.mem_erase, and_comm]
      apply and_congr_right
      intro hx
      apply not_congr
      constructor
      · rintro rfl
        exact ⟨rfl, hOwn⟩
      · rintro ⟨hToken, _⟩
        exact hDistinct.token x hx y hy hToken
  | notRevoked hOthers =>
      rw [Iff.comm, and_iff_left_iff_imp]
      rintro hx ⟨hToken, hOwn⟩
      exact hOthers x hx hToken hOwn
  | deletedSession => exact Finset.mem_filter
  | deletedToken => exact Finset.mem_filter
  | cleaned => simp [Spares, hLive]

/- Only creation uses draws. -/
theorem minter_perform
    (r : Registry)
    (now : Instant)
    {call : Call}
    (hCall : call.isCreate = false) :
    (r.perform now call).2.minter = r.minter := by
  cases call with
  | create draw o => cases hCall
  | resolve token =>
      simp only [perform, resolve]
      split <;> rfl
  | revoke token requester =>
      simp only [perform, revoke]
      split
      · rfl
      · split <;> rfl
  | _ => rfl

------------------------------------------------------------
-- Two Registries
------------------------------------------------------------

/-
  Two registries that mint the same tokens and hold the same
  live shares.
-/
structure SameLive
    (now : Instant)
    (r₁ r₂ : Registry) : Prop where
  minter : r₁.minter = r₂.minter
  shares :
    ∃ c₁ c₂, r₁.store.Represents c₁ ∧
      r₂.store.Represents c₂ ∧
        Collection.SameLive now c₁ c₂

/- The same share, or a token that does not resolve. -/
def SameShare
    (reply₁ reply₂ : Except Fault Share) : Prop :=
  (∃ x, reply₁ = .ok x ∧ reply₂ = .ok x) ∨
    ∃ e₁ e₂, reply₁ = .error e₁ ∧ reply₂ = .error e₂ ∧
      (e₁ = .notFound ∨ e₁ = .expired) ∧
        (e₂ = .notFound ∨ e₂ = .expired)

section Agreement

variable {r₁ r₂ : Registry} {now : Instant}

/- What is live now in both is live later in both. -/
theorem SameLive.later
    {earlier : Instant}
    (hOrder : earlier ≤ now)
    (h : SameLive earlier r₁ r₂) :
    SameLive now r₁ r₂ := by
  rcases h.shares with ⟨c₁, c₂, h₁, h₂, hSame⟩
  exact ⟨h.minter, c₁, c₂, h₁, h₂, hSame.later hOrder⟩

/- A live share is held by both or by neither. -/
theorem SameLive.holds_iff
    (h : SameLive now r₁ r₂)
    {x : Share}
    (hLive : x.isExpired now = false) :
    r₁.store.Holds x ↔ r₂.store.Holds x := by
  rcases h.shares with ⟨c₁, c₂, h₁, h₂, hSame⟩
  rw [← h₁.mem_iff, ← h₂.mem_iff]
  exact hSame x hLive

/- Creation is alike in both. -/
theorem SameLive.create
    (h : SameLive now r₁ r₂)
    (draw : Draw)
    (o : Order) :
    (r₁.create now draw o).1 = (r₂.create now draw o).1 ∧
      SameLive now (r₁.create now draw o).2
        (r₂.create now draw o).2 := by
  rcases h.shares with ⟨c₁, c₂, h₁, h₂, hSame⟩
  unfold Registry.create
  cases hFault : o.fault? with
  | some e => exact ⟨rfl, h⟩
  | none =>
      dsimp only
      rw [h.minter]
      cases hShare :
          o.share? now (r₂.minter.mint now draw).1 with
      | error e => exact ⟨rfl, rfl, c₁, c₂, h₁, h₂, hSame⟩
      | ok x =>
          dsimp only [accept]
          by_cases hHeld : Collection.Held c₂ now x
          · have hHeld₁ := (hSame.held_iff x).mpr hHeld
            rw [h₁.claim_of_held hHeld₁,
              h₂.claim_of_held hHeld]
            exact ⟨rfl, rfl, c₁, c₂, h₁, h₂, hSame⟩
          · have hFree₁ :=
              mt (hSame.held_iff x).mp hHeld
            rw [h₁.claim_of_free hFree₁,
              h₂.claim_of_free hHeld]
            exact
              ⟨rfl, rfl, _, _, h₁.save x, h₂.save x,
                hSame.put x⟩

/- A token resolves to the same share in both. -/
theorem SameLive.sameShare
    (h : SameLive now r₁ r₂)
    (token : String) :
    SameShare (r₁.resolve now token).1
      (r₂.resolve now token).1 := by
  rcases h.shares with ⟨c₁, c₂, h₁, h₂, hSame⟩
  have hIff :
      ∀ x, (r₁.resolve now token).1 = .ok x ↔
        (r₂.resolve now token).1 = .ok x := by
    intro x
    rw [resolve_eq_ok_iff h₁, resolve_eq_ok_iff h₂]
    apply and_congr_left
    rintro ⟨_, hLive⟩
    exact hSame x hLive
  cases hReply₁ : (r₁.resolve now token).1 with
  | ok x => exact Or.inl ⟨x, rfl, (hIff x).mp hReply₁⟩
  | error e₁ =>
      cases hReply₂ : (r₂.resolve now token).1 with
      | ok x =>
          rw [(hIff x).mpr hReply₂] at hReply₁
          cases hReply₁
      | error e₂ =>
          have hWhy₁ := resolve_eq_error h₁ hReply₁
          have hWhy₂ := resolve_eq_error h₂ hReply₂
          exact
            Or.inr
              ⟨e₁, e₂, rfl, rfl,
                hWhy₁.imp And.left And.left,
                hWhy₂.imp And.left And.left⟩

/- A revocation of a stored share asks for its creator. -/
theorem revoke_of_mem
    {r : Registry}
    {c : Finset Share}
    (h : r.store.Represents c)
    {x : Share}
    (hx : x ∈ c)
    (requester : String) :
    (r.revoke x.token requester).1 =
      if x.createdBy = requester then
        .ok ()
      else
        .error .notFound := by
  unfold revoke Store.findToken
  rw [(h.mem_iff x).mp hx]
  dsimp only
  split <;> rfl

/- A revocation of a share that is live in one is alike. -/
theorem SameLive.revoke_eq
    (h : SameLive now r₁ r₂)
    {x : Share}
    (hLive : x.isExpired now = false)
    (hHolds : r₁.store.Holds x ∨ r₂.store.Holds x)
    (requester : String) :
    (r₁.revoke x.token requester).1 =
      (r₂.revoke x.token requester).1 := by
  have hHolds₁ : r₁.store.Holds x := by
    rw [← h.holds_iff hLive, or_self] at hHolds
    exact hHolds
  have hHolds₂ := (h.holds_iff hLive).mp hHolds₁
  rcases h.shares with ⟨c₁, c₂, h₁, h₂, _⟩
  rw [revoke_of_mem h₁ ((h₁.mem_iff x).mpr hHolds₁),
    revoke_of_mem h₂ ((h₂.mem_iff x).mpr hHolds₂)]

/- A lookup by token finds what is held with that token. -/
theorem findToken_eq_ok_iff
    {r : Registry}
    {c : Finset Share}
    (h : r.store.Represents c)
    (token : String)
    (x : Share) :
    r.store.findToken token = .ok x ↔
      x ∈ c ∧ x.token = token := by
  rw [← h.token_iff]
  unfold Store.findToken
  cases r.store.byToken.get? token <;> simp

/- A lookup by session finds what is held for it. -/
theorem findSession_eq_ok_iff
    {r : Registry}
    {c : Finset Share}
    (h : r.store.Represents c)
    (sessionId : String)
    (x : Share) :
    r.store.findSession sessionId = .ok x ↔
      x ∈ c ∧ x.sessionId = sessionId := by
  rw [← h.current?_eq_some_iff]
  unfold Store.findSession
  cases r.store.current? sessionId <;> simp

/- A lookup by token finds a live share in both. -/
theorem SameLive.findToken_iff
    (h : SameLive now r₁ r₂)
    (token : String)
    {x : Share}
    (hLive : x.isExpired now = false) :
    r₁.store.findToken token = .ok x ↔
      r₂.store.findToken token = .ok x := by
  rcases h.shares with ⟨c₁, c₂, h₁, h₂, hSame⟩
  rw [findToken_eq_ok_iff h₁, findToken_eq_ok_iff h₂,
    hSame x hLive]

/- A lookup by session finds a live share in both. -/
theorem SameLive.findSession_iff
    (h : SameLive now r₁ r₂)
    (sessionId : String)
    {x : Share}
    (hLive : x.isExpired now = false) :
    r₁.store.findSession sessionId = .ok x ↔
      r₂.store.findSession sessionId = .ok x := by
  rcases h.shares with ⟨c₁, c₂, h₁, h₂, hSame⟩
  rw [findSession_eq_ok_iff h₁, findSession_eq_ok_iff h₂,
    hSame x hLive]

/- A call that issues nothing leaves both alike. -/
theorem SameLive.perform
    (h : SameLive now r₁ r₂)
    {call : Call}
    (hCall : call.isCreate = false) :
    SameLive now (r₁.perform now call).2
      (r₂.perform now call).2 := by
  rcases h.shares with ⟨c₁, c₂, h₁, h₂, hSame⟩
  rcases perform_step h₁ now call with ⟨c₁', h₁', hStep₁⟩
  rcases perform_step h₂ now call with ⟨c₂', h₂', hStep₂⟩
  refine ⟨?_, c₁', c₂', h₁', h₂', ?_⟩
  · rw [minter_perform _ _ hCall, minter_perform _ _ hCall,
      h.minter]
  · intro x hLive
    rw [hStep₁.mem_iff_of_live h₁.distinct hCall hLive,
      hStep₂.mem_iff_of_live h₂.distinct hCall hLive,
      hSame x hLive]

/- A cleanup leaves the shares that are live later. -/
theorem SameLive.cleanup_left
    {earlier : Instant}
    (hOrder : earlier ≤ now)
    (h : SameLive now r₁ r₂) :
    SameLive now (r₁.perform earlier .cleanup).2 r₂ := by
  rcases h.shares with ⟨c₁, c₂, h₁, h₂, hSame⟩
  rcases perform_step h₁ earlier .cleanup with
    ⟨c₁', h₁', hStep⟩
  refine ⟨h.minter, c₁', c₂, h₁', h₂, ?_⟩
  intro x hLive
  have hEarlier := x.isExpired_eq_false_of_le hLive hOrder
  rw [hStep.mem_iff_of_live h₁.distinct rfl hEarlier,
    ← hSame x hLive]
  exact and_iff_left trivial

/- Likeness goes both ways. -/
theorem SameLive.symm
    (h : SameLive now r₁ r₂) :
    SameLive now r₂ r₁ := by
  rcases h.shares with ⟨c₁, c₂, h₁, h₂, hSame⟩
  refine ⟨h.minter.symm, c₂, c₁, h₂, h₁, ?_⟩
  intro x hLive
  exact (hSame x hLive).symm

end Agreement

------------------------------------------------------------
-- Two Runs
------------------------------------------------------------

/- The same call at the same time. -/
structure Matches
    (e₁ e₂ : Entry Registry Call) : Prop where
  now : e₁.now = e₂.now
  call : e₁.call = e₂.call

/-
  Do two registries say the same to a caller?  Creations
  have the same result, resolutions give the same share,
  lookups find the same live shares, and revocations of live
  shares have the same result.
-/
def Agrees
    (now : Instant)
    (r₁ r₂ : Registry) :
    Call → Prop
  | .create draw o =>
      (r₁.create now draw o).1 = (r₂.create now draw o).1
  | .resolve token =>
      SameShare (r₁.resolve now token).1
        (r₂.resolve now token).1
  | .findToken token =>
      ∀ x : Share, x.isExpired now = false →
        (r₁.store.findToken token = .ok x ↔
          r₂.store.findToken token = .ok x)
  | .findSession sessionId =>
      ∀ x : Share, x.isExpired now = false →
        (r₁.store.findSession sessionId = .ok x ↔
          r₂.store.findSession sessionId = .ok x)
  | .revoke token requester =>
      ∀ x : Share, x.token = token →
        x.isExpired now = false →
          r₁.store.Holds x ∨ r₂.store.Holds x →
            (r₁.revoke token requester).1 =
              (r₂.revoke token requester).1
  | .deleteSession _ => True
  | .deleteToken _ => True
  | .cleanup => True

/- Alike registries say the same to a caller. -/
theorem agrees_of_sameLive
    {now : Instant}
    {r₁ r₂ : Registry}
    (h : SameLive now r₁ r₂)
    (call : Call) :
    Agrees now r₁ r₂ call := by
  cases call with
  | create draw o => exact (h.create draw o).1
  | resolve token => exact h.sameShare token
  | findToken token =>
      intro x hLive
      exact h.findToken_iff token hLive
  | findSession sessionId =>
      intro x hLive
      exact h.findSession_iff sessionId hLive
  | revoke token requester =>
      rintro x rfl hLive hHolds
      exact h.revoke_eq hLive hHolds requester
  | deleteSession sessionId => trivial
  | deleteToken token => trivial
  | cleanup => trivial

/- Alike registries stay alike through the same call. -/
theorem sameLive_next
    {r₁ r₂ : Registry}
    {event₁ event₂ : Event Call}
    (hMatches :
      Matches ⟨r₁, event₁.now, event₁.call⟩
        ⟨r₂, event₂.now, event₂.call⟩)
    (h : SameLive event₁.now r₁ r₂) :
    SameLive event₁.now (r₁.next event₁)
      (r₂.next event₂) := by
  have hNow : event₁.now = event₂.now := hMatches.now
  have hCall : event₁.call = event₂.call := hMatches.call
  unfold next
  rw [← hNow, ← hCall]
  cases hKind : event₁.call.isCreate with
  | false => exact h.perform hKind
  | true =>
      cases hCreate : event₁.call with
      | create draw o => exact (h.create draw o).2
      | _ =>
          rw [hCreate] at hKind
          cases hKind

/- Cleanups in either run leave two registries alike. -/
theorem simulation :
    Simulation next next Call.isCleanup Matches
      SameLive where
  now_eq hMatches := hMatches.now
  later hOrder h := h.later hOrder
  left {now r₁ r₂ event} hCleanup hTime h := by
    rcases event with ⟨time, call⟩
    cases call with
    | cleanup => exact h.cleanup_left hTime
    | _ => cases hCleanup
  right {now r₁ r₂ event} hCleanup hTime h := by
    rcases event with ⟨time, call⟩
    cases call with
    | cleanup => exact (h.symm.cleanup_left hTime).symm
    | _ => cases hCleanup
  both hMatches h := sameLive_next hMatches h

/-
  Cleanups do not show.  Two runs of a registry, in which
  time never goes back, make the same calls with the same
  draws at the same times apart from cleanups.  Then at
  every call the same shares are live in both, and both say
  the same to the caller; and at the end the same shares are
  live.
-/
theorem runs_agree_despite_cleanups
    (events₁ events₂ : List (Event Call))
    (hOrder₁ : Ordered events₁)
    (hOrder₂ : Ordered events₂)
    (hMatches :
      List.Forall₂ Matches
        (foreground Call.isCleanup
          (log next empty events₁))
        (foreground Call.isCleanup
          (log next empty events₂))) :
    List.Forall₂
        (fun e₁ e₂ =>
          (∀ x, x.isExpired e₁.now = false →
              (e₁.before.store.Holds x ↔
                e₂.before.store.Holds x)) ∧
            Agrees e₁.now e₁.before e₂.before e₁.call)
        (foreground Call.isCleanup
          (log next empty events₁))
        (foreground Call.isCleanup
          (log next empty events₂)) ∧
      ∀ now, Until now events₁ → Until now events₂ →
        ∀ x, x.isExpired now = false →
          ((run next empty events₁).store.Holds x ↔
            (run next empty events₂).store.Holds x) := by
  have hStart : ∀ now, SameLive now empty empty :=
    fun now =>
      ⟨rfl, ∅, ∅, Store.represents_empty,
        Store.represents_empty, fun x _ => Iff.rfl⟩
  have hPaired :=
    simulation.paired hStart hOrder₁ hOrder₂ hMatches
  refine ⟨?_, ?_⟩
  · apply hPaired.atCalls.imp
    rintro e₁ e₂ ⟨_, hSame⟩
    refine ⟨?_, agrees_of_sameLive hSame e₁.call⟩
    intro x hLive
    exact hSame.holds_iff hLive
  · intro now hUntil₁ hUntil₂ x hLive
    exact
      (hPaired.atEnd now hUntil₁ hUntil₂).holds_iff hLive

/- The lapsed run with a cleanup when the share is over. -/
def cleanedRun : List (Event Call) :=
  lapsedRun.take 2 ++ ⟨⟨6⟩, .cleanup⟩ :: lapsedRun.drop 2

/-
  The token is found expired in one run and unknown in the
  other, and the session is shared anew alike in both.
-/
theorem agrees_cleanedRun :
    Ordered lapsedRun ∧ Ordered cleanedRun ∧
      List.Forall₂ Matches
          (foreground Call.isCleanup
            (log next empty lapsedRun))
          (foreground Call.isCleanup
            (log next empty cleanedRun)) ∧
        SameShare
          ((run next empty (lapsedRun.take 2)).resolve
            ⟨6⟩ onesToken).1
          ((run next empty (cleanedRun.take 3)).resolve
            ⟨6⟩ onesToken).1 ∧
          ((run next empty (lapsedRun.take 3)).create
              ⟨7⟩ none ⟨"s", "bob", none⟩).1 =
            ((run next empty (cleanedRun.take 4)).create
              ⟨7⟩ none ⟨"s", "bob", none⟩).1 := by
  have hOrder₁ : Ordered lapsedRun := by
    simp only [Ordered, lapsedRun]
    decide
  have hOrder₂ : Ordered cleanedRun := by
    simp only [Ordered, cleanedRun, lapsedRun]
    decide
  have hMatches :
      List.Forall₂ Matches
        (foreground Call.isCleanup
          (log next empty lapsedRun))
        (foreground Call.isCleanup
          (log next empty cleanedRun)) := by
    refine .cons ?_ (.cons ?_ (.cons ?_ (.cons ?_ .nil)))
      <;> exact ⟨rfl, rfl⟩
  have hAgree :=
    (runs_agree_despite_cleanups lapsedRun cleanedRun
      hOrder₁ hOrder₂ hMatches).1
  refine ⟨hOrder₁, hOrder₂, hMatches, ?_⟩
  rcases hAgree with
    _ | ⟨_, _ | ⟨_, _ | ⟨hThird, _ | ⟨hLast, _⟩⟩⟩⟩
  exact ⟨hThird.2, hLast.2⟩

end Registry

end Share

end Gatehouse
