import Gatehouse.Proofs.Share.Holding

/-
  A store behaves as one set of shares.

  The rules of a set of shares say what each call gives and
  what the set is after it.  Every sequence of calls gives,
  on a store that starts without shares, what the rules give
  on the empty set, and the indexes of the store represent
  the set that the rules lead to.

  Key definitions include:
    * `Share.Store.Call`
    * `Share.Store.perform`
    * `Share.Collection.Distinct`
    * `Share.Collection.Step`
    * `Share.Collection.Run`

  Main results include:
    * `Share.Collection.Step.deterministic`
    * `Share.Store.Represents.perform`
    * `Share.Store.run_refines_set`
-/

namespace Gatehouse

namespace Share

------------------------------------------------------------
-- Calls of a Store
------------------------------------------------------------

namespace Store

/- What a store can be asked to do. -/
inductive Call where
  | save (x : Share)
  | claim (now : Instant) (x : Share)
  | findLive (now : Instant) (token : String)
  | findToken (token : String)
  | findSession (sessionId : String)
  | deleteSession (sessionId : String)
  | deleteToken (token : String)
  | cleanup (now : Instant)
  deriving DecidableEq

/- What a call gives if it succeeds. -/
inductive Yield where
  | nothing
  | share (x : Share)
  | count (n : Nat)
  deriving DecidableEq

/- What a call gives. -/
abbrev Reply :=
  Except Fault Yield

/- Perform a call. -/
def perform
    (s : Store) :
    Call → Reply × Store
  | .save x => (.ok .nothing, s.save x)
  | .claim now x =>
      let (result, s') := s.claim now x
      (result.map (fun _ => .nothing), s')
  | .findLive now token =>
      let (result, s') := s.findLive now token
      (result.map .share, s')
  | .findToken token =>
      ((s.findToken token).map .share, s)
  | .findSession sessionId =>
      ((s.findSession sessionId).map .share, s)
  | .deleteSession sessionId =>
      (.ok .nothing, s.deleteSession sessionId)
  | .deleteToken token =>
      (.ok .nothing, s.deleteToken token)
  | .cleanup now =>
      let (removed, s') := s.cleanup now
      (.ok (.count removed), s')

/- Perform calls in their order. -/
def run
    (s : Store) :
    List Call → List Reply × Store
  | [] => ([], s)
  | call :: calls =>
      let (reply, s') := s.perform call
      let (replies, s'') := s'.run calls
      (reply :: replies, s'')

end Store

------------------------------------------------------------
-- Rules of a Set
------------------------------------------------------------

namespace Collection

open Store (Call Reply)

/- No token and no session occurs twice. -/
structure Distinct
    (c : Finset Share) : Prop where
  token :
    ∀ x ∈ c, ∀ y ∈ c, x.token = y.token → x = y
  session :
    ∀ x ∈ c, ∀ y ∈ c, x.sessionId = y.sessionId → x = y

namespace Distinct

variable {c : Finset Share}

/- A token has one share at most. -/
theorem eq_of_token
    (h : Distinct c)
    {x y : Share}
    {token : String}
    (hx : x ∈ c)
    (hy : y ∈ c)
    (hX : x.token = token)
    (hY : y.token = token) :
    x = y :=
  h.token x hx y hy (hX.trans hY.symm)

/- A session has one share at most. -/
theorem eq_of_session
    (h : Distinct c)
    {x y : Share}
    {sessionId : String}
    (hx : x ∈ c)
    (hy : y ∈ c)
    (hX : x.sessionId = sessionId)
    (hY : y.sessionId = sessionId) :
    x = y :=
  h.session x hx y hy (hX.trans hY.symm)

end Distinct

/-
  What a call on a set of shares gives, and what the set is
  afterwards.
-/
inductive Step :
    Finset Share → Call → Reply → Finset Share → Prop where
  | save {c x} :
      Step c (.save x) (.ok .nothing) (put c x)
  | claim {c now x}
      (hFree : ¬Held c now x) :
      Step c (.claim now x) (.ok .nothing) (put c x)
  | claimHeld {c now x}
      (hHeld : Held c now x) :
      Step c (.claim now x) (.error .notFound) c
  | findLive {c now token x}
      (hx : x ∈ c)
      (hToken : x.token = token)
      (hLive : x.isExpired now = false) :
      Step c (.findLive now token) (.ok (.share x)) c
  | findLiveExpired {c now token x}
      (hx : x ∈ c)
      (hToken : x.token = token)
      (hExpired : x.isExpired now = true) :
      Step c (.findLive now token) (.error .expired)
        (c.erase x)
  | findLiveAbsent {c now token}
      (hAbsent : ∀ x ∈ c, x.token ≠ token) :
      Step c (.findLive now token) (.error .notFound) c
  | findToken {c token x}
      (hx : x ∈ c)
      (hToken : x.token = token) :
      Step c (.findToken token) (.ok (.share x)) c
  | findTokenAbsent {c token}
      (hAbsent : ∀ x ∈ c, x.token ≠ token) :
      Step c (.findToken token) (.error .notFound) c
  | findSession {c sessionId x}
      (hx : x ∈ c)
      (hSession : x.sessionId = sessionId) :
      Step c (.findSession sessionId) (.ok (.share x)) c
  | findSessionAbsent {c sessionId}
      (hAbsent : ∀ x ∈ c, x.sessionId ≠ sessionId) :
      Step c (.findSession sessionId) (.error .notFound) c
  | deleteSession {c sessionId} :
      Step c (.deleteSession sessionId) (.ok .nothing)
        (c.filter (fun y => y.sessionId ≠ sessionId))
  | deleteToken {c token} :
      Step c (.deleteToken token) (.ok .nothing)
        (c.filter (fun y => y.token ≠ token))
  | cleanup {c now} :
      Step c (.cleanup now)
        (.ok (.count
          (c.filter (fun y =>
            y.isExpired now = true)).card))
        (c.filter (fun y => y.isExpired now = false))

/- What calls on a set of shares give, one after another. -/
inductive Run :
    Finset Share → List Call → List Reply →
      Finset Share → Prop where
  | nil {c} :
      Run c [] [] c
  | cons {c c' c'' call calls reply replies}
      (hStep : Step c call reply c')
      (hRun : Run c' calls replies c'') :
      Run c (call :: calls) (reply :: replies) c''

------------------------------------------------------------
-- Determinism
------------------------------------------------------------

/-
  On a set with distinct tokens and sessions, the rules give
  one reply and one set at most.
-/
theorem Step.deterministic
    {c c₁ c₂ : Finset Share}
    {call : Call}
    {reply₁ reply₂ : Reply}
    (hDistinct : Distinct c)
    (h₁ : Step c call reply₁ c₁)
    (h₂ : Step c call reply₂ c₂) :
    reply₁ = reply₂ ∧ c₁ = c₂ := by
  cases h₁ with
  | save =>
      cases h₂ with
      | save => exact ⟨rfl, rfl⟩
  | claim hFree =>
      cases h₂ with
      | claim => exact ⟨rfl, rfl⟩
      | claimHeld hHeld => exact absurd hHeld hFree
  | claimHeld hHeld =>
      cases h₂ with
      | claim hFree => exact absurd hHeld hFree
      | claimHeld => exact ⟨rfl, rfl⟩
  | findLive hx hToken hLive =>
      cases h₂ with
      | findLive hy hToken' =>
          have hSame :=
            hDistinct.eq_of_token hx hy hToken hToken'
          rw [hSame]
          exact ⟨rfl, rfl⟩
      | findLiveExpired hy hToken' hExpired =>
          have hSame :=
            hDistinct.eq_of_token hx hy hToken hToken'
          rw [hSame, hExpired] at hLive
          exact absurd hLive (by decide)
      | findLiveAbsent hAbsent =>
          exact absurd hToken (hAbsent _ hx)
  | findLiveExpired hx hToken hExpired =>
      cases h₂ with
      | findLive hy hToken' hLive =>
          have hSame :=
            hDistinct.eq_of_token hx hy hToken hToken'
          rw [hSame, hLive] at hExpired
          exact absurd hExpired (by decide)
      | findLiveExpired hy hToken' =>
          have hSame :=
            hDistinct.eq_of_token hx hy hToken hToken'
          rw [hSame]
          exact ⟨rfl, rfl⟩
      | findLiveAbsent hAbsent =>
          exact absurd hToken (hAbsent _ hx)
  | findLiveAbsent hAbsent =>
      cases h₂ with
      | findLive hy hToken =>
          exact absurd hToken (hAbsent _ hy)
      | findLiveExpired hy hToken =>
          exact absurd hToken (hAbsent _ hy)
      | findLiveAbsent => exact ⟨rfl, rfl⟩
  | findToken hx hToken =>
      cases h₂ with
      | findToken hy hToken' =>
          have hSame :=
            hDistinct.eq_of_token hx hy hToken hToken'
          rw [hSame]
          exact ⟨rfl, rfl⟩
      | findTokenAbsent hAbsent =>
          exact absurd hToken (hAbsent _ hx)
  | findTokenAbsent hAbsent =>
      cases h₂ with
      | findToken hy hToken =>
          exact absurd hToken (hAbsent _ hy)
      | findTokenAbsent => exact ⟨rfl, rfl⟩
  | findSession hx hSession =>
      cases h₂ with
      | findSession hy hSession' =>
          have hSame :=
            hDistinct.eq_of_session hx hy hSession hSession'
          rw [hSame]
          exact ⟨rfl, rfl⟩
      | findSessionAbsent hAbsent =>
          exact absurd hSession (hAbsent _ hx)
  | findSessionAbsent hAbsent =>
      cases h₂ with
      | findSession hy hSession =>
          exact absurd hSession (hAbsent _ hy)
      | findSessionAbsent => exact ⟨rfl, rfl⟩
  | deleteSession =>
      cases h₂ with
      | deleteSession => exact ⟨rfl, rfl⟩
  | deleteToken =>
      cases h₂ with
      | deleteToken => exact ⟨rfl, rfl⟩
  | cleanup =>
      cases h₂ with
      | cleanup => exact ⟨rfl, rfl⟩

end Collection

------------------------------------------------------------
-- Simulation
------------------------------------------------------------

namespace Store

open Collection (Distinct Step Run Held put)

namespace Represents

variable {s : Store} {c : Finset Share}

/- A represented set has distinct tokens and sessions. -/
theorem distinct
    (h : s.Represents c) :
    Distinct c where
  token _ hx _ hy := h.eq_of_token_eq hx hy
  session _ hx _ hy := h.eq_of_session_eq hx hy

/- A claim follows the rules. -/
theorem claim
    (h : s.Represents c)
    (now : Instant)
    (x : Share) :
    ∃ c',
      (s.perform (.claim now x)).2.Represents c' ∧
        Step c (.claim now x)
          (s.perform (.claim now x)).1 c' := by
  by_cases hHeld : Held c now x
  · simp only [Store.perform, h.claim_of_held hHeld]
    exact ⟨c, h, Step.claimHeld hHeld⟩
  · simp only [Store.perform, h.claim_of_free hHeld]
    exact ⟨put c x, h.save x, Step.claim hHeld⟩

/- A lookup of a live share follows the rules. -/
theorem findLive
    (h : s.Represents c)
    (now : Instant)
    (token : String) :
    ∃ c',
      (s.perform (.findLive now token)).2.Represents c' ∧
        Step c (.findLive now token)
          (s.perform (.findLive now token)).1 c' := by
  simp only [Store.perform]
  rcases h.findLive_cases now token with
    ⟨hAbsent, hFound⟩ |
      ⟨x, hx, hToken, hLive, hFound⟩ |
        ⟨x, hx, hToken, hExpired, hFound⟩
  · rw [hFound]
    exact ⟨c, h, Step.findLiveAbsent hAbsent⟩
  · rw [hFound]
    exact ⟨c, h, Step.findLive hx hToken hLive⟩
  · rw [hFound]
    exact
      ⟨c.erase x, h.without hx,
        Step.findLiveExpired hx hToken hExpired⟩

/- A lookup by token follows the rules. -/
theorem findToken
    (h : s.Represents c)
    (token : String) :
    Step c (.findToken token)
      (s.perform (.findToken token)).1 c := by
  simp only [Store.perform]
  rcases h.findToken_cases token with
    ⟨hAbsent, hFound⟩ | ⟨x, hx, hToken, hFound⟩
  · rw [hFound]
    exact Step.findTokenAbsent hAbsent
  · rw [hFound]
    exact Step.findToken hx hToken

/- A lookup by session follows the rules. -/
theorem findSession
    (h : s.Represents c)
    (sessionId : String) :
    Step c (.findSession sessionId)
      (s.perform (.findSession sessionId)).1 c := by
  simp only [Store.perform, Store.findSession]
  cases hCurrent : s.current? sessionId with
  | none =>
      exact
        Step.findSessionAbsent
          ((h.current?_eq_none_iff sessionId).mp hCurrent)
  | some x =>
      rcases (h.current?_eq_some_iff sessionId x).mp
          hCurrent with
        ⟨hx, hSession⟩
      exact Step.findSession hx hSession

/- Every call follows the rules. -/
theorem perform
    (h : s.Represents c)
    (call : Call) :
    ∃ c',
      (s.perform call).2.Represents c' ∧
        Step c call (s.perform call).1 c' := by
  cases call with
  | save x => exact ⟨put c x, h.save x, Step.save⟩
  | claim now x => exact h.claim now x
  | findLive now token => exact h.findLive now token
  | findToken token => exact ⟨c, h, h.findToken token⟩
  | findSession sessionId =>
      exact ⟨c, h, h.findSession sessionId⟩
  | deleteSession sessionId =>
      exact ⟨_, h.deleteSession sessionId,
        Step.deleteSession⟩
  | deleteToken token =>
      exact ⟨_, h.deleteToken token, Step.deleteToken⟩
  | cleanup now =>
      refine ⟨_, h.cleanup now, ?_⟩
      simp only [Store.perform, h.cleanup_count]
      exact Step.cleanup

/- Every sequence of calls follows the rules, step by step. -/
theorem run
    (calls : List Call) :
    ∀ {s : Store} {c : Finset Share},
      s.Represents c →
        ∃ c',
          (s.run calls).2.Represents c' ∧
            Run c calls (s.run calls).1 c' := by
  induction calls with
  | nil =>
      intro s c h
      exact ⟨c, h, Run.nil⟩
  | cons call calls ih =>
      intro s c h
      rcases h.perform call with ⟨c', h', hStep⟩
      rcases ih h' with ⟨c'', h'', hRun⟩
      exact ⟨c'', h'', Run.cons hStep hRun⟩

/- The rules lead nowhere else than the store does. -/
theorem eq_of_run
    {calls : List Call}
    {replies : List Reply}
    {c c' : Finset Share}
    (hRun : Run c calls replies c') :
    ∀ {s : Store},
      s.Represents c →
        replies = (s.run calls).1 ∧
          (s.run calls).2.Represents c' := by
  induction hRun with
  | nil =>
      intro s h
      exact ⟨rfl, h⟩
  | @cons c c₁ c₂ call calls reply replies hStep _ ih =>
      intro s h
      rcases h.perform call with ⟨c', h', hPerformed⟩
      rcases hStep.deterministic h.distinct hPerformed with
        ⟨hReply, hNext⟩
      rw [← hNext] at h'
      rcases ih h' with ⟨hReplies, hFinal⟩
      refine ⟨?_, hFinal⟩
      rw [hReply, hReplies]
      rfl

end Represents

/-
  After any calls on a store that started without shares,
  the two indexes represent exactly one set of shares, with
  distinct tokens and sessions.  The replies and that set
  are the only ones that the rules of a set allow.
-/
theorem run_refines_set
    (calls : List Call) :
    ∃ c : Finset Share,
      (∀ c', (empty.run calls).2.Represents c' ↔ c' = c) ∧
        Distinct c ∧
          ∀ replies c',
            Run ∅ calls replies c' ↔
              replies = (empty.run calls).1 ∧ c' = c := by
  rcases represents_empty.run calls with ⟨c, h, hRun⟩
  refine ⟨c, ?_, h.distinct, ?_⟩
  · intro c'
    constructor
    · intro h'
      exact h'.unique h
    · rintro rfl
      exact h
  · intro replies c'
    constructor
    · intro hOther
      rcases Represents.eq_of_run hOther represents_empty
        with ⟨hReplies, h'⟩
      exact ⟨hReplies, h'.unique h⟩
    · rintro ⟨rfl, rfl⟩
      exact hRun

end Store

end Share

end Gatehouse
