import Gatehouse.Proofs.Gateway.Failures
import Gatehouse.Proofs.Gateway.Likeness

/-
  The tokens of the provider stay inside.

  The gateway keeps the token that the provider gives with a
  user, and spends it on a logout.  No response tells it,
  and none depends on it: if two providers answer alike but
  for the tokens of the users, then all responses of the two
  runs are the same, the page of metrics too.

  Key definitions include:
    * `Gateway.AlikeInTime`

  Main results include:
    * `Gateway.traffic_handle`
    * `Gateway.alikeInTime_run`
    * `Gateway.responses_independent_of_tokens`
-/

namespace Gatehouse

namespace Gateway

open Session.Manager (briefTerms)

------------------------------------------------------------
-- Counts of Answers
------------------------------------------------------------

section Traffic

variable {σ : Type}
variable (p : Login.Provider σ)
variable (g : Gateway σ)
variable (o : Occasion)
variable (r : Request)

/- An answer is counted once, under its status. -/
theorem traffic_handle :
    (g.handle p o r).2.traffic =
      g.traffic.record (g.handle p o r).1.status r.method
        o.seconds := by
  rcases exists_serve_eq p { g with served := g.served + 1 }
      o r with
    ⟨_, _, hServed⟩
  unfold handle
  rw [Response.status_forMethod]
  dsimp only
  rw [hServed]

end Traffic

------------------------------------------------------------
-- The Same Durations
------------------------------------------------------------

variable {σ₁ σ₂ : Type}
variable {R : User → User → Prop}
variable {p₁ : Login.Provider σ₁}
variable {p₂ : Login.Provider σ₂}

/- Are two gateways alike, with the same durations? -/
structure AlikeInTime
    (R : User → User → Prop)
    (g₁ : Gateway σ₁)
    (g₂ : Gateway σ₂) : Prop where
  alike : g₁.Alike R g₂
  traffic : g₁.traffic = g₂.traffic

namespace AlikeInTime

variable {g₁ : Gateway σ₁}
variable {g₂ : Gateway σ₂}

/- Such gateways have the same metrics. -/
theorem families
    (h : g₁.AlikeInTime R g₂) :
    g₁.families = g₂.families := by
  unfold Gateway.families
  rw [h.alike.sessions.tally, h.alike.shares, h.traffic]

/- Such gateways give the same response. -/
theorem handle
    (hR : ∀ u v, R u v → u.SameButToken v)
    (h : g₁.AlikeInTime R g₂)
    (o : Occasion)
    {r : Request}
    (hAnswered :
      AnsweredAlike R p₁ p₂ g₁.sessions g₂.sessions r) :
    (g₁.handle p₁ o r).1 = (g₂.handle p₂ o r).1 := by
  rcases (h.alike.handle hR hAnswered o o.seconds).2 with
    hSame | ⟨hPage₁, hPage₂⟩
  · exact hSame
  · rw [hPage₁, h.families]
    exact hPage₂.symm

/- Such gateways stay so if the providers answer alike. -/
theorem next
    (hR : ∀ u v, R u v → u.SameButToken v)
    (h : g₁.AlikeInTime R g₂)
    (event : Event)
    (hAnswered :
      ∀ o r, event = .request o r →
        AnsweredAlike R p₁ p₂ g₁.sessions g₂.sessions r) :
    (next p₁ g₁ event).AlikeInTime R
      (next p₂ g₂ event) := by
  refine ⟨h.alike.next hR rfl hAnswered, ?_⟩
  cases event with
  | request o r =>
      dsimp only [Gateway.next]
      rw [traffic_handle, traffic_handle, h.traffic,
        h.handle hR o (hAnswered o r rfl)]
  | sweep now => exact h.traffic
  | clean now => exact h.traffic

end AlikeInTime

------------------------------------------------------------
-- Whole Runs
------------------------------------------------------------

/-
  Gateways that are alike, with the same durations, stay so
  over the same events.
-/
theorem alikeInTime_run
    (hR : ∀ u v, R u v → u.SameButToken v)
    {g₁ : Gateway σ₁}
    {g₂ : Gateway σ₂}
    (h : g₁.AlikeInTime R g₂)
    {events : List Event}
    (hAnswered :
      ∀ n o r,
        events[n]? = some (.request o r) →
          AnsweredAlike R p₁ p₂
            (run p₁ g₁ (events.take n)).sessions
            (run p₂ g₂ (events.take n)).sessions r)
    (n : Nat) :
    (run p₁ g₁ (events.take n)).AlikeInTime R
      (run p₂ g₂ (events.take n)) := by
  refine run_pairwise h rfl ?_ n
  intro n event event' hEvent hEvent' hBefore
  rw [hEvent] at hEvent'
  rw [← Option.some.inj hEvent']
  apply hBefore.next hR
  rintro o r rfl
  exact hAnswered n o r hEvent

/-
  No response depends on the tokens that the provider gives.
  Take two runs of new gateways over the same events, each
  with a provider of its own.  If the providers answer alike
  whenever they are asked, but for the tokens of the users
  that they let in, then all responses of the two runs are
  the same.  What the providers make of a token that is
  taken back, or that there is none, does not matter.
-/
theorem responses_independent_of_tokens
    (p₁ : Login.Provider σ₁)
    (p₂ : Login.Provider σ₂)
    (terms : Session.Terms)
    (provider₁ : σ₁)
    (provider₂ : σ₂)
    (usualLifetime : Option Span)
    (tick : Nat)
    (events : List Event)
    (hAnswered :
      ∀ n o r,
        events[n]? = some (.request o r) →
          AnsweredAlike User.SameButToken p₁ p₂
            (run p₁
              (start (Session.Manager.start terms provider₁)
                usualLifetime tick)
              (events.take n)).sessions
            (run p₂
              (start (Session.Manager.start terms provider₂)
                usualLifetime tick)
              (events.take n)).sessions r)
    (n : Nat) :
    responseAt p₁
        (start (Session.Manager.start terms provider₁)
          usualLifetime tick) events n =
      responseAt p₂
        (start (Session.Manager.start terms provider₂)
          usualLifetime tick) events n := by
  have hR :
      ∀ u v : User, u.SameButToken v → u.SameButToken v :=
    fun _ _ hSame => hSame
  have hStart :=
    alike_start User.SameButToken terms provider₁ provider₂
      usualLifetime tick
  have hRun := alikeInTime_run hR ⟨hStart, rfl⟩ hAnswered n
  unfold responseAt
  cases hEvent : events[n]? with
  | none => rfl
  | some event =>
      cases event with
      | request o r =>
          exact
            congrArg some
              (hRun.handle hR o (hAnswered n o r hEvent))
      | sweep now => rfl
      | clean now => rfl

/-
  A provider that gives every user one token, and counts the
  tokens that are taken back.
-/
def granting
    (token : String) : Login.Provider Nat where
  authorize := fun n _ => (⟨0, .ok ⟨"", ""⟩⟩, n)
  exchange := fun n code _ =>
    (⟨0, .ok ⟨code, code, code, .hide token, [], []⟩⟩, n)
  revoke := fun n _ => (⟨0, .ok ()⟩, n + 1)

/- Such providers answer alike but for their tokens. -/
theorem answeredAlike_granting
    (token₁ token₂ : String)
    (m₁ m₂ : Session.Manager Nat)
    (r : Request) :
    AnsweredAlike User.SameButToken (granting token₁)
      (granting token₂) m₁ m₂ r where
  authorize := by
    intro _ address _ _
    simp only [granting, Login.Answer.within,
      Nat.not_lt_zero, if_false]
    exact .done rfl
  exchange := by
    intro _ c _ _ _ _
    simp only [granting, Login.Answer.within,
      Nat.not_lt_zero, if_false]
    exact .done rfl

/- A logout of who logged in at an occasion. -/
def logoutOf
    (login : Occasion) : Request :=
  ⟨"POST", .ofChars "/auth/logout".toList,
    [⟨"x-session-id", Utf8.encode login.sessionId⟩], []⟩

/- A login, a look at it and its logout. -/
def spentLogin : List Event :=
  [.request (drawing 1) (returnOf "ann"),
   .request (drawing 2) (meOf (drawing 1)),
   .request (drawing 3) (logoutOf (drawing 1))]

/-
  A logout looks the same whether a token is taken back or
  there is none.
-/
theorem responseAt_spentLogin :
    (responseAt (granting "token")
          (start (Session.Manager.start briefTerms 0) none 0)
          spentLogin 2).map (·.status) = some 200 ∧
      responseAt (granting "token")
          (start (Session.Manager.start briefTerms 0) none 0)
          spentLogin 2 =
        responseAt (granting "")
          (start (Session.Manager.start briefTerms 0) none 0)
          spentLogin 2 ∧
        (run (granting "token")
            (start (Session.Manager.start briefTerms 0)
              none 0)
            spentLogin).sessions.providerState = 1 ∧
          (run (granting "")
              (start (Session.Manager.start briefTerms 0)
                none 0)
              spentLogin).sessions.providerState = 0 := by
  refine ⟨by decide +kernel, ?_, ?_, ?_⟩
  · apply
      responses_independent_of_tokens (granting "token")
        (granting "") briefTerms 0 0 none 0 spentLogin
    intro n o r _
    exact answeredAlike_granting "token" "" _ _ r
  · decide +kernel
  · decide +kernel

end Gateway

end Gatehouse
