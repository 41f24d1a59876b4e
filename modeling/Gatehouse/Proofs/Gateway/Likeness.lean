import Gatehouse.Proofs.Gateway.Ownership
import Gatehouse.Proofs.Session.Likeness

/-
  Gateways that are alike.

  Two gateways whose sessions are alike, and which agree in
  all else but the durations that they measured, answer
  alike while their providers do.  Only the page of metrics
  tells the durations.  So two runs stay alike if the
  providers answer alike whenever they are asked.

  Key definitions include:
    * `User.SameButToken`
    * `Gateway.Alike`
    * `Gateway.AnsweredAlike`
    * `Gateway.Agree`
    * `Gateway.run`
    * `Gateway.responseAt`

  Main results include:
    * `Gateway.Alike.serve`
    * `Gateway.Alike.handle`
    * `Gateway.run_pairwise`
    * `Gateway.alike_run`
-/

namespace Gatehouse

------------------------------------------------------------
-- Users
------------------------------------------------------------

/- Are two users the same but for the provider's token? -/
def User.SameButToken
    (u v : User) : Prop :=
  { u with providerToken := v.providerToken } = v

namespace User.SameButToken

variable {u v : User}

/- Such users have one id. -/
theorem id
    (h : u.SameButToken v) :
    u.id = v.id := by
  rw [← h]

/- The document of a user does not tell the token. -/
theorem toJson
    (h : u.SameButToken v) :
    u.toJson = v.toJson := by
  rw [← h]
  rfl

end User.SameButToken

/- The end of a login is told alike but for the token. -/
theorem Session.Descriptor.Alike.documents
    {R : User → User → Prop}
    (hR : ∀ u v, R u v → u.SameButToken v)
    {d e : Session.Descriptor}
    (h : d.Alike R e) :
    d.toJson = e.toJson ∧
      Gateway.refreshJson d = Gateway.refreshJson e := by
  have hUsers := (hR _ _ h.user).toJson
  unfold Session.Descriptor.toJson Gateway.refreshJson
    Session.Descriptor.expiryJson
  rw [h.sessionId, h.expiresAt, hUsers]
  exact ⟨rfl, rfl⟩

namespace Gateway

open Refusal (SameOutcome)

variable {σ₁ σ₂ : Type}
variable {R : User → User → Prop}

/- Refusals that are alike are answered alike. -/
theorem Occasion.decline_eq_of_alike
    (o : Occasion)
    {e e' : Refusal}
    (h : e.Alike e') :
    o.decline e = o.decline e' := by
  cases h <;> rfl

/- Two outcomes that look the same, taken apart. -/
theorem cases_of_sameOutcome
    (o : Occasion)
    {α : Type}
    {S : α → α → Prop}
    {x y : Except Refusal α}
    (h : SameOutcome S x y) :
    (∃ a b, x = .ok a ∧ y = .ok b ∧ S a b) ∨
      ∃ e e',
        x = .error e ∧ y = .error e' ∧
          o.decline e = o.decline e' := by
  cases h with
  | ok hGiven => exact Or.inl ⟨_, _, rfl, rfl, hGiven⟩
  | error hRefusals =>
      exact
        Or.inr
          ⟨_, _, rfl, rfl, o.decline_eq_of_alike hRefusals⟩

------------------------------------------------------------
-- Likeness
------------------------------------------------------------

/-
  Are two gateways the same but for the users of their
  sessions and the durations that they measured?
-/
structure Alike
    (R : User → User → Prop)
    (g₁ : Gateway σ₁)
    (g₂ : Gateway σ₂) : Prop where
  sessions : g₁.sessions.Alike R g₂.sessions
  shares : g₁.shares = g₂.shares
  usualLifetime : g₁.usualLifetime = g₂.usualLifetime
  startedAt : g₁.startedAt = g₂.startedAt
  served : g₁.served = g₂.served
  answered : g₁.traffic.answered = g₂.traffic.answered
  durations :
    g₁.traffic.durations.Alike (fun _ _ => True)
      g₂.traffic.durations

/- New gateways are alike, whatever their providers are. -/
theorem alike_start
    (R : User → User → Prop)
    (terms : Session.Terms)
    (provider₁ : σ₁)
    (provider₂ : σ₂)
    (usualLifetime : Option Span)
    (tick : Nat) :
    (start (Session.Manager.start terms provider₁)
        usualLifetime tick).Alike R
      (start (Session.Manager.start terms provider₂)
        usualLifetime tick) where
  sessions :=
    Session.Manager.alike_start R terms provider₁ provider₂
  shares := rfl
  usualLifetime := rfl
  startedAt := rfl
  served := rfl
  answered := rfl
  durations := List.Forall₂.nil

/-
  Do two providers answer a request alike, if they are asked
  over it?  A login that starts needs an address that the
  policy accepts, one that ends needs a code and a state.
-/
structure AnsweredAlike
    (R : User → User → Prop)
    (p₁ : Login.Provider σ₁)
    (p₂ : Login.Provider σ₂)
    (m₁ : Session.Manager σ₁)
    (m₂ : Session.Manager σ₂)
    (r : Request) : Prop where
  authorize :
    r.task? = some .login →
      ∀ address,
        returnAddress? r.body = some address →
          m₁.terms.redirects.check address = .ok () →
            Login.Reply.Alike Eq
              ((p₁.authorize m₁.providerState
                address).1.within m₁.terms.patience)
              ((p₂.authorize m₂.providerState
                address).1.within m₂.terms.patience)
  exchange :
    r.task? = some .callback →
      ∀ c,
        Callback.ofQuery (r.target.query.getD []) = .ok c →
          c.denial = none → c.code ≠ "" → c.state ≠ "" →
            Login.Reply.Alike R
              ((p₁.exchange m₁.providerState c.code
                c.state).1.within m₁.terms.patience)
              ((p₂.exchange m₂.providerState c.code
                c.state).1.within m₂.terms.patience)

/-
  Do two answers of two gateways agree?  They are the same,
  or both are pages of metrics.
-/
inductive Agree
    (R : User → User → Prop)
    (g₁ : Gateway σ₁)
    (g₂ : Gateway σ₂) :
    Response × Gateway σ₁ →
      Response × Gateway σ₂ → Prop where
  | same {a₁ a₂}
      (hResponses : a₁.1 = a₂.1)
      (hAfter : a₁.2.Alike R a₂.2) :
      Agree R g₁ g₂ a₁ a₂
  | pages
      (hAfter : g₁.Alike R g₂) :
      Agree R g₁ g₂
        (.page (Metric.page g₁.families), g₁)
        (.page (Metric.page g₂.families), g₂)

namespace Alike

variable {g₁ : Gateway σ₁}
variable {g₂ : Gateway σ₂}

/- With sessions that are alike, gateways stay alike. -/
theorem withSessions
    (h : g₁.Alike R g₂)
    {m₁ : Session.Manager σ₁}
    {m₂ : Session.Manager σ₂}
    (hSessions : m₁.Alike R m₂) :
    { g₁ with sessions := m₁ }.Alike R
      { g₂ with sessions := m₂ } :=
  { h with sessions := hSessions }

/- With the same shares, gateways stay alike. -/
theorem withShares
    (h : g₁.Alike R g₂)
    (shares : Share.Registry) :
    { g₁ with shares := shares }.Alike R
      { g₂ with shares := shares } :=
  { h with shares := rfl }

/- What is the same at once agrees. -/
theorem agree
    (h : g₁.Alike R g₂)
    (response : Response) :
    Agree R g₁ g₂ (response, g₁) (response, g₂) :=
  .same rfl h

------------------------------------------------------------
-- Sessions
------------------------------------------------------------

section Tasks

variable {p₁ : Login.Provider σ₁}
variable {p₂ : Login.Provider σ₂}
variable (o : Occasion)
variable {r : Request}

/- Starting logins goes alike if the providers answer so. -/
theorem login
    (h : g₁.Alike R g₂)
    (hTask : r.task? = some .login)
    (hAnswered :
      AnsweredAlike R p₁ p₂ g₁.sessions g₂.sessions r) :
    Agree R g₁ g₂ (g₁.login p₁ o r) (g₂.login p₂ o r) := by
  unfold Gateway.login
  cases hAddress : returnAddress? r.body with
  | none => exact h.agree _
  | some address =>
      dsimp only
      rcases h.sessions.initiate address
          (hAnswered.authorize hTask address hAddress) with
        ⟨hOutcome, hAfter⟩
      rcases cases_of_sameOutcome o hOutcome with
        ⟨t, t', hResult₁, hResult₂, hTickets⟩ |
          ⟨e, e', hResult₁, hResult₂, hRefused⟩
      · rw [hResult₁, hResult₂, hTickets]
        exact .same rfl (h.withSessions hAfter)
      · rw [hResult₁, hResult₂]
        exact .same hRefused (h.withSessions hAfter)

/- A logout goes alike. -/
theorem logout
    (h : g₁.Alike R g₂) :
    Agree R g₁ g₂ (g₁.logout p₁ o r)
      (g₂.logout p₂ o r) := by
  unfold Gateway.logout
  dsimp only
  rcases h.sessions.logout p₁ p₂ (namedSession r) with
    ⟨hOutcome, hAfter⟩
  rcases cases_of_sameOutcome o hOutcome with
    ⟨_, _, hResult₁, hResult₂, _⟩ |
      ⟨e, e', hResult₁, hResult₂, hRefused⟩
  · rw [hResult₁, hResult₂]
    exact .same rfl (h.withSessions hAfter)
  · rw [hResult₁, hResult₂]
    exact .same hRefused (h.withSessions hAfter)

variable (hR : ∀ u v, R u v → u.SameButToken v)

include hR

/- Finishing logins goes alike if the providers answer so. -/
theorem callback
    (h : g₁.Alike R g₂)
    (hTask : r.task? = some .callback)
    (hAnswered :
      AnsweredAlike R p₁ p₂ g₁.sessions g₂.sessions r) :
    Agree R g₁ g₂ (g₁.callback p₁ o r)
      (g₂.callback p₂ o r) := by
  unfold Gateway.callback
  cases hQuery :
      Callback.ofQuery (r.target.query.getD []) with
  | error name => exact h.agree _
  | ok c =>
      dsimp only
      split
      · exact h.agree _
      next hAllowed =>
        rw [Option.not_isSome_iff_eq_none] at hAllowed
        rcases h.sessions.complete o.now o.sessionId
            (hAnswered.exchange hTask c hQuery hAllowed)
          with ⟨hOutcome, hAfter⟩
        rcases cases_of_sameOutcome o hOutcome with
          ⟨d, d', hResult₁, hResult₂, hDescriptors⟩ |
            ⟨e, e', hResult₁, hResult₂, hRefused⟩
        · rw [hResult₁, hResult₂]
          refine .same ?_ (h.withSessions hAfter)
          dsimp only
          rw [(hDescriptors.documents hR).1]
        · rw [hResult₁, hResult₂]
          exact .same hRefused (h.withSessions hAfter)

/- A refresh goes alike. -/
theorem refresh
    (h : g₁.Alike R g₂) :
    Agree R g₁ g₂ (g₁.refresh o r) (g₂.refresh o r) := by
  unfold Gateway.refresh
  dsimp only
  rcases h.sessions.refresh o.now (namedSession r) with
    ⟨hOutcome, hAfter⟩
  rcases cases_of_sameOutcome o hOutcome with
    ⟨d, d', hResult₁, hResult₂, hDescriptors⟩ |
      ⟨e, e', hResult₁, hResult₂, hRefused⟩
  · rw [hResult₁, hResult₂]
    refine .same ?_ (h.withSessions hAfter)
    dsimp only
    rw [(hDescriptors.documents hR).2]
  · rw [hResult₁, hResult₂]
    exact .same hRefused (h.withSessions hAfter)

/-
  Who is authenticated at one gateway is at the other, with
  the same id and the same document.
-/
theorem authenticate
    (h : g₁.Alike R g₂)
    (r : Request) :
    ∃ (g₁' : Gateway σ₁) (g₂' : Gateway σ₂),
      g₁'.Alike R g₂' ∧
        ((∃ u v,
          g₁.authenticate o r = (.ok u, g₁') ∧
            g₂.authenticate o r = (.ok v, g₂') ∧
              u.id = v.id ∧ u.toJson = v.toJson) ∨
          ∃ e e',
            g₁.authenticate o r = (.error e, g₁') ∧
              g₂.authenticate o r = (.error e', g₂') ∧
                o.decline e = o.decline e') := by
  rcases h.sessions.validate o.now r.headers
      r.target.query with
    ⟨hOutcome, hAfter⟩
  refine ⟨_, _, h.withSessions hAfter, ?_⟩
  unfold Gateway.authenticate
  rcases cases_of_sameOutcome o hOutcome with
    ⟨u, v, hResult₁, hResult₂, hUsers⟩ |
      ⟨e, e', hResult₁, hResult₂, hRefused⟩
  · have hSame := hR u v hUsers
    exact
      Or.inl
        ⟨u, v, Prod.ext hResult₁ rfl, Prod.ext hResult₂ rfl,
          hSame.id, hSame.toJson⟩
  · exact
      Or.inr
        ⟨e, e', Prod.ext hResult₁ rfl,
          Prod.ext hResult₂ rfl, hRefused⟩

/- Saying who the user is goes alike. -/
theorem me
    (h : g₁.Alike R g₂) :
    Agree R g₁ g₂ (g₁.me o r) (g₂.me o r) := by
  unfold Gateway.me
  rcases h.authenticate o hR r with
    ⟨g₁', g₂', hAfter,
      ⟨u, v, hResult₁, hResult₂, _, hDocuments⟩ |
        ⟨e, e', hResult₁, hResult₂, hRefused⟩⟩
  · rw [hResult₁, hResult₂]
    refine .same ?_ hAfter
    dsimp only
    rw [hDocuments]
  · rw [hResult₁, hResult₂]
    exact .same hRefused hAfter

------------------------------------------------------------
-- Shares
------------------------------------------------------------

omit hR in
/- Issuing a share goes alike, as only the id matters. -/
theorem orderShare
    (h : g₁.Alike R g₂)
    {u v : User}
    (hId : u.id = v.id)
    (w : Wish) :
    (g₁.orderShare o u w).1 = (g₂.orderShare o v w).1 ∧
      (g₁.orderShare o u w).2.Alike R
        (g₂.orderShare o v w).2 := by
  unfold Gateway.orderShare
  have hLifetime :
      w.lifetime? g₁.usualLifetime =
        w.lifetime? g₂.usualLifetime := by
    rw [h.usualLifetime]
  rw [hLifetime, h.shares, hId]
  split
  · exact ⟨rfl, h⟩
  · dsimp only
    split
    · exact ⟨rfl, h.withShares _⟩
    · exact ⟨rfl, h.withShares _⟩

/- Sharing a session goes alike. -/
theorem createShare
    (h : g₁.Alike R g₂) :
    Agree R g₁ g₂ (g₁.createShare o r)
      (g₂.createShare o r) := by
  unfold Gateway.createShare
  rcases h.authenticate o hR r with
    ⟨g₁', g₂', hAfter,
      ⟨u, v, hResult₁, hResult₂, hId, _⟩ |
        ⟨e, e', hResult₁, hResult₂, hRefused⟩⟩
  · rw [hResult₁, hResult₂]
    dsimp only
    split
    · exact .same rfl hAfter
    · rcases hAfter.orderShare o hId _ with
        ⟨hResponses, hOrdered⟩
      exact .same hResponses hOrdered
  · rw [hResult₁, hResult₂]
    exact .same hRefused hAfter

omit hR in
/- Showing a share goes alike. -/
theorem resolveShare
    (h : g₁.Alike R g₂)
    (token : String) :
    Agree R g₁ g₂ (g₁.resolveShare o token)
      (g₂.resolveShare o token) := by
  unfold Gateway.resolveShare
  rw [h.shares]
  dsimp only
  split
  · exact .same rfl (h.withShares _)
  · exact .same rfl (h.withShares _)

/- Taking a share back goes alike. -/
theorem revokeShare
    (h : g₁.Alike R g₂)
    (token : String) :
    Agree R g₁ g₂ (g₁.revokeShare o r token)
      (g₂.revokeShare o r token) := by
  unfold Gateway.revokeShare
  rcases h.authenticate o hR r with
    ⟨g₁', g₂', hAfter,
      ⟨u, v, hResult₁, hResult₂, hId, _⟩ |
        ⟨e, e', hResult₁, hResult₂, hRefused⟩⟩
  · rw [hResult₁, hResult₂]
    dsimp only
    rw [hAfter.shares, hId]
    split
    · exact .same rfl (hAfter.withShares _)
    · exact .same rfl (hAfter.withShares _)
  · rw [hResult₁, hResult₂]
    exact .same hRefused hAfter

omit hR in
/- What is done with a token goes alike. -/
theorem withToken
    (h : g₁.Alike R g₂)
    (segment : List Char)
    {use₁ : String → Response × Gateway σ₁}
    {use₂ : String → Response × Gateway σ₂}
    (hUse :
      ∀ token, Agree R g₁ g₂ (use₁ token) (use₂ token)) :
    Agree R g₁ g₂ (g₁.withToken segment use₁)
      (g₂.withToken segment use₂) := by
  unfold Gateway.withToken
  split
  · exact h.agree _
  · exact hUse _

------------------------------------------------------------
-- Every Request
------------------------------------------------------------

omit hR in
/- Gateways that are alike are in the same health. -/
theorem healthJson
    (h : g₁.Alike R g₂) :
    g₁.healthJson o = g₂.healthJson o := by
  unfold Gateway.healthJson Gateway.uptime
  rw [h.startedAt, h.served, h.sessions.active]

/- Every task goes alike if the providers answer so. -/
theorem perform
    (h : g₁.Alike R g₂)
    (hAnswered :
      AnsweredAlike R p₁ p₂ g₁.sessions g₂.sessions r)
    {task : Task}
    (hTask : r.task? = some task) :
    Agree R g₁ g₂ (g₁.perform p₁ o r task)
      (g₂.perform p₂ o r task) := by
  cases task with
  | login => exact h.login o hTask hAnswered
  | callback => exact h.callback o hR hTask hAnswered
  | logout => exact h.logout o
  | refresh => exact h.refresh o hR
  | me => exact h.me o hR
  | createShare => exact h.createShare o hR
  | resolveShare segment =>
      exact h.withToken segment (h.resolveShare o)
  | revokeShare segment =>
      exact h.withToken segment (h.revokeShare o hR)
  | health =>
      refine .same ?_ h
      dsimp only [Gateway.perform]
      rw [h.healthJson o]
  | metrics => exact .pages h

/- Every request is served alike if the providers answer so. -/
theorem serve
    (h : g₁.Alike R g₂)
    (hAnswered :
      AnsweredAlike R p₁ p₂ g₁.sessions g₂.sessions r) :
    Agree R g₁ g₂ (g₁.serve p₁ o r)
      (g₂.serve p₂ o r) := by
  unfold Gateway.serve
  cases hPlace : Place.ofPath? r.target.path with
  | none => exact h.agree _
  | some place =>
      dsimp only
      have hTask : r.task? = place.task? r.method := by
        simp [Request.task?, hPlace]
      cases hAtPlace : place.task? r.method with
      | none => exact h.agree _
      | some task =>
          exact
            h.perform o hR hAnswered (hTask.trans hAtPlace)

end Tasks

/- Answers of one status are recorded alike. -/
theorem record
    (h : g₁.Alike R g₂)
    (status : Nat)
    (method : String)
    (seconds₁ seconds₂ : Float) :
    { g₁ with
      traffic :=
        g₁.traffic.record status method seconds₁ }.Alike R
      { g₂ with
        traffic :=
          g₂.traffic.record status method seconds₂ } := by
  refine
    { h with
      answered := ?_
      durations := h.durations.insert status trivial }
  dsimp only [Traffic.record]
  rw [h.answered]

end Alike

------------------------------------------------------------
-- Handled Requests
------------------------------------------------------------

/- How long a request takes does not matter to serving it. -/
theorem serve_of_seconds
    {σ : Type}
    (p : Login.Provider σ)
    (g : Gateway σ)
    (o : Occasion)
    (seconds : Float)
    (r : Request) :
    g.serve p { o with seconds := seconds } r =
      g.serve p o r := rfl

/-
  Every request is handled alike if the providers answer so,
  however long it takes.  The responses are the same, or the
  pages of metrics of the two gateways.
-/
theorem Alike.handle
    {g₁ : Gateway σ₁}
    {g₂ : Gateway σ₂}
    {p₁ : Login.Provider σ₁}
    {p₂ : Login.Provider σ₂}
    {r : Request}
    (hR : ∀ u v, R u v → u.SameButToken v)
    (h : g₁.Alike R g₂)
    (hAnswered :
      AnsweredAlike R p₁ p₂ g₁.sessions g₂.sessions r)
    (o : Occasion)
    (seconds : Float) :
    (g₁.handle p₁ o r).2.Alike R
        (g₂.handle p₂ { o with seconds := seconds } r).2 ∧
      ((g₁.handle p₁ o r).1 =
          (g₂.handle p₂ { o with seconds := seconds } r).1 ∨
        (g₁.handle p₁ o r).1 =
            .page (Metric.page g₁.families) ∧
          (g₂.handle p₂ { o with seconds := seconds } r).1 =
            .page (Metric.page g₂.families)) := by
  have hCounted :
      { g₁ with served := g₁.served + 1 }.Alike R
        { g₂ with served := g₂.served + 1 } := by
    refine { h with served := ?_ }
    rw [h.served]
  have hAgree := hCounted.serve o hR hAnswered
  unfold Gateway.handle
  rw [serve_of_seconds p₂ _ o seconds]
  revert hAgree
  generalize
    { g₁ with served := g₁.served + 1 }.serve p₁ o r = a₁
  generalize
    { g₂ with served := g₂.served + 1 }.serve p₂ o r = a₂
  intro hAgree
  cases hAgree with
  | same hResponses hAfter =>
      dsimp only
      rw [hResponses]
      exact ⟨hAfter.record _ _ _ _, Or.inl rfl⟩
  | pages hAfter =>
      refine ⟨hAfter.record _ _ _ _, ?_⟩
      dsimp only [Response.forMethod]
      by_cases hHead : r.method = "HEAD"
      · rw [if_pos hHead, if_pos hHead]
        exact Or.inl rfl
      · rw [if_neg hHead, if_neg hHead]
        exact Or.inr ⟨rfl, rfl⟩

------------------------------------------------------------
-- Runs
------------------------------------------------------------

/- The gateway after events. -/
def run
    {σ : Type}
    (p : Login.Provider σ)
    (g : Gateway σ)
    (events : List Event) : Gateway σ :=
  events.foldl (next p) g

/- A run with one more event. -/
theorem run_append_singleton
    {σ : Type}
    (p : Login.Provider σ)
    (g : Gateway σ)
    (events : List Event)
    (event : Event) :
    run p g (events ++ [event]) =
      next p (run p g events) event :=
  List.foldl_append

/- The response to an event of a run, if it is a request. -/
def responseAt
    {σ : Type}
    (p : Login.Provider σ)
    (g : Gateway σ)
    (events : List Event)
    (n : Nat) : Option Response :=
  match events[n]? with
  | some (.request o r) =>
      some ((run p g (events.take n)).handle p o r).1
  | _ => none

/- An event, but for how long its request takes. -/
def Event.untimed :
    Event → Event
  | .request o r => .request { o with seconds := 0 } r
  | .sweep now => .sweep now
  | .clean now => .clean now

/-
  Events that are the same but for that are one request with
  other seconds, or no requests and the same.
-/
theorem Event.cases_of_untimed
    {event₁ event₂ : Event}
    (h : event₁.untimed = event₂.untimed) :
    (∃ o r seconds,
      event₁ = .request o r ∧
        event₂ =
          .request { o with seconds := seconds } r) ∨
      event₁ = event₂ ∧ ∀ o r, event₁ ≠ .request o r := by
  cases event₁ with
  | request o r =>
      cases event₂ with
      | request o' r' =>
          rcases o with ⟨_, _, _, _, _, _⟩
          rcases o' with ⟨_, _, _, _, _, seconds⟩
          cases h
          exact Or.inl ⟨_, _, seconds, rfl, rfl⟩
      | sweep now => cases h
      | clean now => cases h
  | sweep now =>
      cases event₂ with
      | sweep now' =>
          cases h
          exact Or.inr ⟨rfl, by simp⟩
      | request o r => cases h
      | clean now' => cases h
  | clean now =>
      cases event₂ with
      | clean now' =>
          cases h
          exact Or.inr ⟨rfl, by simp⟩
      | request o r => cases h
      | sweep now' => cases h

section Runs

variable {p₁ : Login.Provider σ₁}
variable {p₂ : Login.Provider σ₂}
variable {g₁ : Gateway σ₁}
variable {g₂ : Gateway σ₂}
variable {events₁ events₂ : List Event}

/-
  What two gateways have in common lasts over runs that are
  equally long, if each pair of events keeps it.
-/
theorem run_pairwise
    {P : Gateway σ₁ → Gateway σ₂ → Prop}
    (hStart : P g₁ g₂)
    (hLength : events₁.length = events₂.length)
    (hNext :
      ∀ n event₁ event₂,
        events₁[n]? = some event₁ →
          events₂[n]? = some event₂ →
            P (run p₁ g₁ (events₁.take n))
                (run p₂ g₂ (events₂.take n)) →
              P (next p₁ (run p₁ g₁ (events₁.take n)) event₁)
                (next p₂ (run p₂ g₂ (events₂.take n))
                  event₂))
    (n : Nat) :
    P (run p₁ g₁ (events₁.take n))
      (run p₂ g₂ (events₂.take n)) := by
  induction n with
  | zero => exact hStart
  | succ n ih =>
      by_cases hMore : n < events₁.length
      · have hMore₂ : n < events₂.length := hLength ▸ hMore
        have hEvent₁ := List.getElem?_eq_getElem hMore
        have hEvent₂ := List.getElem?_eq_getElem hMore₂
        rw [List.take_add_one, List.take_add_one, hEvent₁,
          hEvent₂]
        dsimp only [Option.toList]
        rw [run_append_singleton, run_append_singleton]
        exact hNext n _ _ hEvent₁ hEvent₂ ih
      · have hOver := Nat.le_of_not_lt hMore
        rw [List.take_of_length_le hOver,
          List.take_of_length_le (hLength ▸ hOver)] at ih
        rw [List.take_of_length_le (Nat.le_succ_of_le hOver),
          List.take_of_length_le
            (Nat.le_succ_of_le (hLength ▸ hOver))]
        exact ih

variable (hR : ∀ u v, R u v → u.SameButToken v)

include hR

/- Gateways stay alike if the providers answer alike. -/
theorem Alike.next
    (h : g₁.Alike R g₂)
    {event₁ event₂ : Event}
    (hSame : event₁.untimed = event₂.untimed)
    (hAnswered :
      ∀ o r, event₁ = .request o r →
        AnsweredAlike R p₁ p₂ g₁.sessions g₂.sessions r) :
    (next p₁ g₁ event₁).Alike R (next p₂ g₂ event₂) := by
  rcases Event.cases_of_untimed hSame with
    ⟨o, r, seconds, rfl, rfl⟩ | ⟨rfl, hOther⟩
  · exact (h.handle hR (hAnswered o r rfl) o seconds).1
  · cases event₁ with
    | request o r => exact absurd rfl (hOther o r)
    | sweep now =>
        exact h.withSessions (h.sessions.sweep now)
    | clean now =>
        dsimp only [Gateway.next, cleanShares]
        rw [h.shares]
        exact h.withShares _

/-
  Two runs stay alike at every point, if the providers have
  answered alike up to there.
-/
theorem alike_run
    (h : g₁.Alike R g₂)
    (hSame :
      events₁.map Event.untimed =
        events₂.map Event.untimed)
    (hAnswered :
      ∀ n o r,
        events₁[n]? = some (.request o r) →
          AnsweredAlike R p₁ p₂
            (run p₁ g₁ (events₁.take n)).sessions
            (run p₂ g₂ (events₂.take n)).sessions r)
    (n : Nat) :
    (run p₁ g₁ (events₁.take n)).Alike R
      (run p₂ g₂ (events₂.take n)) := by
  refine
    run_pairwise h (by simpa using congrArg List.length hSame)
      ?_ n
  intro n event₁ event₂ hEvent₁ hEvent₂ hAlike
  have hUntimed : event₁.untimed = event₂.untimed := by
    have hBoth := congrArg (·[n]?) hSame
    simpa [List.getElem?_map, hEvent₁, hEvent₂] using hBoth
  apply hAlike.next hR hUntimed
  rintro o r rfl
  exact hAnswered n o r hEvent₁

end Runs

end Gateway

end Gatehouse
