import Gatehouse.Proofs.Gateway.Likeness
import Gatehouse.Proofs.Gateway.Sessions
import Gatehouse.Proofs.Share.Discretion

/-
  What the gateway does not tell of shares.

  A user who takes shares back gets the same responses from
  two gateways with the same sessions and the same shares of
  that user, whatever shares of others they have.  Who looks
  at shares gets the same responses from two gateways whose
  shares differ in their creators only.

  Key definitions include:
    * `Gateway.SameAnswer`
    * `Gateway.SameFor`
    * `Gateway.RevokesFor`
    * `Gateway.Event.Resolves`

  Main results include:
    * `Gateway.sameAnswers_run`
    * `Gateway.SameFor.revokeShare`
    * `Gateway.sameAnswer_resolveShare`
    * `Gateway.shares_stay_private`
-/

namespace Gatehouse

namespace Gateway

open Session.Manager (byCode)
open Share (Registry)

variable {σ σ₁ σ₂ : Type}

------------------------------------------------------------
-- Answers in Common
------------------------------------------------------------

/-
  Are two answers the same, from gateways that are related
  afterwards?
-/
structure SameAnswer
    (Related : Gateway σ₁ → Gateway σ₂ → Prop)
    (a₁ : Response × Gateway σ₁)
    (a₂ : Response × Gateway σ₂) : Prop where
  response : a₁.1 = a₂.1
  after : Related a₁.2 a₂.2

section TwoGateways

variable {Related : Gateway σ₁ → Gateway σ₂ → Prop}
variable {p₁ : Login.Provider σ₁}
variable {p₂ : Login.Provider σ₂}
variable {g₁ : Gateway σ₁}
variable {g₂ : Gateway σ₂}
variable {o : Occasion}
variable {r : Request}

/- What is done with a token is answered alike. -/
theorem SameAnswer.withToken
    (h : Related g₁ g₂)
    (segment : List Char)
    {use₁ : String → Response × Gateway σ₁}
    {use₂ : String → Response × Gateway σ₂}
    (hUse :
      ∀ token, SameAnswer Related (use₁ token) (use₂ token)) :
    SameAnswer Related (g₁.withToken segment use₁)
      (g₂.withToken segment use₂) := by
  unfold Gateway.withToken
  split
  · exact ⟨rfl, h⟩
  · exact hUse _

/-
  A request is answered alike if its task is, and if the
  counts of the gateways do not relate them.
-/
theorem SameAnswer.handle
    {task : Task}
    (hTask : r.task? = some task)
    (hPerformed :
      SameAnswer Related
        ({ g₁ with served := g₁.served + 1 }.perform p₁ o r
          task)
        ({ g₂ with served := g₂.served + 1 }.perform p₂ o r
          task))
    (hTraffic :
      ∀ {g₁' : Gateway σ₁} {g₂' : Gateway σ₂}
          (t₁ t₂ : Traffic),
        Related g₁' g₂' →
          Related { g₁' with traffic := t₁ }
            { g₂' with traffic := t₂ }) :
    SameAnswer Related (g₁.handle p₁ o r)
      (g₂.handle p₂ o r) := by
  unfold Gateway.handle
  rw [serve_of_task? p₁ _ o r hTask,
    serve_of_task? p₂ _ o r hTask]
  refine ⟨?_, hTraffic _ _ hPerformed.after⟩
  dsimp only
  rw [hPerformed.response]

/-
  If related gateways answer every request of a run alike,
  and it has nothing but requests, then they give the same
  responses and stay related.
-/
theorem sameAnswers_run
    {events : List Event}
    (hStart : Related g₁ g₂)
    (hNext :
      ∀ n event, events[n]? = some event →
        Related (run p₁ g₁ (events.take n))
            (run p₂ g₂ (events.take n)) →
          ∃ o r,
            event = .request o r ∧
              SameAnswer Related
                ((run p₁ g₁ (events.take n)).handle p₁ o r)
                ((run p₂ g₂ (events.take n)).handle p₂ o r))
    (n : Nat) :
    responseAt p₁ g₁ events n = responseAt p₂ g₂ events n ∧
      Related (run p₁ g₁ (events.take n))
        (run p₂ g₂ (events.take n)) := by
  have hRelated :
      ∀ n, Related (run p₁ g₁ (events.take n))
        (run p₂ g₂ (events.take n)) := by
    refine run_pairwise hStart rfl ?_
    intro n event event' hEvent hEvent' hBefore
    rw [hEvent] at hEvent'
    rw [← Option.some.inj hEvent']
    rcases hNext n event hEvent hBefore with
      ⟨o, r, rfl, hSame⟩
    exact hSame.after
  refine ⟨?_, hRelated n⟩
  unfold responseAt
  cases hEvent : events[n]? with
  | none => rfl
  | some event =>
      rcases hNext n event hEvent (hRelated n) with
        ⟨o, r, rfl, hSame⟩
      exact congrArg some hSame.response

end TwoGateways

------------------------------------------------------------
-- Revocations
------------------------------------------------------------

/- What a user is told of a revocation. -/
def Occasion.tellRevoked
    (o : Occasion) :
    Except Share.Fault Unit → Response
  | .error e => o.refuse (.ofShare e)
  | .ok () => .document 200 (messageJson "share revoked")

/- Who is authenticated is told what the registry says. -/
theorem revokeShare_of_authenticate
    {g g' : Gateway σ}
    {o : Occasion}
    {r : Request}
    {user : User}
    (hUser : g.authenticate o r = (.ok user, g'))
    (token : String) :
    g.revokeShare o r token =
      (o.tellRevoked (g'.shares.revoke token user.id).1,
        { g' with
          shares := (g'.shares.revoke token user.id).2 }) := by
  rw [revokeShare, hUser]
  dsimp only
  cases (g'.shares.revoke token user.id).1 <;> rfl

/- Who is authenticated is told by the sessions alone. -/
theorem authenticate_of_sessions
    {g₁ g₂ : Gateway σ}
    (h : g₁.sessions = g₂.sessions)
    (o : Occasion)
    (r : Request) :
    g₂.authenticate o r =
      ((g₁.authenticate o r).1,
        { g₂ with
          sessions := (g₁.authenticate o r).2.sessions }) := by
  unfold authenticate
  rw [h]

/-
  Do two gateways have the same sessions and the same shares
  of a user?
-/
structure SameFor
    (user : String)
    (g₁ g₂ : Gateway σ) : Prop where
  sessions : g₁.sessions = g₂.sessions
  shares : Registry.SameFor user g₁.shares g₂.shares

/-
  Is an event a request to take a share back, by the user or
  by nobody?
-/
def RevokesFor
    (g : Gateway σ)
    (user : String)
    (event : Event) : Prop :=
  ∃ o r segment,
    event = .request o r ∧
      r.task? = some (.revokeShare segment) ∧
        ∀ s, g.Presents r o.now s → s.user.id = user

/-
  Are two gateways the same for a user, each with the shares
  of others that it had before?
-/
structure SparedFor
    (user : String)
    (g₁ g₂ g₁' g₂' : Gateway σ) : Prop where
  same : SameFor user g₁' g₂'
  left :
    g₁'.shares.store.AgreeOn g₁.shares.store
      (·.createdBy ≠ user)
  right :
    g₂'.shares.store.AgreeOn g₂.shares.store
      (·.createdBy ≠ user)

section Revocations

variable {user : String}
variable {g g₁ g₂ : Gateway σ}
variable {o : Occasion}
variable {r : Request}

/- To take a share back leaves the shares of others alone. -/
theorem others_revokeShare
    (h : g.shares.store.Consistent)
    (hUser : ∀ s, g.Presents r o.now s → s.user.id = user)
    (token : String) :
    (g.revokeShare o r token).2.shares.store.AgreeOn
      g.shares.store (·.createdBy ≠ user) := by
  rcases g.authenticate_cases o r with
    ⟨sessions, ⟨_, _, hReply⟩ | ⟨s, hPresents, hReply⟩⟩
  · rw [revokeShare, hReply]
    exact Share.Store.AgreeOn.refl _ _
  · rw [revokeShare_of_authenticate hReply, hUser s hPresents]
    exact Registry.others_revoke h token user

/- A user takes a share back alike at both gateways. -/
theorem SameFor.revokeShare
    (h : SameFor user g₁ g₂)
    (hUser : ∀ s, g₁.Presents r o.now s → s.user.id = user)
    (token : String) :
    SameAnswer (SameFor user) (g₁.revokeShare o r token)
      (g₂.revokeShare o r token) := by
  have hSecond := authenticate_of_sessions h.sessions o r
  rcases g₁.authenticate_cases o r with
    ⟨sessions, ⟨_, _, hReply⟩ | ⟨s, hPresents, hReply⟩⟩
  · rw [hReply] at hSecond
    rw [Gateway.revokeShare, Gateway.revokeShare, hReply,
      hSecond]
    exact ⟨rfl, rfl, h.shares⟩
  · rw [hReply] at hSecond
    rw [revokeShare_of_authenticate hReply,
      revokeShare_of_authenticate hSecond,
      hUser s hPresents]
    refine ⟨?_, rfl, h.shares.revoke token⟩
    dsimp only
    rw [h.shares.revoke_result token]

/- What a request of the user leaves of two gateways. -/
theorem SparedFor.handle
    {g₁' g₂' : Gateway σ}
    (h : SparedFor user g₁ g₂ g₁' g₂')
    (p : Login.Provider σ)
    {segment : List Char}
    (hTask : r.task? = some (.revokeShare segment))
    (hUser : ∀ s, g₁'.Presents r o.now s → s.user.id = user) :
    SameAnswer (SparedFor user g₁ g₂) (g₁'.handle p o r)
      (g₂'.handle p o r) := by
  -- Both have the same sessions, so the same user asks.
  have hUser₂ :
      ∀ s, g₂'.Presents r o.now s → s.user.id = user := by
    intro s hPresents
    apply hUser s
    unfold Presents at hPresents ⊢
    rw [h.same.sessions]
    exact hPresents
  have hCounted :
      SparedFor user g₁ g₂
        { g₁' with served := g₁'.served + 1 }
        { g₂' with served := g₂'.served + 1 } :=
    ⟨⟨h.same.sessions, h.same.shares⟩, h.left, h.right⟩
  refine SameAnswer.handle hTask ?_ ?_
  · refine SameAnswer.withToken hCounted segment ?_
    intro token
    have hAnswers :=
      hCounted.same.revokeShare (o := o) hUser token
    have hLeft :=
      others_revokeShare (o := o)
        hCounted.same.shares.left hUser token
    have hRight :=
      others_revokeShare (o := o)
        hCounted.same.shares.right hUser₂ token
    exact
      ⟨hAnswers.response, hAnswers.after,
        hLeft.trans h.left, hRight.trans h.right⟩
  · intro g₁'' g₂'' _ _ hAfter
    exact
      ⟨⟨hAfter.same.sessions, hAfter.same.shares⟩,
        hAfter.left, hAfter.right⟩

end Revocations

------------------------------------------------------------
-- Resolutions
------------------------------------------------------------

/- Is an event a request to look at a share? -/
def Event.Resolves :
    Event → Prop
  | .request _ r =>
      ∃ segment, r.task? = some (.resolveShare segment)
  | _ => False

/- What is shown of a share does not tell its creator. -/
theorem publicJson_of_sameButCreator
    {x y : Share}
    (h : x.SameButCreator y) :
    publicJson x = publicJson y := by
  rw [← h]
  rfl

/-
  Do two gateways have the same shares, but for who created
  them?
-/
def SameButCreators
    (g₁ : Gateway σ₁)
    (g₂ : Gateway σ₂) : Prop :=
  g₁.shares.store.SameButCreators g₂.shares.store

/- A share is shown alike, whoever created it. -/
theorem sameAnswer_resolveShare
    {g₁ : Gateway σ₁}
    {g₂ : Gateway σ₂}
    (h : g₁.SameButCreators g₂)
    (o : Occasion)
    (token : String) :
    SameAnswer SameButCreators
      (g₁.resolveShare o token)
      (g₂.resolveShare o token) := by
  rcases h.findLive o.now token with ⟨hFound, hAfter⟩
  rcases Registry.resolve_eq_findLive g₁.shares o.now token
    with ⟨hResult₁, hStore₁⟩
  rcases Registry.resolve_eq_findLive g₂.shares o.now token
    with ⟨hResult₂, hStore₂⟩
  rw [← hStore₁, ← hStore₂] at hAfter
  rw [← hResult₁, ← hResult₂] at hFound
  unfold Gateway.resolveShare
  dsimp only
  rcases hFound with
    ⟨e, hFault₁, hFault₂⟩ | ⟨x, y, hShare₁, hShare₂, hSame⟩
  · rw [hFault₁, hFault₂]
    exact ⟨rfl, hAfter⟩
  · rw [hShare₁, hShare₂]
    refine ⟨?_, hAfter⟩
    dsimp only
    rw [publicJson_of_sameButCreator hSame]

/- A look at a share goes alike, whoever created it. -/
theorem SameButCreators.handle
    {g₁ : Gateway σ₁}
    {g₂ : Gateway σ₂}
    (h : g₁.SameButCreators g₂)
    (p₁ : Login.Provider σ₁)
    (p₂ : Login.Provider σ₂)
    (o : Occasion)
    {r : Request}
    {segment : List Char}
    (hTask : r.task? = some (.resolveShare segment)) :
    SameAnswer SameButCreators (g₁.handle p₁ o r)
      (g₂.handle p₂ o r) := by
  have hCounted :
      { g₁ with served := g₁.served + 1 }.SameButCreators
        { g₂ with served := g₂.served + 1 } := h
  refine SameAnswer.handle hTask ?_ (fun _ _ h => h)
  refine SameAnswer.withToken hCounted segment ?_
  exact sameAnswer_resolveShare hCounted o

------------------------------------------------------------
-- Runs
------------------------------------------------------------

/-
  Revocations and looks at shares tell nothing of the shares
  of others.  A user who revokes tokens gets the same results
  from two consistent registries with the same shares of the
  user.  Both keep the same ones, and all shares of others.
  A share of the user goes with its token.  A token of
  others is as good as none: it is not found, and nothing
  changes.  So it is for the requests of the user to two
  gateways.  And who looks at shares gets the same responses
  from two gateways whose shares differ in their creators
  only.
-/
theorem shares_stay_private
    (user : String)
    (p : Login.Provider σ)
    (p₁ : Login.Provider σ₁)
    (p₂ : Login.Provider σ₂) :
    (∀ r₁ r₂,
      Registry.SameFor user r₁ r₂ →
        ∀ tokens,
          (r₁.revokeAll user tokens).1 =
              (r₂.revokeAll user tokens).1 ∧
            Registry.SameFor user
                (r₁.revokeAll user tokens).2
                (r₂.revokeAll user tokens).2 ∧
              (r₁.revokeAll user tokens).2.store.AgreeOn
                  r₁.store (·.createdBy ≠ user) ∧
                (r₂.revokeAll user tokens).2.store.AgreeOn
                  r₂.store (·.createdBy ≠ user)) ∧
      (∀ (r : Registry) token,
        r.store.Consistent →
          (∀ x, r.store.Holds x → x.token = token →
              x.createdBy = user →
                (r.revoke token user).1 = .ok () ∧
                  ¬(r.revoke token user).2.store.Holds x) ∧
            ((∀ x, r.store.Holds x → x.token = token →
                x.createdBy ≠ user) →
              r.revoke token user =
                (.error .notFound, r))) ∧
        (∀ (g₁ g₂ : Gateway σ),
          SameFor user g₁ g₂ →
            ∀ events,
              (∀ n event, events[n]? = some event →
                  (run p g₁ (events.take n)).RevokesFor user
                    event) →
                ∀ n,
                  responseAt p g₁ events n =
                      responseAt p g₂ events n ∧
                    SparedFor user g₁ g₂
                      (run p g₁ (events.take n))
                      (run p g₂ (events.take n))) ∧
          ∀ (g₁ : Gateway σ₁) (g₂ : Gateway σ₂),
            g₁.SameButCreators g₂ →
              ∀ events,
                (∀ event ∈ events, event.Resolves) →
                  ∀ n,
                    responseAt p₁ g₁ events n =
                      responseAt p₂ g₂ events n := by
  refine ⟨?_, ?_, ?_, ?_⟩
  · intro r₁ r₂ h tokens
    rcases Registry.SameFor.revokeAll tokens h with
      ⟨hResults, hAfter⟩
    exact
      ⟨hResults, hAfter,
        Registry.others_revokeAll user tokens h.left,
        Registry.others_revokeAll user tokens h.right⟩
  · intro r token h
    refine ⟨?_, Registry.revoke_of_not_own h⟩
    rintro x hHolds rfl rfl
    refine ⟨Registry.revoke_of_own h hHolds, ?_⟩
    rw [Registry.holds_revoke_iff h]
    exact fun hStays => hStays.2 ⟨rfl, rfl⟩
  · intro g₁ g₂ h events hEvents
    have hStart : SparedFor user g₁ g₂ g₁ g₂ :=
      ⟨h, Share.Store.AgreeOn.refl _ _,
        Share.Store.AgreeOn.refl _ _⟩
    apply sameAnswers_run hStart
    intro n event hEvent hBefore
    rcases hEvents n event hEvent with
      ⟨o, r, segment, rfl, hTask, hUser⟩
    exact ⟨o, r, rfl, hBefore.handle p hTask hUser⟩
  · intro g₁ g₂ h events hEvents n
    refine (sameAnswers_run h ?_ n).1
    intro n event hEvent hBefore
    have hResolves :=
      hEvents event (List.mem_of_getElem? hEvent)
    cases event with
    | request o r =>
        rcases hResolves with ⟨segment, hTask⟩
        exact ⟨o, r, rfl, hBefore.handle p₁ p₂ o hTask⟩
    | sweep now => exact absurd hResolves id
    | clean now => exact absurd hResolves id

/- A share of a session, by one creator or another. -/
def shareBy
    (creator : String) : Share :=
  ⟨"t", "s", creator, ⟨0⟩, none⟩

/- Two users are logged in, and one share is there. -/
def sharing
    (creator : String) : Gateway Unit :=
  { sharedByAnn with
    shares := Registry.empty.save (shareBy creator) }

/- Two users are logged in, and no share is there. -/
def sharingNothing : Gateway Unit :=
  { sharedByAnn with shares := Registry.empty }

/- A request for the share, with the session of a user. -/
def requestFor
    (method : String) : Request :=
  ⟨method, .ofChars "/shares/t".toList,
    [⟨"x-session-id",
      Utf8.encode (drawing 2).sessionId⟩], []⟩

/-
  A user cannot tell the share of another user from none,
  and who looks at it cannot tell who created it.
-/
theorem responseAt_sharing :
    responseAt byCode (sharing "ann")
        [.request (drawing 2) (requestFor "DELETE")] 0 =
      responseAt byCode sharingNothing
        [.request (drawing 2) (requestFor "DELETE")] 0 ∧
      ((sharing "ann").shares.revokeAll "bob"
          ["t", "u"]).1 =
        [.error .notFound, .error .notFound] ∧
      responseAt byCode (sharing "ann")
          [.request (drawing 2) (requestFor "GET")] 0 =
        responseAt byCode (sharing "bob")
          [.request (drawing 2) (requestFor "GET")] 0 := by
  rcases shares_stay_private "bob" byCode byCode byCode with
    ⟨hRegistries, _, hRevoked, hResolved⟩
  have hEmpty := Share.Store.represents_empty
  have hSaved := hEmpty.save (shareBy "ann")
  have hSame :
      Registry.SameFor "bob" (sharing "ann").shares
        sharingNothing.shares := by
    refine ⟨⟨_, hSaved⟩, ⟨_, hEmpty⟩, ?_⟩
    intro x hBob
    refine Iff.trans (hSaved.mem_iff x).symm
      (Iff.trans ?_ (hEmpty.mem_iff x))
    rw [Share.Collection.mem_put_iff]
    constructor
    · rintro (rfl | hOld)
      · exact absurd hBob (by decide)
      · exact hOld.1
    · exact fun hNone => absurd hNone (Finset.notMem_empty x)
  let bob : Session :=
    ⟨(drawing 2).sessionId,
      ⟨"bob", "bob", "bob", .hide "", [], []⟩, ⟨0⟩, ⟨10⟩⟩
  have hPresents :
      (sharing "ann").Presents (requestFor "DELETE")
        (drawing 2).now bob := by
    refine ⟨(drawing 2).sessionId, ?_, ?_, ?_⟩ <;>
      decide +kernel
  refine ⟨?_, ?_, ?_⟩
  · refine
      (hRevoked (sharing "ann") sharingNothing ⟨rfl, hSame⟩
        _ ?_ 0).1
    intro n event hEvent
    cases n with
    | succ n => cases hEvent
    | zero =>
        cases hEvent
        refine ⟨_, _, ['t'], rfl, by decide +kernel, ?_⟩
        intro s hOther
        rw [hOther.unique hPresents]
  · rw [(hRegistries _ _ hSame ["t", "u"]).1]
    rfl
  · refine hResolved (sharing "ann") (sharing "bob") ?_ _ ?_ 0
    · refine ⟨?_, fun _ => rfl⟩
      intro token
      dsimp only [sharing, Registry.save, Share.Store.save]
      have hTokens :
          (shareBy "bob").token = (shareBy "ann").token := rfl
      rw [Table.get?_insert, Table.get?_insert, hTokens]
      split
      · exact .some rfl
      · exact .none
    · intro event hEvent
      rw [List.mem_singleton.mp hEvent]
      exact ⟨['t'], by decide +kernel⟩

end Gateway

end Gatehouse
