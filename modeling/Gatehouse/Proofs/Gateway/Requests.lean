import Gatehouse.Gateway.Basic
import Gatehouse.Proofs.Session.Calls
import Gatehouse.Proofs.Share.Issuance

/-
  What a request asks of the shares.

  Three tasks reach the registry of shares, and two of them
  need a session: a request orders a share or revokes one in
  the name of the user whose session it presents.  All other
  requests leave the shares alone.

  Key definitions include:
    * `Gateway.Request.task?`
    * `Gateway.Request.OrdersShare`
    * `Gateway.Request.RevokesShare`
    * `Gateway.Presents`
    * `Gateway.Asks`
    * `Gateway.Concerns`

  Main results include:
    * `Gateway.Request.task?_eq_createShare_iff`
    * `Gateway.authenticate_cases`
    * `Gateway.exists_serve_eq`
    * `Gateway.concerns_handle`
-/

namespace Gatehouse

namespace Gateway

variable {σ : Type}

------------------------------------------------------------
-- Tasks of Requests
------------------------------------------------------------

/- What a request wants done, if it leads anywhere. -/
def Request.task?
    (r : Request) : Option Task :=
  (Place.ofPath? r.target.path).bind
    (fun place => place.task? r.method)

/- Does a request order a share? -/
def Request.OrdersShare
    (r : Request)
    (w : Wish) : Prop :=
  r.method = "POST" ∧
    r.target.path = "/shares".toList ∧
      Wish.ofBody? r.body = some w

/- Does a request revoke the share of a token? -/
def Request.RevokesShare
    (r : Request)
    (token : String) : Prop :=
  r.method = "DELETE" ∧
    ∃ segment,
      r.target.path = "/shares/".toList ++ segment ∧
        segmentText? segment = some token

/- Shares are ordered under one fixed path. -/
theorem path_of_fixed_shares :
    ∀ e ∈ fixedPlaces, e.2 = .shares → e.1 = "/shares" := by
  decide

/- No share has a fixed path. -/
theorem not_share_of_fixed
    (segment : List Char) :
    ∀ e ∈ fixedPlaces, e.2 ≠ .share segment := by
  simp [fixedPlaces]

/- A path is one of the fixed ones, or that of a share. -/
theorem Place.ofPath?_cases
    {path : List Char}
    {place : Place}
    (h : Place.ofPath? path = some place) :
    (∃ e ∈ fixedPlaces,
        e.2 = place ∧ e.1.toList = path) ∨
      ∃ segment,
        place = .share segment ∧
          path = "/shares/".toList ++ segment := by
  unfold Place.ofPath? at h
  cases hFixed :
      fixedPlaces.find? (fun e => e.1.toList = path) with
  | some e =>
      rw [hFixed] at h
      refine
        Or.inl ⟨e, List.mem_of_find?_eq_some hFixed, ?_, ?_⟩
      · exact Option.some.inj h
      · simpa using List.find?_some hFixed
  | none =>
      rw [hFixed] at h
      rcases Option.map_eq_some_iff.mp h with
        ⟨segment, hSegment, rfl⟩
      refine Or.inr ⟨segment, rfl, ?_⟩
      unfold shareSegment? at hSegment
      dsimp only at hSegment
      split at hSegment
      next hMark =>
        simp only [Bool.and_eq_true] at hMark
        have hPrefix := List.isPrefixOf_iff_prefix.mp hMark.1.1
        rw [← Option.some.inj hSegment]
        exact (List.prefix_iff_eq_append.mp hPrefix).symm
      next => cases hSegment

/- Only methods for reading are served by another one. -/
theorem eq_of_servedBy_eq
    {method served : String}
    (h : servedBy method = served)
    (hServed : served ≠ "GET") :
    method = served := by
  unfold servedBy at h
  split at h
  · exact absurd h.symm hServed
  · exact h

/- The task of a method stands among those of the place. -/
theorem Place.mem_tasks_of_task?
    {place : Place}
    {method : String}
    {task : Task}
    (h : place.task? method = some task) :
    (servedBy method, task) ∈ place.tasks := by
  rcases Option.map_eq_some_iff.mp h with ⟨e, hFound, rfl⟩
  have hMethod : e.1 = servedBy method := by
    simpa using List.find?_some hFound
  rw [← hMethod]
  exact List.mem_of_find?_eq_some hFound

/- Shares are ordered in one place only. -/
theorem Request.task?_eq_createShare_iff
    (r : Request) :
    r.task? = some .createShare ↔
      r.method = "POST" ∧
        r.target.path = "/shares".toList := by
  constructor
  · intro hTask
    rcases Option.bind_eq_some_iff.mp hTask with
      ⟨place, hPlace, hAtPlace⟩
    have hMem := Place.mem_tasks_of_task? hAtPlace
    have hShares :
        servedBy r.method = "POST" ∧ place = .shares := by
      cases place <;> simp [Place.tasks] at hMem
      exact ⟨hMem, rfl⟩
    refine ⟨eq_of_servedBy_eq hShares.1 (by decide), ?_⟩
    rcases Place.ofPath?_cases hPlace with
      ⟨e, hFixed, hSame, hPath⟩ | ⟨segment, hSame, _⟩
    · rw [hShares.2] at hSame
      rw [← hPath, path_of_fixed_shares e hFixed hSame]
    · rw [hShares.2] at hSame
      cases hSame
  · rintro ⟨hMethod, hPath⟩
    unfold Request.task?
    rw [hMethod, hPath]
    rfl

/- Shares have their tokens under one path only. -/
theorem Place.path_of_share
    {path segment : List Char}
    (h : Place.ofPath? path = some (.share segment)) :
    path = "/shares/".toList ++ segment := by
  rcases Place.ofPath?_cases h with
    ⟨e, hFixed, hSame, _⟩ | ⟨segment', hSame, hPath⟩
  · exact absurd hSame (not_share_of_fixed segment e hFixed)
  · rw [hPath, Place.share.inj hSame]

/- Shares are revoked under their tokens only. -/
theorem Request.revokesShare_of_task?
    {r : Request}
    {segment : List Char}
    {token : String}
    (hTask : r.task? = some (.revokeShare segment))
    (hToken : segmentText? segment = some token) :
    r.RevokesShare token := by
  rcases Option.bind_eq_some_iff.mp hTask with
    ⟨place, hPlace, hAtPlace⟩
  have hMem := Place.mem_tasks_of_task? hAtPlace
  have hShare :
      servedBy r.method = "DELETE" ∧
        place = .share segment := by
    cases place <;> simp [Place.tasks] at hMem
    exact ⟨hMem.1, by rw [hMem.2]⟩
  rw [hShare.2] at hPlace
  exact
    ⟨eq_of_servedBy_eq hShare.1 (by decide), segment,
      Place.path_of_share hPlace, hToken⟩

------------------------------------------------------------
-- Presented Sessions
------------------------------------------------------------

/- Does a request present the id of a live session? -/
def Presents
    (g : Gateway σ)
    (r : Request)
    (now : Instant)
    (s : Session) : Prop :=
  ∃ id,
    Session.locate? r.headers r.target.query = some id ∧
      g.sessions.sessions.get? id = some s ∧
        now ≤ s.expiresAt

/- A request presents one session at most. -/
theorem Presents.unique
    {g : Gateway σ}
    {r : Request}
    {now : Instant}
    {s s' : Session}
    (h : g.Presents r now s)
    (h' : g.Presents r now s') :
    s = s' := by
  rcases h with ⟨id, hLocated, hFound, _⟩
  rcases h' with ⟨id', hLocated', hFound', _⟩
  rw [hLocated] at hLocated'
  rw [← Option.some.inj hLocated', hFound] at hFound'
  exact Option.some.inj hFound'

/-
  Who presents no live session is not authenticated.  Only
  the sessions of the gateway may change.
-/
theorem authenticate_cases
    (g : Gateway σ)
    (o : Occasion)
    (r : Request) :
    ∃ sessions,
      ((∀ s, ¬g.Presents r o.now s) ∧
          ∃ reason,
            g.authenticate o r =
              (.error (.unauthorized reason),
                { g with sessions := sessions })) ∨
        ∃ s, g.Presents r o.now s ∧
          g.authenticate o r =
            (.ok s.user, { g with sessions := sessions }) := by
  unfold authenticate Session.Manager.validate Presents
  cases Session.locate? r.headers r.target.query with
  | none =>
      refine ⟨_, Or.inl ⟨?_, _, rfl⟩⟩
      rintro s ⟨id, hLocated, _⟩
      cases hLocated
  | some id =>
      refine ⟨(g.sessions.validateId o.now id).2, ?_⟩
      dsimp only
      rcases g.sessions.validateId_cases o.now id with
        ⟨hFound, hReply, _⟩ | ⟨s, hFound, hOver, hReply, _⟩ |
          ⟨s, hFound, hLive, hReply, _⟩
      · rw [hReply]
        refine Or.inl ⟨?_, _, rfl⟩
        rintro s ⟨id', hId, hFound', _⟩
        rw [← Option.some.inj hId, hFound] at hFound'
        cases hFound'
      · rw [hReply]
        refine Or.inl ⟨?_, _, rfl⟩
        rintro s' ⟨id', hId, hFound', hLive⟩
        rw [← Option.some.inj hId, hFound] at hFound'
        rw [← Option.some.inj hFound'] at hLive
        exact (Instant.not_lt _ _).mpr hLive hOver
      · rw [hReply]
        exact Or.inr ⟨s, ⟨id, rfl, hFound, hLive⟩, rfl⟩

------------------------------------------------------------
-- What Tasks Change
------------------------------------------------------------

/- An order may change the shares, and nothing else. -/
theorem exists_orderShare_eq
    (g : Gateway σ)
    (o : Occasion)
    (user : User)
    (w : Wish) :
    ∃ shares,
      (g.orderShare o user w).2 =
        { g with shares := shares } := by
  unfold orderShare
  split
  · exact ⟨_, rfl⟩
  · dsimp only
    split <;> exact ⟨_, rfl⟩

/- A task may change sessions and shares, and nothing else. -/
theorem exists_perform_eq
    (p : Login.Provider σ)
    (g : Gateway σ)
    (o : Occasion)
    (r : Request)
    (task : Task) :
    ∃ sessions shares,
      (g.perform p o r task).2 =
        { g with sessions := sessions, shares := shares } := by
  rcases g.authenticate_cases o r with
    ⟨authenticated, hCases⟩
  cases task with
  | login =>
      dsimp only [perform, login]
      split
      · exact ⟨_, _, rfl⟩
      · split <;> exact ⟨_, _, rfl⟩
  | callback =>
      dsimp only [perform, callback]
      split
      · exact ⟨_, _, rfl⟩
      · split
        · exact ⟨_, _, rfl⟩
        · split <;> exact ⟨_, _, rfl⟩
  | logout =>
      dsimp only [perform, logout]
      split <;> exact ⟨_, _, rfl⟩
  | refresh =>
      dsimp only [perform, refresh]
      split <;> exact ⟨_, _, rfl⟩
  | me =>
      dsimp only [perform, me]
      rcases hCases with ⟨_, _, hReply⟩ | ⟨s, _, hReply⟩
      · rw [hReply]
        exact ⟨_, _, rfl⟩
      · rw [hReply]
        exact ⟨_, _, rfl⟩
  | createShare =>
      dsimp only [perform, createShare]
      rcases hCases with ⟨_, _, hReply⟩ | ⟨s, _, hReply⟩
      · rw [hReply]
        exact ⟨_, _, rfl⟩
      · rw [hReply]
        dsimp only
        split
        · exact ⟨_, _, rfl⟩
        · exact ⟨_, exists_orderShare_eq _ o s.user _⟩
  | resolveShare segment =>
      dsimp only [perform, withToken, resolveShare]
      split
      · exact ⟨_, _, rfl⟩
      · split <;> exact ⟨_, _, rfl⟩
  | revokeShare segment =>
      dsimp only [perform, withToken, revokeShare]
      split
      · exact ⟨_, _, rfl⟩
      · rcases hCases with ⟨_, _, hReply⟩ | ⟨s, _, hReply⟩
        · rw [hReply]
          exact ⟨_, _, rfl⟩
        · rw [hReply]
          dsimp only
          split <;> exact ⟨_, _, rfl⟩
  | health => exact ⟨_, _, rfl⟩
  | metrics => exact ⟨_, _, rfl⟩

/- So does whatever a request leads to. -/
theorem exists_serve_eq
    (p : Login.Provider σ)
    (g : Gateway σ)
    (o : Occasion)
    (r : Request) :
    ∃ sessions shares,
      (g.serve p o r).2 =
        { g with sessions := sessions, shares := shares } := by
  unfold serve
  split
  · exact ⟨_, _, rfl⟩
  · split
    · exact ⟨_, _, rfl⟩
    · exact exists_perform_eq p g o r _

------------------------------------------------------------
-- Questions to the Registry
------------------------------------------------------------

/- The status of what a registry replied. -/
def statusOf
    (success : Nat) :
    Share.Store.Reply → Nat
  | .ok _ => success
  | .error e => (Problem.ofShare e).status

/-
  What a request asks of the registry at an occasion, and
  the status that tells of success.
-/
inductive Asks
    (g : Gateway σ)
    (o : Occasion)
    (r : Request) :
    Share.Registry.Call → Nat → Prop where
  | order {s w lifetime}
      (hPresents : g.Presents r o.now s)
      (hOrders : r.OrdersShare w)
      (hLifetime :
        w.lifetime? g.usualLifetime = some lifetime) :
      Asks g o r
        (.create o.shareDraw
          ⟨w.sessionId, s.user.id, lifetime⟩) 201
  | resolve {token}
      (hNoOrder : ∀ w, ¬r.OrdersShare w) :
      Asks g o r (.resolve token) 200
  | revoke {s token}
      (hPresents : g.Presents r o.now s)
      (hRevokes : r.RevokesShare token) :
      Asks g o r (.revoke token s.user.id) 200

/-
  What a request has to do with the shares: nothing, and
  then an order is refused for want of a live session or
  over its lifetime, or else what it asks of the registry.
-/
def Concerns
    (g : Gateway σ)
    (o : Occasion)
    (r : Request)
    (answer : Response × Gateway σ) : Prop :=
  (answer.2.shares = g.shares ∧
      ∀ w, r.OrdersShare w →
        400 ≤ answer.1.status ∧
          ((∀ s, ¬g.Presents r o.now s) ∨
            w.lifetime? g.usualLifetime = none)) ∨
    ∃ call success,
      g.Asks o r call success ∧
        answer.2.shares =
            (g.shares.perform o.now call).2 ∧
          answer.1.status =
            statusOf success
              (g.shares.perform o.now call).1

------------------------------------------------------------
-- Each Task
------------------------------------------------------------

/- A refusal has a status of 400 or above. -/
theorem Occasion.le_status_refuse
    (o : Occasion)
    (p : Problem) :
    400 ≤ (o.refuse p).status :=
  p.le_status

section Tasks

variable (p : Login.Provider σ)
variable (g : Gateway σ)
variable (o : Occasion)
variable (r : Request)

/- A login leaves the shares alone. -/
theorem shares_login :
    (g.login p o r).2.shares = g.shares := by
  unfold login
  split
  · rfl
  · dsimp only
    split <;> rfl

/- A callback leaves the shares alone. -/
theorem shares_callback :
    (g.callback p o r).2.shares = g.shares := by
  unfold callback
  split
  · rfl
  · split
    · rfl
    · dsimp only
      split <;> rfl

/- A logout leaves the shares alone. -/
theorem shares_logout :
    (g.logout p o r).2.shares = g.shares := by
  unfold logout
  dsimp only
  split <;> rfl

/- A refresh leaves the shares alone. -/
theorem shares_refresh :
    (g.refresh o r).2.shares = g.shares := by
  unfold refresh
  dsimp only
  split <;> rfl

/- Saying who the user is leaves the shares alone. -/
theorem shares_me :
    (g.me o r).2.shares = g.shares := by
  unfold me authenticate
  split
  next hResult => rw [← congrArg Prod.snd hResult]
  next hResult => rw [← congrArg Prod.snd hResult]

variable {g o r}

/- A share is created in the name of who is authenticated. -/
theorem concerns_createShare
    (hMethod : r.method = "POST")
    (hPath : r.target.path = "/shares".toList) :
    g.Concerns o r (g.createShare o r) := by
  have hOrders :
      ∀ w, r.OrdersShare w ↔ Wish.ofBody? r.body = some w := by
    intro w
    unfold Request.OrdersShare
    simp only [hMethod, hPath, true_and]
  rcases g.authenticate_cases o r with
    ⟨sessions, ⟨hNone, reason, hReply⟩ |
      ⟨s, hPresents, hReply⟩⟩
  · rw [createShare, hReply]
    refine Or.inl ⟨rfl, ?_⟩
    intro w _
    exact ⟨o.le_status_refuse _, Or.inl hNone⟩
  · rw [createShare, hReply]
    dsimp only
    cases hBody : Wish.ofBody? r.body with
    | none =>
        refine Or.inl ⟨rfl, ?_⟩
        intro w hOrdered
        rw [hOrders, hBody] at hOrdered
        cases hOrdered
    | some w =>
        dsimp only
        unfold orderShare
        dsimp only
        cases hLifetime : w.lifetime? g.usualLifetime with
        | none =>
            refine Or.inl ⟨rfl, ?_⟩
            intro w' hOrdered
            rw [hOrders, hBody] at hOrdered
            rw [← Option.some.inj hOrdered]
            exact ⟨o.le_status_refuse _, Or.inr hLifetime⟩
        | some lifetime =>
            refine
              Or.inr
                ⟨_, _,
                  Asks.order hPresents ((hOrders w).mpr hBody)
                    hLifetime, ?_, ?_⟩
            · dsimp only
              split <;> rfl
            · dsimp only [Share.Registry.perform]
              split
              next hResult => rw [hResult]; rfl
              next hResult => rw [hResult]; rfl

/- A token is resolved for everyone. -/
theorem concerns_resolveShare
    (hNoOrder : ∀ w, ¬r.OrdersShare w)
    (token : String) :
    g.Concerns o r (g.resolveShare o token) := by
  refine
    Or.inr
      ⟨.resolve token, _, Asks.resolve hNoOrder, ?_, ?_⟩
  · unfold resolveShare
    dsimp only
    split <;> rfl
  · unfold resolveShare
    dsimp only [Share.Registry.perform]
    split
    next hResult => rw [hResult]; rfl
    next hResult => rw [hResult]; rfl

/- A share is revoked in the name of who is authenticated. -/
theorem concerns_revokeShare
    {token : String}
    (hRevokes : r.RevokesShare token) :
    g.Concerns o r (g.revokeShare o r token) := by
  have hNoOrder : ∀ w, ¬r.OrdersShare w := by
    intro w hOrders
    have hMethods := hOrders.1.symm.trans hRevokes.1
    exact absurd hMethods (by decide)
  rcases g.authenticate_cases o r with
    ⟨sessions, ⟨_, reason, hReply⟩ | ⟨s, hPresents, hReply⟩⟩
  · rw [revokeShare, hReply]
    exact
      Or.inl ⟨rfl, fun w hOrders =>
        absurd hOrders (hNoOrder w)⟩
  · rw [revokeShare, hReply]
    refine
      Or.inr ⟨_, _, Asks.revoke hPresents hRevokes, ?_, ?_⟩
    · dsimp only
      split <;> rfl
    · dsimp only [Share.Registry.perform]
      split
      next hResult => rw [hResult]; rfl
      next hResult => rw [hResult]; rfl

------------------------------------------------------------
-- Every Request
------------------------------------------------------------

/- An order has its task. -/
theorem Request.OrdersShare.task?_eq
    {w : Wish}
    (h : r.OrdersShare w) :
    r.task? = some .createShare :=
  r.task?_eq_createShare_iff.mpr ⟨h.1, h.2.1⟩

/- What is no order and leaves the shares alone is covered. -/
theorem concerns_of_shares_eq
    {answer : Response × Gateway σ}
    (hNoOrder : r.task? ≠ some .createShare)
    (hShares : answer.2.shares = g.shares) :
    g.Concerns o r answer := by
  refine Or.inl ⟨hShares, ?_⟩
  intro w hOrders
  exact absurd hOrders.task?_eq hNoOrder

/- A token that is no text leads nowhere. -/
theorem concerns_withToken
    (hNoOrder : r.task? ≠ some .createShare)
    {segment : List Char}
    {use : String → Response × Gateway σ}
    (hUse :
      ∀ token, segmentText? segment = some token →
        g.Concerns o r (use token)) :
    g.Concerns o r (g.withToken segment use) := by
  unfold withToken
  cases hToken : segmentText? segment with
  | none => exact concerns_of_shares_eq hNoOrder rfl
  | some token => exact hUse token hToken

/- What each task has to do with the shares. -/
theorem concerns_perform
    {task : Task}
    (hTask : r.task? = some task) :
    g.Concerns o r (g.perform p o r task) := by
  have hOther :
      task ≠ .createShare → r.task? ≠ some .createShare := by
    intro hNe hCreate
    rw [hTask] at hCreate
    exact hNe (Option.some.inj hCreate)
  cases task with
  | login =>
      exact
        concerns_of_shares_eq (hOther (by simp))
          (shares_login p g o r)
  | callback =>
      exact
        concerns_of_shares_eq (hOther (by simp))
          (shares_callback p g o r)
  | logout =>
      exact
        concerns_of_shares_eq (hOther (by simp))
          (shares_logout p g o r)
  | refresh =>
      exact
        concerns_of_shares_eq (hOther (by simp))
          (shares_refresh g o r)
  | me =>
      exact
        concerns_of_shares_eq (hOther (by simp))
          (shares_me g o r)
  | createShare =>
      rcases r.task?_eq_createShare_iff.mp hTask with
        ⟨hMethod, hPath⟩
      exact concerns_createShare hMethod hPath
  | resolveShare segment =>
      have hNoOrder := hOther (by simp)
      apply concerns_withToken hNoOrder
      intro token _
      apply concerns_resolveShare
      intro w hOrders
      exact hNoOrder hOrders.task?_eq
  | revokeShare segment =>
      apply concerns_withToken (hOther (by simp))
      intro token hToken
      exact
        concerns_revokeShare
          (Request.revokesShare_of_task? hTask hToken)
  | health => exact concerns_of_shares_eq (hOther (by simp)) rfl
  | metrics =>
      exact concerns_of_shares_eq (hOther (by simp)) rfl

/- What serving a request has to do with the shares. -/
theorem concerns_serve :
    g.Concerns o r (g.serve p o r) := by
  unfold serve
  cases hPlace : Place.ofPath? r.target.path with
  | none =>
      refine concerns_of_shares_eq ?_ rfl
      simp [Request.task?, hPlace]
  | some place =>
      dsimp only
      have hTask : r.task? = place.task? r.method := by
        simp [Request.task?, hPlace]
      cases hAtPlace : place.task? r.method with
      | none =>
          refine concerns_of_shares_eq ?_ rfl
          rw [hTask, hAtPlace]
          exact Option.some_ne_none _ ∘ Eq.symm
      | some task =>
          exact concerns_perform p (hTask.trans hAtPlace)

/- What a response suits does not change its status. -/
@[simp]
theorem Response.status_forMethod
    (response : Response)
    (method : String) :
    (response.forMethod method).status = response.status := by
  unfold forMethod withoutBody
  split <;> rfl

/-
  What handling a request has to do with the shares.  The
  counts of the gateway do not matter to it.
-/
theorem concerns_handle :
    g.Concerns o r (g.handle p o r) := by
  unfold Concerns handle
  rw [Response.status_forMethod]
  have hServed :
      { g with served := g.served + 1 }.Concerns o r
        ({ g with served := g.served + 1 }.serve p o r) :=
    concerns_serve p
  rcases hServed with
    hUntouched | ⟨call, success, hAsks, hShares, hStatus⟩
  · exact Or.inl hUntouched
  · refine Or.inr ⟨call, success, ?_, hShares, hStatus⟩
    cases hAsks with
    | order hPresents hOrders hLifetime =>
        exact Asks.order hPresents hOrders hLifetime
    | resolve hNoOrder => exact Asks.resolve hNoOrder
    | revoke hPresents hRevokes =>
        exact Asks.revoke hPresents hRevokes

end Tasks

end Gateway

end Gatehouse
