import Gatehouse.Proofs.Gateway.Failures
import Gatehouse.Proofs.Session.Location

/-
  What a request asks of the sessions.

  Every task makes one call on the sessions at most.  The
  tasks that need a session all act on the one id that the
  request names; they tell its refusal to the client, and
  how it is named does not matter to them.

  Key definitions include:
    * `Session.Manager.refusal?`
    * `Gateway.Task.sessionCall?`
    * `Gateway.Task.onSession?`
    * `Gateway.Request.Names`
    * `Gateway.Request.ActsOn`
    * `Gateway.ActsOnNamed`

  Main results include:
    * `Gateway.sessions_handle`
    * `Gateway.handle_of_refused`
    * `Gateway.handle_congr`
    * `Gateway.handle_acts_on_named_session`
-/

namespace Gatehouse

------------------------------------------------------------
-- Refused Calls
------------------------------------------------------------

/- Why an outcome is a refusal, if it is one. -/
def Refusal.ofOutcome? {α : Type} :
    Except Refusal α → Option Refusal
  | .error e => some e
  | .ok _ => none

/- Only an error has a refusal. -/
theorem Refusal.ofOutcome?_eq_some_iff
    {α : Type}
    (outcome : Except Refusal α)
    (e : Refusal) :
    ofOutcome? outcome = some e ↔ outcome = .error e := by
  cases outcome with
  | error e' => simp [ofOutcome?]
  | ok a => simp [ofOutcome?]

namespace Session

namespace Manager

open History (Event)

variable {σ : Type}

/- Why a call is refused, if it is. -/
def refusal?
    (p : Login.Provider σ)
    (m : Manager σ)
    (event : Event Call) : Option Refusal :=
  match event.call with
  | .initiate address =>
      Refusal.ofOutcome? (m.initiate p address).1
  | .complete draw code state =>
      Refusal.ofOutcome?
        (m.complete p event.now (idOf draw) code state).1
  | .validate hs query =>
      Refusal.ofOutcome? (m.validate event.now hs query).1
  | .validateId id =>
      Refusal.ofOutcome? (m.validateId event.now id).1
  | .refresh id =>
      Refusal.ofOutcome? (m.refresh event.now id).1
  | .logout id => Refusal.ofOutcome? (m.logout p id).1
  | .sweep => none

/- To validate a request is to validate the id it names. -/
theorem validate_of_names
    (m : Manager σ)
    (now : Instant)
    {hs : List Http.Header}
    {query : Option (List UInt8)}
    {id : String}
    (h : Names hs query id) :
    m.validate now hs query = m.validateId now id := by
  rw [← locate?_eq_some_iff] at h
  unfold validate
  rw [h]

/- A request that names no session is refused. -/
theorem validate_of_nameless
    (m : Manager σ)
    (now : Instant)
    {hs : List Http.Header}
    {query : Option (List UInt8)}
    (h : ∀ id, ¬Names hs query id) :
    (m.validate now hs query).1 =
        .error (.unauthorized "no session id") ∧
      (m.validate now hs query).2.sessions =
        m.sessions := by
  rw [← locate?_eq_none_iff] at h
  unfold validate
  rw [h]
  exact ⟨rfl, rfl⟩

/- What is said of an id that no session has. -/
theorem refusal?_of_absent
    (p : Login.Provider σ)
    {m : Manager σ}
    {id : String}
    (hId : id ≠ "")
    (hAbsent : m.sessions.get? id = none)
    (now : Instant) :
    m.refusal? p ⟨now, .validateId id⟩ =
        some (.unauthorized "session not found") ∧
      m.refusal? p ⟨now, .refresh id⟩ =
          some (.notFound "session not found") ∧
        m.refusal? p ⟨now, .logout id⟩ =
          some (.notFound "session not found") := by
  unfold refusal?
  simp only [Refusal.ofOutcome?_eq_some_iff]
  exact m.replies_of_absent p hId hAbsent now

end Manager

end Session

namespace Gateway

open Session.Manager (Call byCode)

variable {σ : Type}

------------------------------------------------------------
-- Calls of Tasks
------------------------------------------------------------

/- The call that ends the login of a callback. -/
def completionOf?
    (o : Occasion)
    (query : List UInt8) : Option Call :=
  match Callback.ofQuery query with
  | .error _ => none
  | .ok c =>
      if c.denial.isSome then
        none
      else
        some (.complete o.sessionDraw c.code c.state)

/- What a task asks of the sessions for a request. -/
def Task.sessionCall?
    (o : Occasion)
    (r : Request) :
    Task → Option Call
  | .login => (returnAddress? r.body).map .initiate
  | .callback => completionOf? o (r.target.query.getD [])
  | .logout => some (.logout (namedSession r))
  | .refresh => some (.refresh (namedSession r))
  | .me => some (.validate r.headers r.target.query)
  | .createShare =>
      some (.validate r.headers r.target.query)
  | .resolveShare _ => none
  | .revokeShare segment =>
      (segmentText? segment).map
        (fun _ => .validate r.headers r.target.query)
  | .health => none
  | .metrics => none

/- The sessions after a call that is made or not. -/
def sessionsAfter
    (p : Login.Provider σ)
    (g : Gateway σ)
    (o : Occasion) :
    Option Call → Session.Manager σ
  | none => g.sessions
  | some call => g.sessions.next p ⟨o.now, call⟩

/- What a task asks about a session by its id. -/
def Task.onSession? :
    Task → Option (String → Call)
  | .logout => some .logout
  | .refresh => some .refresh
  | .me => some .validateId
  | .createShare => some .validateId
  | .revokeShare segment =>
      (segmentText? segment).map (fun _ => .validateId)
  | _ => none

/- Why a task is refused if no session is named. -/
def Task.nameless :
    Task → Refusal
  | .logout => .badRequest "missing session id"
  | .refresh => .badRequest "missing session id"
  | _ => .unauthorized "no session id"

/- Does a request name a session by an id? -/
def Request.Names
    (r : Request)
    (id : String) : Prop :=
  Session.Names r.headers r.target.query id

section Tasks

variable (p : Login.Provider σ)
variable (g : Gateway σ)
variable (o : Occasion)
variable (r : Request)

/- A login starts with the provider. -/
theorem sessions_login :
    (g.login p o r).2.sessions =
      g.sessionsAfter p o (Task.login.sessionCall? o r) := by
  unfold login Task.sessionCall?
  cases returnAddress? r.body with
  | none => rfl
  | some address =>
      dsimp only [Option.map_some, sessionsAfter,
        Session.Manager.next]
      split <;> rfl

/- A callback ends a login under the drawn id. -/
theorem sessions_callback :
    (g.callback p o r).2.sessions =
      g.sessionsAfter p o
        (Task.callback.sessionCall? o r) := by
  unfold callback
  dsimp only [Task.sessionCall?, completionOf?]
  cases Callback.ofQuery (r.target.query.getD []) with
  | error name => rfl
  | ok c =>
      dsimp only
      split
      · rfl
      · dsimp only [sessionsAfter, Session.Manager.next]
        split <;> rfl

/- A logout ends the session that is named. -/
theorem sessions_logout :
    (g.logout p o r).2.sessions =
      g.sessionsAfter p o
        (Task.logout.sessionCall? o r) := by
  unfold logout
  dsimp only [Task.sessionCall?, sessionsAfter,
    Session.Manager.next]
  split <;> rfl

/- A refresh extends the session that is named. -/
theorem sessions_refresh :
    (g.refresh o r).2.sessions =
      g.sessionsAfter p o
        (Task.refresh.sessionCall? o r) := by
  unfold refresh
  dsimp only [Task.sessionCall?, sessionsAfter,
    Session.Manager.next]
  split <;> rfl

/- An authentication validates the request. -/
theorem sessions_authenticate :
    (g.authenticate o r).2.sessions =
      g.sessionsAfter p o
        (some (.validate r.headers r.target.query)) := rfl

/- What is done after an authentication leaves the sessions. -/
theorem sessions_me :
    (g.me o r).2.sessions =
      (g.authenticate o r).2.sessions := by
  unfold me
  split
  next hResult => rw [hResult]
  next hResult => rw [hResult]

/- An order of a share leaves the sessions alone. -/
theorem sessions_orderShare
    (user : User)
    (w : Wish) :
    (g.orderShare o user w).2.sessions = g.sessions := by
  unfold orderShare
  split
  · rfl
  · dsimp only
    split <;> rfl

/- Sharing a session changes sessions by validating only. -/
theorem sessions_createShare :
    (g.createShare o r).2.sessions =
      (g.authenticate o r).2.sessions := by
  unfold createShare
  split
  next hResult => rw [hResult]
  next hResult =>
    rw [hResult]
    split
    · rfl
    · exact sessions_orderShare _ _ _ _

/- Taking a share back validates the session and no more. -/
theorem sessions_revokeShare
    (token : String) :
    (g.revokeShare o r token).2.sessions =
      (g.authenticate o r).2.sessions := by
  unfold revokeShare
  split
  next hResult => rw [hResult]
  next hResult =>
    rw [hResult]
    dsimp only
    split <;> rfl

/- Showing a share leaves the sessions alone. -/
theorem sessions_resolveShare
    (token : String) :
    (g.resolveShare o token).2.sessions = g.sessions := by
  unfold resolveShare
  dsimp only
  split <;> rfl

/- Every task makes its call on the sessions, and no more. -/
theorem sessions_perform
    (task : Task) :
    (g.perform p o r task).2.sessions =
      g.sessionsAfter p o (task.sessionCall? o r) := by
  cases task with
  | login => exact g.sessions_login p o r
  | callback => exact g.sessions_callback p o r
  | logout => exact g.sessions_logout p o r
  | refresh => exact g.sessions_refresh p o r
  | me =>
      exact
        (g.sessions_me o r).trans
          (g.sessions_authenticate p o r)
  | createShare =>
      exact
        (g.sessions_createShare o r).trans
          (g.sessions_authenticate p o r)
  | resolveShare segment =>
      dsimp only [perform, withToken, Task.sessionCall?]
      split
      · rfl
      · exact g.sessions_resolveShare o _
  | revokeShare segment =>
      dsimp only [perform, withToken, Task.sessionCall?]
      cases segmentText? segment with
      | none => rfl
      | some token =>
          exact
            (g.sessions_revokeShare o r token).trans
              (g.sessions_authenticate p o r)
  | health => rfl
  | metrics => rfl

/- A request that has a task is served by it. -/
theorem serve_of_task?
    {task : Task}
    (hTask : r.task? = some task) :
    g.serve p o r = g.perform p o r task := by
  rcases Option.bind_eq_some_iff.mp hTask with
    ⟨place, hPlace, hAtPlace⟩
  unfold serve
  rw [hPlace]
  dsimp only
  rw [hAtPlace]

/- A request without a task leaves the sessions alone. -/
theorem sessions_serve_of_none
    (hTask : r.task? = none) :
    (g.serve p o r).2.sessions = g.sessions := by
  unfold serve
  cases hPlace : Place.ofPath? r.target.path with
  | none => rfl
  | some place =>
      unfold Request.task? at hTask
      rw [hPlace] at hTask
      dsimp only [Option.bind_some] at hTask ⊢
      rw [hTask]

/- Every request makes its call on the sessions, no more. -/
theorem sessions_handle :
    (g.handle p o r).2.sessions =
      g.sessionsAfter p o
        (r.task?.bind (·.sessionCall? o r)) := by
  unfold handle
  dsimp only
  cases hTask : r.task? with
  | none => exact sessions_serve_of_none p _ o r hTask
  | some task =>
      rw [serve_of_task? p _ o r hTask]
      exact sessions_perform p _ o r task

------------------------------------------------------------
-- Refused Requests
------------------------------------------------------------

variable {p g o r}
variable {call : Call}
variable {e : Refusal}

/- A login that is refused ends with the refusal. -/
theorem login_of_refused
    (hCall : Task.login.sessionCall? o r = some call)
    (hRefused : g.sessions.refusal? p ⟨o.now, call⟩ = some e) :
    g.login p o r =
      (o.decline e,
        { g with
          sessions := g.sessionsAfter p o (some call) }) := by
  rcases Option.map_eq_some_iff.mp hCall with
    ⟨address, hAddress, rfl⟩
  have hOutcome :=
    (Refusal.ofOutcome?_eq_some_iff _ _).mp hRefused
  unfold login
  rw [hAddress]
  dsimp only at hOutcome ⊢
  rw [hOutcome]
  rfl

/- A callback that is refused ends with the refusal. -/
theorem callback_of_refused
    (hCall : Task.callback.sessionCall? o r = some call)
    (hRefused : g.sessions.refusal? p ⟨o.now, call⟩ = some e) :
    g.callback p o r =
      (o.decline e,
        { g with
          sessions := g.sessionsAfter p o (some call) }) := by
  dsimp only [Task.sessionCall?, completionOf?] at hCall
  unfold callback
  cases hQuery : Callback.ofQuery (r.target.query.getD []) with
  | error name =>
      rw [hQuery] at hCall
      cases hCall
  | ok c =>
      rw [hQuery] at hCall
      dsimp only at hCall ⊢
      split at hCall
      next => cases hCall
      next hGranted =>
        rw [← Option.some.inj hCall] at hRefused ⊢
        have hOutcome :
            (g.sessions.complete p o.now o.sessionId c.code
              c.state).1 = .error e :=
          (Refusal.ofOutcome?_eq_some_iff _ _).mp hRefused
        rw [if_neg hGranted, hOutcome]
        rfl

/- A logout that is refused ends with the refusal. -/
theorem logout_of_refused
    (hRefused :
      g.sessions.refusal? p
        ⟨o.now, .logout (namedSession r)⟩ = some e) :
    g.logout p o r =
      (o.decline e,
        { g with
          sessions :=
            g.sessionsAfter p o
              (some (.logout (namedSession r))) }) := by
  have hOutcome :=
    (Refusal.ofOutcome?_eq_some_iff _ _).mp hRefused
  unfold logout
  dsimp only at hOutcome ⊢
  rw [hOutcome]
  rfl

/- A refresh that is refused ends with the refusal. -/
theorem refresh_of_refused
    (hRefused :
      g.sessions.refusal? p
        ⟨o.now, .refresh (namedSession r)⟩ = some e) :
    g.refresh o r =
      (o.decline e,
        { g with
          sessions :=
            g.sessionsAfter p o
              (some (.refresh (namedSession r))) }) := by
  have hOutcome :=
    (Refusal.ofOutcome?_eq_some_iff _ _).mp hRefused
  unfold refresh
  dsimp only at hOutcome ⊢
  rw [hOutcome]
  rfl

/- Who is refused is not authenticated. -/
theorem authenticate_of_refused
    (hRefused :
      g.sessions.refusal? p
        ⟨o.now, .validate r.headers r.target.query⟩ =
          some e) :
    g.authenticate o r =
      (.error e,
        { g with
          sessions :=
            g.sessionsAfter p o
              (some
                (.validate r.headers r.target.query)) }) := by
  have hOutcome :=
    (Refusal.ofOutcome?_eq_some_iff _ _).mp hRefused
  unfold authenticate
  dsimp only at hOutcome ⊢
  rw [hOutcome]
  rfl

/-
  A task whose call is refused tells the refusal, and does
  nothing else.
-/
theorem perform_of_refused
    {task : Task}
    (hCall : task.sessionCall? o r = some call)
    (hRefused : g.sessions.refusal? p ⟨o.now, call⟩ = some e) :
    g.perform p o r task =
      (o.decline e,
        { g with
          sessions := g.sessionsAfter p o (some call) }) := by
  cases task with
  | login => exact login_of_refused hCall hRefused
  | callback => exact callback_of_refused hCall hRefused
  | logout =>
      rw [← Option.some.inj hCall] at hRefused ⊢
      exact logout_of_refused hRefused
  | refresh =>
      rw [← Option.some.inj hCall] at hRefused ⊢
      exact refresh_of_refused hRefused
  | me =>
      rw [← Option.some.inj hCall] at hRefused ⊢
      dsimp only [perform]
      rw [me, authenticate_of_refused hRefused]
  | createShare =>
      rw [← Option.some.inj hCall] at hRefused ⊢
      dsimp only [perform]
      rw [createShare, authenticate_of_refused hRefused]
  | resolveShare segment => cases hCall
  | revokeShare segment =>
      rcases Option.map_eq_some_iff.mp hCall with
        ⟨token, hToken, rfl⟩
      dsimp only [perform]
      rw [withToken, hToken]
      dsimp only
      rw [revokeShare, authenticate_of_refused hRefused]
  | health => cases hCall
  | metrics => cases hCall

/-
  A request whose call is refused tells the refusal.  The
  shares stay as they are.
-/
theorem handle_of_refused
    {task : Task}
    (hTask : r.task? = some task)
    (hCall : task.sessionCall? o r = some call)
    (hRefused : g.sessions.refusal? p ⟨o.now, call⟩ = some e) :
    (g.handle p o r).1 =
        (o.decline e).forMethod r.method ∧
      (g.handle p o r).2.shares = g.shares := by
  have hServed :
      { g with served := g.served + 1 }.serve p o r = _ :=
    (serve_of_task? p _ o r hTask).trans
      (perform_of_refused hCall hRefused)
  unfold handle
  dsimp only
  rw [hServed]
  exact ⟨rfl, rfl⟩

------------------------------------------------------------
-- Named Sessions
------------------------------------------------------------

variable {r' : Request}
variable {id : String}

/- The session that is located is the one that is named. -/
theorem namedSession_of_names
    (h : r.Names id) :
    namedSession r = id := by
  unfold Request.Names at h
  rw [← Session.locate?_eq_some_iff] at h
  unfold namedSession
  rw [h]
  rfl

/- Without a named session, nothing is located. -/
theorem namedSession_of_nameless
    (h : ∀ id, ¬r.Names id) :
    namedSession r = "" := by
  unfold Request.Names at h
  rw [← Session.locate?_eq_none_iff] at h
  unfold namedSession
  rw [h]
  rfl

/- A task that acts on a session acts on the named one. -/
theorem call_of_names
    (p : Login.Provider σ)
    (g : Gateway σ)
    {task : Task}
    {act : String → Call}
    (hAct : task.onSession? = some act)
    (h : r.Names id) :
    ∃ call, task.sessionCall? o r = some call ∧
      g.sessions.next p ⟨o.now, call⟩ =
          g.sessions.next p ⟨o.now, act id⟩ ∧
        g.sessions.refusal? p ⟨o.now, call⟩ =
          g.sessions.refusal? p ⟨o.now, act id⟩ := by
  have hNamed := namedSession_of_names h
  have hValidate :=
    g.sessions.validate_of_names o.now h
  have hNext :
      g.sessions.next p
          ⟨o.now, .validate r.headers r.target.query⟩ =
        g.sessions.next p ⟨o.now, .validateId id⟩ :=
    congrArg Prod.snd hValidate
  have hRefusal :
      g.sessions.refusal? p
          ⟨o.now, .validate r.headers r.target.query⟩ =
        g.sessions.refusal? p ⟨o.now, .validateId id⟩ := by
    dsimp only [Session.Manager.refusal?]
    rw [hValidate]
  cases task with
  | logout =>
      cases hAct
      refine ⟨_, rfl, ?_, ?_⟩ <;> rw [hNamed]
  | refresh =>
      cases hAct
      refine ⟨_, rfl, ?_, ?_⟩ <;> rw [hNamed]
  | me =>
      cases hAct
      exact ⟨_, rfl, hNext, hRefusal⟩
  | createShare =>
      cases hAct
      exact ⟨_, rfl, hNext, hRefusal⟩
  | revokeShare segment =>
      rcases Option.map_eq_some_iff.mp hAct with
        ⟨token, hToken, rfl⟩
      refine ⟨_, ?_, hNext, hRefusal⟩
      dsimp only [Task.sessionCall?]
      rw [hToken]
      rfl
  | _ => cases hAct

/- A task that needs a session is refused without one. -/
theorem call_of_nameless
    (p : Login.Provider σ)
    (g : Gateway σ)
    {task : Task}
    {act : String → Call}
    (hAct : task.onSession? = some act)
    (h : ∀ id, ¬r.Names id) :
    ∃ call, task.sessionCall? o r = some call ∧
      (g.sessions.next p ⟨o.now, call⟩).sessions =
          g.sessions.sessions ∧
        g.sessions.refusal? p ⟨o.now, call⟩ =
          some task.nameless := by
  have hNamed := namedSession_of_nameless h
  rcases g.sessions.validate_of_nameless o.now h with
    ⟨hRefused, hSessions⟩
  have hRefusal :
      g.sessions.refusal? p
          ⟨o.now, .validate r.headers r.target.query⟩ =
        some (.unauthorized "no session id") :=
    (Refusal.ofOutcome?_eq_some_iff _ _).mpr hRefused
  cases task with
  | logout =>
      refine ⟨_, rfl, ?_, ?_⟩ <;> rw [hNamed] <;> rfl
  | refresh =>
      refine ⟨_, rfl, ?_, ?_⟩ <;> rw [hNamed] <;> rfl
  | me =>
      exact
        ⟨.validate r.headers r.target.query, rfl, hSessions,
          hRefusal⟩
  | createShare =>
      exact
        ⟨.validate r.headers r.target.query, rfl, hSessions,
          hRefusal⟩
  | revokeShare segment =>
      rcases Option.map_eq_some_iff.mp hAct with
        ⟨token, hToken, rfl⟩
      refine
        ⟨.validate r.headers r.target.query, ?_, hSessions,
          hRefusal⟩
      dsimp only [Task.sessionCall?]
      rw [hToken]
      rfl
  | _ => cases hAct

/- Requests that name the same session locate it alike. -/
theorem locate?_congr
    (hNames : ∀ id, r'.Names id ↔ r.Names id) :
    Session.locate? r'.headers r'.target.query =
      Session.locate? r.headers r.target.query := by
  apply Option.ext
  intro id
  rw [Session.locate?_eq_some_iff,
    Session.locate?_eq_some_iff]
  exact hNames id

/- Who is authenticated depends on the named session only. -/
theorem authenticate_congr
    (g : Gateway σ)
    (hNames : ∀ id, r'.Names id ↔ r.Names id) :
    g.authenticate o r' = g.authenticate o r := by
  unfold authenticate Session.Manager.validate
  rw [locate?_congr hNames]

/-
  Every task but the callback depends on the body and on the
  named session only.
-/
theorem perform_congr
    (p : Login.Provider σ)
    (g : Gateway σ)
    {task : Task}
    (hTask : task ≠ .callback)
    (hBody : r'.body = r.body)
    (hNames : ∀ id, r'.Names id ↔ r.Names id) :
    g.perform p o r' task = g.perform p o r task := by
  have hAuth := authenticate_congr (o := o) g hNames
  have hNamed : namedSession r' = namedSession r := by
    unfold namedSession
    rw [locate?_congr hNames]
  cases task with
  | login =>
      dsimp only [perform, login]
      rw [hBody]
  | callback => exact absurd rfl hTask
  | logout =>
      dsimp only [perform, logout]
      rw [hNamed]
  | refresh =>
      dsimp only [perform, refresh]
      rw [hNamed]
  | me =>
      dsimp only [perform, me]
      rw [hAuth]
  | createShare =>
      dsimp only [perform, createShare]
      rw [hAuth, hBody]
  | resolveShare segment => rfl
  | revokeShare segment =>
      have hSame : g.revokeShare o r' = g.revokeShare o r := by
        funext token
        unfold revokeShare
        rw [hAuth]
      dsimp only [perform]
      rw [hSame]
  | health => rfl
  | metrics => rfl

/-
  Requests for the same that name the same session are
  handled alike, wherever they name it.
-/
theorem handle_congr
    (p : Login.Provider σ)
    (g : Gateway σ)
    {task : Task}
    (hTask : r.task? = some task)
    (hOther : task ≠ .callback)
    (hMethod : r'.method = r.method)
    (hPath : r'.target.path = r.target.path)
    (hBody : r'.body = r.body)
    (hNames : ∀ id, r'.Names id ↔ r.Names id) :
    g.handle p o r' = g.handle p o r := by
  have hTask' : r'.task? = some task := by
    unfold Request.task? at hTask ⊢
    rw [hMethod, hPath]
    exact hTask
  unfold handle
  rw [serve_of_task? p _ o r hTask,
    serve_of_task? p _ o r' hTask',
    perform_congr p _ hOther hBody hNames, hMethod]

end Tasks

------------------------------------------------------------
-- Where Sessions Are Asked For
------------------------------------------------------------

/- No fixed path begins like that of a share. -/
theorem not_shareMark_of_fixed :
    ∀ e ∈ fixedPlaces, ¬shareMark <+: e.1.toList := by
  decide

/- A share is found under its token. -/
theorem Place.ofPath?_share
    {segment : List Char}
    (hSome : segment ≠ [])
    (hWhole : '/' ∉ segment) :
    Place.ofPath? ("/shares/".toList ++ segment) =
      some (.share segment) := by
  have hFixed :
      fixedPlaces.find?
          (fun e =>
            e.1.toList = "/shares/".toList ++ segment) =
        none := by
    rw [List.find?_eq_none]
    intro e he hPath
    apply not_shareMark_of_fixed e he
    rw [of_decide_eq_true hPath]
    exact List.prefix_append _ _
  have hSegment :
      shareSegment? ("/shares/".toList ++ segment) =
        some segment := by
    have hMark : "/shares/".toList = shareMark := rfl
    unfold shareSegment?
    rw [hMark]
    simp [hSome, hWhole]
  unfold Place.ofPath?
  rw [hFixed, hSegment]
  rfl

/-
  Which requests act on a session, what they ask about it,
  and why they are refused if they name none.
-/
inductive Request.ActsOn
    (r : Request) :
    (String → Call) → Refusal → Prop where
  | me
      (hMethod : r.method = "GET" ∨ r.method = "HEAD")
      (hPath : r.target.path = "/auth/me".toList) :
      ActsOn r .validateId (.unauthorized "no session id")
  | createShare
      (hMethod : r.method = "POST")
      (hPath : r.target.path = "/shares".toList) :
      ActsOn r .validateId (.unauthorized "no session id")
  | revokeShare {segment token}
      (hMethod : r.method = "DELETE")
      (hPath :
        r.target.path = "/shares/".toList ++ segment)
      (hSome : segment ≠ [])
      (hWhole : '/' ∉ segment)
      (hToken : segmentText? segment = some token) :
      ActsOn r .validateId (.unauthorized "no session id")
  | logout
      (hMethod : r.method = "POST")
      (hPath : r.target.path = "/auth/logout".toList) :
      ActsOn r .logout (.badRequest "missing session id")
  | refresh
      (hMethod : r.method = "POST")
      (hPath : r.target.path = "/auth/refresh".toList) :
      ActsOn r .refresh (.badRequest "missing session id")

/- Who asks who they are has that task. -/
theorem Request.task?_of_me
    {r : Request}
    (hMethod : r.method = "GET" ∨ r.method = "HEAD")
    (hPath : r.target.path = "/auth/me".toList) :
    r.task? = some .me := by
  unfold task?
  rw [hPath]
  rcases hMethod with hGet | hHead
  · rw [hGet]
    rfl
  · rw [hHead]
    rfl

/- A request that acts on a session has such a task. -/
theorem Request.ActsOn.exists_task
    {r : Request}
    {act : String → Call}
    {nameless : Refusal}
    (h : r.ActsOn act nameless) :
    ∃ task, r.task? = some task ∧
      task.onSession? = some act ∧
        task.nameless = nameless := by
  cases h with
  | me hMethod hPath =>
      exact
        ⟨.me, Request.task?_of_me hMethod hPath, rfl, rfl⟩
  | createShare hMethod hPath =>
      refine ⟨.createShare, ?_, rfl, rfl⟩
      exact r.task?_eq_createShare_iff.mpr ⟨hMethod, hPath⟩
  | @revokeShare segment token hMethod hPath hSome hWhole
      hToken =>
      refine ⟨.revokeShare segment, ?_, ?_, rfl⟩
      · unfold Request.task?
        rw [hPath, hMethod, Place.ofPath?_share hSome hWhole]
        rfl
      · dsimp only [Task.onSession?]
        rw [hToken]
        rfl
  | logout hMethod hPath =>
      refine ⟨.logout, ?_, rfl, rfl⟩
      unfold Request.task?
      rw [hPath, hMethod]
      rfl
  | refresh hMethod hPath =>
      refine ⟨.refresh, ?_, rfl, rfl⟩
      unfold Request.task?
      rw [hPath, hMethod]
      rfl

/- No callback acts on a session. -/
theorem ne_callback_of_onSession?
    {task : Task}
    {act : String → Call}
    (hAct : task.onSession? = some act) :
    task ≠ .callback := by
  rintro rfl
  cases hAct

/- Who the user is, is told of the named session. -/
theorem handle_me_of_names
    (p : Login.Provider σ)
    (g : Gateway σ)
    (o : Occasion)
    {r : Request}
    {id : String}
    {user : User}
    (hMethod : r.method = "GET" ∨ r.method = "HEAD")
    (hPath : r.target.path = "/auth/me".toList)
    (hNames : r.Names id)
    (hUser : (g.sessions.validateId o.now id).1 = .ok user) :
    (g.handle p o r).1 =
      (Response.document 200 user.toJson).forMethod
        r.method := by
  have hTask := Request.task?_of_me hMethod hPath
  have hAuth :
      ({ g with served := g.served + 1 }.authenticate o
        r).1 = .ok user := by
    unfold authenticate
    rw [g.sessions.validate_of_names o.now hNames]
    exact hUser
  unfold handle
  rw [serve_of_task? p _ o r hTask]
  dsimp only [perform]
  unfold me
  split
  next e g' hResult =>
    rw [hResult] at hAuth
    cases hAuth
  next user' g' hResult =>
    rw [hResult] at hAuth
    rw [← Except.ok.inj hAuth]

/-
  What acting on one session means at an occasion: that of
  the field, else that of the query, else that after the
  mark in the authorization, and never an empty one.
-/
structure ActsOnNamed
    (p : Login.Provider σ)
    (g : Gateway σ)
    (o : Occasion)
    (r : Request) : Prop where
  located :
    ∀ id,
      Session.locate? r.headers r.target.query = some id ↔
        r.Names id
  notEmpty : ∀ id, r.Names id → id ≠ ""
  /- The sessions change by the call about the named one. -/
  called :
    ∀ act nameless id,
      r.ActsOn act nameless →
        r.Names id →
          (g.handle p o r).2.sessions =
            g.sessions.next p ⟨o.now, act id⟩
  /- Whoever is refused is told so, and nothing else. -/
  refused :
    ∀ act nameless id e,
      r.ActsOn act nameless →
        r.Names id →
          g.sessions.refusal? p ⟨o.now, act id⟩ = some e →
            (g.handle p o r).1 =
              (o.decline e).forMethod r.method
  told :
    ∀ id user,
      r.method = "GET" ∨ r.method = "HEAD" →
        r.target.path = "/auth/me".toList →
          r.Names id →
            (g.sessions.validateId o.now id).1 = .ok user →
              (g.handle p o r).1 =
                (Response.document 200 user.toJson).forMethod
                  r.method
  unnamed :
    ∀ act nameless,
      r.ActsOn act nameless →
        (∀ id, ¬r.Names id) →
          (g.handle p o r).2.sessions.sessions =
              g.sessions.sessions ∧
            (g.handle p o r).1 =
              (o.decline nameless).forMethod r.method
  /- It does not matter where the id stands. -/
  anywhere :
    ∀ act nameless (r' : Request),
      r.ActsOn act nameless →
        r'.method = r.method →
          r'.target.path = r.target.path →
            r'.body = r.body →
              (∀ id, r'.Names id ↔ r.Names id) →
                g.handle p o r' = g.handle p o r
  fieldDecides :
    ∀ (r' : Request) id,
      Session.FieldNames r.headers id →
        Http.fieldsNamed "x-session-id" r.headers =
            Http.fieldsNamed "x-session-id" r'.headers →
          r'.Names id
  queryDecides :
    ∀ (r' : Request) id,
      (∀ i, ¬Session.FieldNames r.headers i) →
        Session.QueryNames r.target.query id →
          Http.fieldsNamed "x-session-id" r.headers =
              Http.fieldsNamed "x-session-id" r'.headers →
            r'.target.query = r.target.query →
              r'.Names id
  /- A drawn id that is put in as it is arrives unchanged. -/
  travels :
    ∀ draw,
      Session.Carries r.headers r.target.query
          (Session.Manager.idOf draw) →
        r.Names (Session.Manager.idOf draw)

/-
  All requests that act on a session act on the one that is
  named, whatever the gateway and the request.
-/
theorem handle_acts_on_named_session
    (p : Login.Provider σ)
    (g : Gateway σ)
    (o : Occasion)
    (r : Request) :
    ActsOnNamed p g o r where
  located := Session.locate?_eq_some_iff _ _
  notEmpty := fun _ hNames => Session.Names.ne_empty hNames
  called := by
    intro act nameless id hActs hNames
    rcases hActs.exists_task with ⟨task, hTask, hAct, _⟩
    rcases call_of_names (o := o) p g hAct hNames with
      ⟨call, hCall, hNext, _⟩
    have hSessions := g.sessions_handle p o r
    rw [hTask, Option.bind_some, hCall] at hSessions
    exact hSessions.trans hNext
  refused := by
    intro act nameless id e hActs hNames hRefused
    rcases hActs.exists_task with ⟨task, hTask, hAct, _⟩
    rcases call_of_names (o := o) p g hAct hNames with
      ⟨call, hCall, _, hRefusal⟩
    rw [← hRefusal] at hRefused
    exact (handle_of_refused hTask hCall hRefused).1
  told := by
    intro id user hMethod hPath hNames hUser
    exact handle_me_of_names p g o hMethod hPath hNames hUser
  unnamed := by
    intro act nameless hActs hNone
    rcases hActs.exists_task with
      ⟨task, hTask, hAct, hNameless⟩
    rcases call_of_nameless (o := o) p g hAct hNone with
      ⟨call, hCall, hNext, hRefusal⟩
    have hSessions := g.sessions_handle p o r
    rw [hTask, Option.bind_some, hCall] at hSessions
    rw [hNameless] at hRefusal
    exact
      ⟨(congrArg (·.sessions) hSessions).trans hNext,
        (handle_of_refused hTask hCall hRefusal).1⟩
  anywhere := by
    intro act nameless r' hActs hMethod hPath hBody hNames
    rcases hActs.exists_task with ⟨task, hTask, hAct, _⟩
    exact
      handle_congr p g hTask (ne_callback_of_onSession? hAct)
        hMethod hPath hBody hNames
  fieldDecides := fun _ _ hField hSame =>
    Session.Names.of_fieldNames hField hSame
  queryDecides := by
    intro r' id hNone hQuery hSame hSameQuery
    unfold Request.Names
    rw [hSameQuery]
    exact Session.Names.of_queryNames hNone hQuery hSame
  travels := by
    intro draw hCarries
    exact
      hCarries.names (Login.isUrlSafe_tokenOf draw.toList)
        (Session.Manager.idOf_ne_empty draw)

/- The question of who logged in, with the id elsewhere. -/
def bearerMeOf
    (login : Occasion) : Request :=
  ⟨"GET", .ofChars "/auth/me?session_id=".toList,
    [⟨"X-Session-Id", Utf8.encode " "⟩,
     ⟨"Authorization",
      Utf8.encode ("Bearer " ++ login.sessionId)⟩], []⟩

/- An id counts the same wherever it stands. -/
theorem handle_bearerMeOf :
    sharedByAnn.handle byCode (drawing 1)
        (bearerMeOf (drawing 1)) =
      sharedByAnn.handle byCode (drawing 1)
        (meOf (drawing 1)) ∧
      (sharedByAnn.handle byCode (drawing 1)
          (meOf (drawing 1))).1.status = 200 ∧
        (sharedByAnn.handle byCode (drawing 3)
          (meOf (drawing 3))).1 =
            (drawing 3).decline
              (.unauthorized "session not found") := by
  let id := Session.Manager.idOf (drawing 1).sessionDraw
  have hActs :
      ∀ o, ActsOnNamed byCode sharedByAnn o (meOf o) :=
    fun o => handle_acts_on_named_session _ _ o (meOf o)
  have hLower : "x-session-id".toLower = "x-session-id" := by
    decide +kernel
  have hInField :
      ∀ o,
        (meOf o).Names
          (Session.Manager.idOf o.sessionDraw) := by
    intro o
    apply (hActs o).travels
    apply Session.Carries.field
    exact ⟨[], _, [], rfl, hLower, rfl, by simp⟩
  have hInBearer : (bearerMeOf (drawing 1)).Names id := by
    apply
      (handle_acts_on_named_session byCode sharedByAnn
        (drawing 1) (bearerMeOf (drawing 1))).travels
    apply Session.Carries.bearer
    · exact
        (Session.not_names_iff
          (Session.idInField?_eq_some_iff _)).mp
            (by decide +kernel)
    · exact
        (Session.not_names_iff
          (Session.idInQuery?_eq_some_iff _)).mp
            (by decide +kernel)
    · refine ⟨[_], _, [], rfl, by decide +kernel, rfl, ?_⟩
      intro other hOther
      rw [List.mem_singleton.mp hOther]
      decide +kernel
  have hMe :
      ∀ o,
        (meOf o).ActsOn .validateId
          (.unauthorized "no session id") :=
    fun _ => Request.ActsOn.me (Or.inl rfl) rfl
  have hUser :
      (sharedByAnn.sessions.validateId (drawing 1).now
          id).1 =
        .ok ⟨"ann", "ann", "ann", .hide "", [], []⟩ := by
    decide +kernel
  have hUnknown :
      sharedByAnn.sessions.refusal? byCode
          ⟨(drawing 3).now,
            .validateId
              (Session.Manager.idOf
                (drawing 3).sessionDraw)⟩ =
        some (.unauthorized "session not found") := by
    decide +kernel
  refine ⟨?_, ?_, ?_⟩
  · apply
      (hActs (drawing 1)).anywhere _ _
        (bearerMeOf (drawing 1)) (hMe _) rfl rfl rfl
    intro i
    constructor
    · intro hNames
      rw [hNames.unique hInBearer]
      exact hInField (drawing 1)
    · intro hNames
      rw [hNames.unique (hInField (drawing 1))]
      exact hInBearer
  · rw [(hActs (drawing 1)).told id _ (Or.inl rfl) rfl
      (hInField (drawing 1)) hUser]
    rfl
  · exact
      (hActs (drawing 3)).refused _ _ _ _ (hMe _)
        (hInField (drawing 3)) hUnknown

end Gateway

end Gatehouse
