import Gatehouse.Gateway.Parameters
import Gatehouse.Gateway.Response
import Gatehouse.Gateway.Route
import Gatehouse.Gateway.Traffic
import Gatehouse.Login.Pkce
import Gatehouse.Session.Manager
import Gatehouse.Share.Report

/-
  The gateway.

  The gateway serves logins, sessions, shares, its health
  and its metrics.  Each request is served at an occasion:
  the time, and what is drawn at random for it.  All
  requests are counted, those that lead nowhere too.

  Key definitions include:
    * `Gateway.Occasion`
    * `Gateway`
    * `Gateway.perform`
    * `Gateway.serve`
    * `Gateway.handle`
-/

namespace Gatehouse

/- What a request meets when it arrives. -/
structure Gateway.Occasion where
  /- The time of the calendar. -/
  now : Instant
  /- The time of a clock that never goes back. -/
  tick : Nat
  /- What is drawn for a session id. -/
  sessionDraw : Vector UInt8 32
  /- What is drawn for a token of a share. -/
  shareDraw : Share.Draw
  /- What is drawn for the id of a problem. -/
  problemId : String
  /- How many seconds the request takes. -/
  seconds : Float

/- Sessions, shares and counts behind the routes. -/
structure Gateway
    (σ : Type) where
  sessions : Session.Manager σ
  shares : Share.Registry
  /- How long a share lives if its wish says nothing. -/
  usualLifetime : Option Span
  startedAt : Nat
  served : Nat
  traffic : Gateway.Traffic

namespace Gateway

variable {σ : Type}

/- A gateway that has just been started. -/
def start
    (sessions : Session.Manager σ)
    (usualLifetime : Option Span)
    (tick : Nat) : Gateway σ :=
  { sessions := sessions
    shares := Share.Registry.empty
    usualLifetime := usualLifetime
    startedAt := tick
    served := 0
    traffic := Traffic.empty }

/- The session id that is drawn at an occasion. -/
def Occasion.sessionId
    (o : Occasion) : String :=
  Login.tokenOf o.sessionDraw.toList

/- The response to a request that has a problem. -/
def Occasion.refuse
    (o : Occasion)
    (p : Problem) : Response :=
  p.respond o.problemId

/- The response to a request that is refused. -/
def Occasion.decline
    (o : Occasion)
    (r : Refusal) : Response :=
  o.refuse (.ofRefusal r)

/- A document with a single message. -/
def messageJson
    (s : String) : Json.Value :=
  .object [("message", .text s)]

/- The session id that a request names, or nothing. -/
def namedSession
    (r : Request) : String :=
  (Session.locate? r.headers r.target.query).getD ""

------------------------------------------------------------
-- Logins
------------------------------------------------------------

/- The document of a started login. -/
def ticketJson
    (t : Login.Ticket) : Json.Value :=
  .object
    [("auth_url", .text t.url),
     ("state", .text t.state)]

/- Start a login. -/
def login
    (p : Login.Provider σ)
    (g : Gateway σ)
    (o : Occasion)
    (r : Request) : Response × Gateway σ :=
  match returnAddress? r.body with
  | none =>
      (o.refuse (.invalid "invalid request body"), g)
  | some address =>
      let (result, sessions) :=
        g.sessions.initiate p address
      let g' := { g with sessions := sessions }
      match result with
      | .error e => (o.decline e, g')
      | .ok t => (.document 200 (ticketJson t), g')

/- What a client is told of a name that stands twice. -/
def repeatedMessage
    (name : String) : String :=
  "Failed to deserialize query string: " ++
    "duplicate field \x60" ++ name ++ "\x60"

/- Finish a login. -/
def callback
    (p : Login.Provider σ)
    (g : Gateway σ)
    (o : Occasion)
    (r : Request) : Response × Gateway σ :=
  match Callback.ofQuery (r.target.query.getD []) with
  | .error name => (.plain 400 (repeatedMessage name), g)
  | .ok c =>
      if c.denial.isSome then
        (o.refuse (.unauthenticated "authorization denied"),
          g)
      else
        let (result, sessions) :=
          g.sessions.complete p o.now o.sessionId
            c.code c.state
        let g' := { g with sessions := sessions }
        match result with
        | .error e => (o.decline e, g')
        | .ok d => (.document 200 d.toJson, g')

------------------------------------------------------------
-- Sessions
------------------------------------------------------------

/- End a session. -/
def logout
    (p : Login.Provider σ)
    (g : Gateway σ)
    (o : Occasion)
    (r : Request) : Response × Gateway σ :=
  let (result, sessions) :=
    g.sessions.logout p (namedSession r)
  let g' := { g with sessions := sessions }
  match result with
  | .error e => (o.decline e, g')
  | .ok () =>
      (.document 200 (messageJson "logged out"), g')

/- The document of a refreshed session. -/
def refreshJson
    (d : Session.Descriptor) : Json.Value :=
  .object
    [("access_token", .text d.sessionId),
     ("token_type", .text Session.tokenType),
     ("expires_at", d.expiryJson),
     ("user", d.user.toJson)]

/- Refresh a session. -/
def refresh
    (g : Gateway σ)
    (o : Occasion)
    (r : Request) : Response × Gateway σ :=
  let (result, sessions) :=
    g.sessions.refresh o.now (namedSession r)
  let g' := { g with sessions := sessions }
  match result with
  | .error e => (o.decline e, g')
  | .ok d => (.document 200 (refreshJson d), g')

/- The user whose session a request names. -/
def authenticate
    (g : Gateway σ)
    (o : Occasion)
    (r : Request) : Except Refusal User × Gateway σ :=
  let (result, sessions) :=
    g.sessions.validate o.now r.headers r.target.query
  (result, { g with sessions := sessions })

/- Say who the user is. -/
def me
    (g : Gateway σ)
    (o : Occasion)
    (r : Request) : Response × Gateway σ :=
  match g.authenticate o r with
  | (.error e, g') => (o.decline e, g')
  | (.ok user, g') => (.document 200 user.toJson, g')

------------------------------------------------------------
-- Shares
------------------------------------------------------------

/- Issue a share that a user wishes for. -/
def orderShare
    (g : Gateway σ)
    (o : Occasion)
    (user : User)
    (w : Wish) : Response × Gateway σ :=
  match w.lifetime? g.usualLifetime with
  | none =>
      (o.refuse (.invalid "ttl_secs out of range"), g)
  | some lifetime =>
      let (result, shares) :=
        g.shares.create o.now o.shareDraw
          ⟨w.sessionId, user.id, lifetime⟩
      let g' := { g with shares := shares }
      match result with
      | .error e => (o.refuse (.ofShare e), g')
      | .ok s => (.document 201 s.toJson, g')

/- Share a session. -/
def createShare
    (g : Gateway σ)
    (o : Occasion)
    (r : Request) : Response × Gateway σ :=
  match g.authenticate o r with
  | (.error e, g') => (o.decline e, g')
  | (.ok user, g') =>
      match Wish.ofBody? r.body with
      | none =>
          (o.refuse (.invalid "invalid request body"), g')
      | some w => g'.orderShare o user w

/- What the holder of a token learns about a share. -/
def publicJson
    (s : Share) : Json.Value :=
  .object
    [("token", .text s.token),
     ("session_id", .text s.sessionId),
     ("created_at", .text (Timestamp.write s.createdAt)),
     ("expires_at", s.expiryJson)]

/- Show a share. -/
def resolveShare
    (g : Gateway σ)
    (o : Occasion)
    (token : String) : Response × Gateway σ :=
  let (result, shares) := g.shares.resolve o.now token
  let g' := { g with shares := shares }
  match result with
  | .error e => (o.refuse (.ofShare e), g')
  | .ok s => (.document 200 (publicJson s), g')

/- Take a share back. -/
def revokeShare
    (g : Gateway σ)
    (o : Occasion)
    (r : Request)
    (token : String) : Response × Gateway σ :=
  match g.authenticate o r with
  | (.error e, g') => (o.decline e, g')
  | (.ok user, g') =>
      let (result, shares) := g'.shares.revoke token user.id
      let g'' := { g' with shares := shares }
      match result with
      | .error e => (o.refuse (.ofShare e), g'')
      | .ok () =>
          (.document 200 (messageJson "share revoked"), g'')

/- What a client is told of a token that is no text. -/
def segmentMessage : String :=
  "Invalid URL: Invalid UTF-8 in \x60token\x60"

/- Do something with the token in a segment. -/
def withToken
    (g : Gateway σ)
    (segment : List Char)
    (use : String → Response × Gateway σ) :
    Response × Gateway σ :=
  match segmentText? segment with
  | none => (.plain 400 segmentMessage, g)
  | some token => use token

------------------------------------------------------------
-- Health and Metrics
------------------------------------------------------------

/- The whole seconds since the start. -/
def uptime
    (g : Gateway σ)
    (o : Occasion) : Nat :=
  (o.tick - g.startedAt) / Span.second

/- The document of the health. -/
def healthJson
    (g : Gateway σ)
    (o : Occasion) : Json.Value :=
  .object
    [("status", .text "healthy"),
     ("uptime_seconds", .natural (g.uptime o)),
     ("sessions_active", .natural g.sessions.active),
     ("requests_served", .natural g.served)]

/- All metrics. -/
def families
    (g : Gateway σ) : List Metric.Family :=
  g.sessions.tally.families ++ g.shares.tally.families ++
    g.traffic.families

------------------------------------------------------------
-- Serving
------------------------------------------------------------

/- Do a task. -/
def perform
    (p : Login.Provider σ)
    (g : Gateway σ)
    (o : Occasion)
    (r : Request) :
    Task → Response × Gateway σ
  | .login => g.login p o r
  | .callback => g.callback p o r
  | .logout => g.logout p o r
  | .refresh => g.refresh o r
  | .me => g.me o r
  | .createShare => g.createShare o r
  | .resolveShare t => g.withToken t (g.resolveShare o)
  | .revokeShare t => g.withToken t (g.revokeShare o r)
  | .health => (.document 200 (g.healthJson o), g)
  | .metrics => (.page (Metric.page g.families), g)

/- Serve a request where it leads to. -/
def serve
    (p : Login.Provider σ)
    (g : Gateway σ)
    (o : Occasion)
    (r : Request) : Response × Gateway σ :=
  match Place.ofPath? r.target.path with
  | none => (.bare 404, g)
  | some place =>
      match place.task? r.method with
      | none => (.notAllowed place.allowed, g)
      | some task => g.perform p o r task

/- A response as it suits the method of the request. -/
def Response.forMethod
    (response : Response)
    (method : String) : Response :=
  if method = "HEAD" then response.withoutBody else response

/-
  Handle a request.  It counts as served while it is being
  served, and as answered afterwards.
-/
def handle
    (p : Login.Provider σ)
    (g : Gateway σ)
    (o : Occasion)
    (r : Request) : Response × Gateway σ :=
  let (response, g') :=
    { g with served := g.served + 1 }.serve p o r
  let traffic :=
    g'.traffic.record response.status r.method o.seconds
  (response.forMethod r.method,
    { g' with traffic := traffic })

------------------------------------------------------------
-- Periodic Tasks
------------------------------------------------------------

/- Remove the expired sessions. -/
def sweepSessions
    (g : Gateway σ)
    (now : Instant) : Gateway σ :=
  { g with sessions := (g.sessions.sweep now).2 }

/- Remove the expired shares. -/
def cleanShares
    (g : Gateway σ)
    (now : Instant) : Gateway σ :=
  { g with shares := (g.shares.cleanup now).2 }

end Gateway

end Gatehouse
