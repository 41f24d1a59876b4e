import Gatehouse.Http.Client
import Gatehouse.Http.Status
import Gatehouse.Login.Pending
import Gatehouse.Login.Pkce
import Gatehouse.Login.Profile
import Gatehouse.Login.Provider

/-
  Logins by code with a proof key.

  Starting a login draws a verifier and a state, and leads
  to the address of the provider with the challenge of the
  verifier.  The callback uses up the state, exchanges the
  code and the verifier for a token, and asks with it for
  the profile and the memberships of the user.  Memberships
  that cannot be had count as none.

  Key definitions include:
    * `Login.Endpoints`
    * `Login.Seed`
    * `Login.Endpoints.authorizationUrl`
    * `Login.Endpoints.authorize`
    * `Login.Endpoints.exchange`
    * `Login.Endpoints.revoke`
    * `Login.Moment`
    * `Login.Endpoints.provider`
-/

namespace Gatehouse

namespace Login

/- The addresses of a provider, and who asks it. -/
structure Endpoints where
  authorizeUrl : String
  tokenUrl : String
  userinfoUrl : String
  orgsUrl : Option String
  teamsUrl : Option String
  revokeUrl : Option String
  clientId : String
  clientSecret : Secret
  scopes : String
  deriving DecidableEq

/- The octets drawn for a login. -/
structure Seed where
  verifier : Vector UInt8 verifierOctets
  state : Vector UInt8 stateOctets
  deriving DecidableEq

/- What a call gives, and what it leaves of the client. -/
abbrev Outcome
    (ν α : Type) :=
  Except Fault α × ν

/- Go on with what a call gave, unless it failed. -/
def Outcome.andThen {ν α β : Type}
    (r : Outcome ν α)
    (next : α → ν → Outcome ν β) : Outcome ν β :=
  match r with
  | (.error e, net) => (.error e, net)
  | (.ok a, net) => next a net

namespace Endpoints

/- How the gateway names itself to a provider. -/
def userAgent : String :=
  "agent-auth-gateway/0.1.0"

/- The type of documents that are asked for. -/
def documentType : String :=
  "application/json"

------------------------------------------------------------
-- Starting a Login
------------------------------------------------------------

/- The pairs that a person takes to the provider. -/
def authorizationPairs
    (e : Endpoints)
    (address state challenge : String) :
    List (String × String) :=
  [("client_id", e.clientId),
   ("redirect_uri", address),
   ("response_type", "code"),
   ("scope", e.scopes),
   ("state", state),
   ("code_challenge", challenge),
   ("code_challenge_method", "S256")]

/- Where a person logs in. -/
def authorizationUrl
    (e : Endpoints)
    (address state challenge : String) :
    Except Fault String :=
  match Url.parse e.authorizeUrl with
  | .error f => .error (.authorizationUrl f.message)
  | .ok u =>
      .ok (u.withPairs
        (e.authorizationPairs address state challenge)).write

/- Start a login and remember it. -/
def authorize
    (e : Endpoints)
    (now : Nat)
    (seed : Seed)
    (address : String)
    (w : Waiting) : Except Fault Ticket × Waiting :=
  let verifier := tokenOf seed.verifier.toList
  let state := tokenOf seed.state.toList
  match e.authorizationUrl address state
      (challenge verifier) with
  | .error f => (.error f, w)
  | .ok url =>
      (.ok ⟨url, state⟩,
        w.add now state ⟨verifier, address, now⟩)

------------------------------------------------------------
-- Exchanging a Code
------------------------------------------------------------

/- The pairs that are exchanged for a token. -/
def tokenPairs
    (e : Endpoints)
    (code : String)
    (p : Pending) : List (String × String) :=
  [("grant_type", "authorization_code"),
   ("code", code),
   ("redirect_uri", p.address),
   ("client_id", e.clientId),
   ("client_secret", e.clientSecret.reveal),
   ("code_verifier", p.verifier)]

/- The call that exchanges a code. -/
def tokenCall
    (e : Endpoints)
    (code : String)
    (p : Pending) : Http.Call :=
  { verb := .post
    address := e.tokenUrl
    agent := userAgent
    accept := documentType
    pass := .nobody
    form := some (e.tokenPairs code p) }

/- The token of a grant. -/
def tokenOfGrant
    (g : Grant) : Except Fault String :=
  match g.error with
  | some error =>
      .error (.tokenExchange
        (error ++ ": " ++ g.description.getD ""))
  | none =>
      if g.token.isEmpty then
        .error (.tokenExchange
          "response has no access_token")
      else
        .ok g.token

/- The token of a response. -/
def tokenOfReply
    (r : Http.Reply) : Except Fault String :=
  if !Http.isSuccess r.response.status then
    .error (.tokenExchange
      ("token endpoint returned " ++
        Http.describeStatus r.response.status ++ ": " ++
        Utf8.decodeLossy r.response.body))
  else
    match r.document? Grant.ofNode? with
    | .error f =>
        .error (.tokenExchange
          ("invalid token response: " ++ f.message))
    | .ok g => tokenOfGrant g

/- Exchange a code for a token. -/
def requestToken {ν : Type}
    (e : Endpoints)
    (k : Http.Client ν)
    (net : ν)
    (code : String)
    (p : Pending) : Outcome ν String :=
  match (e.tokenCall code p).send k net with
  | (.error f, net') =>
      (.error (.http
        ("token request failed: " ++ f.message)), net')
  | (.ok r, net') => (tokenOfReply r, net')

/- The call that asks for a document with a token. -/
def documentCall
    (address token : String) : Http.Call :=
  { verb := .get
    address := address
    agent := userAgent
    accept := documentType
    pass := .bearer token
    form := none }

/- The document of a response from an address. -/
def documentOfReply {α : Type}
    (address : String)
    (read : Json.Node → Option α)
    (r : Http.Reply) : Except Fault α :=
  if !Http.isSuccess r.response.status then
    .error (.userLookup
      (address ++ " returned " ++
        Http.describeStatus r.response.status))
  else
    match r.document? read with
    | .error f =>
        .error (.userLookup
          ("invalid response from " ++ address ++ ": " ++
            f.message))
    | .ok a => .ok a

/- Ask an address for a document. -/
def requestDocument {ν α : Type}
    (k : Http.Client ν)
    (net : ν)
    (address token : String)
    (read : Json.Node → Option α) : Outcome ν α :=
  match (documentCall address token).send k net with
  | (.error f, net') =>
      (.error (.http
        ("GET " ++ address ++ " failed: " ++ f.message)),
        net')
  | (.ok r, net') => (documentOfReply address read r, net')

/- Ask for memberships, if there is an address for them. -/
def requestMemberships {ν : Type}
    (k : Http.Client ν)
    (net : ν)
    (address : Option String)
    (token : String)
    (read : Json.Node → Option String) :
    List String × ν :=
  match address with
  | none => ([], net)
  | some a =>
      match requestDocument k net a token
          (Json.Node.list? read) with
      | (.error _, net') => ([], net')
      | (.ok names, net') => (names, net')

/- Ask for the memberships of a user with a profile. -/
def requestUser {ν : Type}
    (e : Endpoints)
    (k : Http.Client ν)
    (net : ν)
    (token : String)
    (p : Profile) : Outcome ν User :=
  match p.userId? with
  | none =>
      (.error (.userLookup "profile has no user id"), net)
  | some userId =>
      let (orgs, net₁) :=
        requestMemberships k net e.orgsUrl token
          organization?
      let (teams, net₂) :=
        requestMemberships k net₁ e.teamsUrl token team?
      (.ok (p.toUser userId token orgs teams), net₂)

/- Ask who the user is that a token stands for. -/
def fetchUser {ν : Type}
    (e : Endpoints)
    (k : Http.Client ν)
    (net : ν)
    (token : String) : Outcome ν User :=
  (requestDocument k net e.userinfoUrl token
    Profile.ofNode?).andThen
      (fun p net' => e.requestUser k net' token p)

/- Exchange a code and a state for a user. -/
def exchange {ν : Type}
    (e : Endpoints)
    (k : Http.Client ν)
    (now : Nat)
    (code state : String)
    (w : Waiting)
    (net : ν) : Except Fault User × Waiting × ν :=
  match w.take now state with
  | (.error f, w') => (.error f, w', net)
  | (.ok p, w') =>
      let (found, net') :=
        (e.requestToken k net code p).andThen
          (fun token net₁ => e.fetchUser k net₁ token)
      (found, w', net')

------------------------------------------------------------
-- Revoking a Token
------------------------------------------------------------

/- The call that revokes a token. -/
def revocationCall
    (e : Endpoints)
    (address token : String) : Http.Call :=
  { verb := .post
    address := address
    agent := userAgent
    accept := "*/*"
    pass := .basic e.clientId e.clientSecret.reveal
    form :=
      some
        [("token", token),
         ("token_type_hint", "access_token")] }

/- What a response says about a revocation. -/
def revocationOfReply
    (r : Http.Reply) : Except Fault Unit :=
  if Http.isSuccess r.response.status then
    .ok ()
  else
    .error (.revocation
      ("revocation endpoint returned " ++
        Http.describeStatus r.response.status))

/- Revoke a token, if there is an address for that. -/
def revoke {ν : Type}
    (e : Endpoints)
    (k : Http.Client ν)
    (token : String)
    (net : ν) : Outcome ν Unit :=
  match e.revokeUrl with
  | none => (.ok (), net)
  | some address =>
      match (e.revocationCall address token).send k net with
      | (.error f, net') =>
          (.error (.http
            ("revocation request failed: " ++ f.message)),
            net')
      | (.ok r, net') => (revocationOfReply r, net')

end Endpoints

------------------------------------------------------------
-- Providers at a Moment
------------------------------------------------------------

/-
  The moment of a call: the reading of a steady clock, the
  octets drawn if a login is started, and how long the
  provider takes.
-/
structure Moment where
  steady : Nat
  seed : Seed
  delay : Nat
  deriving DecidableEq

/- A provider that waits for logins, at a moment. -/
def Endpoints.provider {ν : Type}
    (e : Endpoints)
    (k : Http.Client ν)
    (t : Moment) : Provider (Waiting × ν) where
  authorize s address :=
    let (result, w) := e.authorize t.steady t.seed address s.1
    (⟨t.delay, result⟩, (w, s.2))
  exchange s code state :=
    let (result, s') :=
      e.exchange k t.steady code state s.1 s.2
    (⟨t.delay, result⟩, s')
  revoke s token :=
    let (result, net) := e.revoke k token s.2
    (⟨t.delay, result⟩, (s.1, net))

end Login

end Gatehouse
