import Gatehouse.Login.Standard
import Gatehouse.Net.SocketAddress
import Gatehouse.Session.Manager

/-
  Settings of a gateway.

  A draft is what a document says.  Settings are a draft
  together with the secret of the client, which never comes
  from the document itself.

  Key definitions include:
    * `Settings.Draft`
    * `Settings`
    * `Settings.endpoints`
    * `Settings.provider`
    * `Settings.terms`
    * `Settings.shareLifetime`
-/

namespace Gatehouse

namespace Settings

/- Where and how many connections are accepted. -/
structure Server where
  address : SocketAddress
  greatestConnections : Nat
  deriving DecidableEq, Repr

/- How the gateway asks an identity provider. -/
structure Provider where
  name : String
  authorizeUrl : String
  tokenUrl : String
  userinfoUrl : String
  orgsUrl : Option String
  teamsUrl : Option String
  revokeUrl : Option String
  clientId : String
  secretFile : Option String
  scopes : String
  redirects : List String
  timeoutSeconds : Nat
  deriving DecidableEq, Repr

/- How long sessions live and when they are swept. -/
structure Sessions where
  lifetimeSeconds : Nat
  sweepSeconds : Nat
  deriving DecidableEq, Repr

namespace Sessions

/- Sessions live for a day. -/
def usualLifetime : Nat :=
  86400

/- Sessions are swept each quarter of an hour. -/
def usualSweep : Nat :=
  900

/- What holds for sessions unless something is said. -/
def usual : Sessions :=
  ⟨usualLifetime, usualSweep⟩

end Sessions

/- How long shares live and when they are cleaned up. -/
structure Shares where
  cleanupSeconds : Nat
  /- Zero stands for no end. -/
  lifetimeSeconds : Nat
  deriving DecidableEq, Repr

namespace Shares

/- Shares are cleaned up each five minutes. -/
def usualCleanup : Nat :=
  300

/- What holds for shares unless something is said. -/
def usual : Shares :=
  ⟨usualCleanup, 0⟩

end Shares

/- What a document says. -/
structure Draft where
  server : Server
  provider : Provider
  sessions : Sessions
  shares : Shares
  deriving DecidableEq, Repr

end Settings

/- What a gateway is run with. -/
structure Settings where
  draft : Settings.Draft
  clientSecret : Secret
  deriving DecidableEq

namespace Settings

/- The addresses of the provider, and who asks it. -/
def endpoints
    (s : Settings) : Login.Endpoints :=
  let p := s.draft.provider
  { authorizeUrl := p.authorizeUrl
    tokenUrl := p.tokenUrl
    userinfoUrl := p.userinfoUrl
    orgsUrl := p.orgsUrl
    teamsUrl := p.teamsUrl
    revokeUrl := p.revokeUrl
    clientId := p.clientId
    clientSecret := s.clientSecret
    scopes := p.scopes }

/- The provider that a gateway with the settings asks. -/
def provider {ν : Type}
    (s : Settings)
    (k : Http.Client ν)
    (t : Login.Moment) :
    Login.Provider (Login.Waiting × ν) :=
  s.endpoints.provider k t

/- What the sessions are held to. -/
def terms
    (s : Settings) : Session.Terms :=
  let p := s.draft.provider
  { redirects := .ofEntries p.redirects
    lifetime :=
      s.draft.sessions.lifetimeSeconds * Span.second
    patience := p.timeoutSeconds * Span.second }

/- The usual lifetime of a share in seconds, if it ends. -/
def shareSeconds
    (s : Settings) : Option Nat :=
  let n := s.draft.shares.lifetimeSeconds
  if n = 0 then none else some n

/- The usual lifetime of a share, if it ends. -/
def shareLifetime
    (s : Settings) : Option Span :=
  s.shareSeconds.map Span.ofSeconds

end Settings

end Gatehouse
