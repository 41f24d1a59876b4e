import Gatehouse.Settings.Basic
import Gatehouse.Toml.Reader

/-
  Settings in a document.

  A document has a section for each part of the settings.
  What it may leave out has a usual value.

  Key definitions include:
    * `Settings.Draft.ofText?`
-/

namespace Gatehouse

namespace Settings

open Toml (Value)
open Toml.Value (text? word64? texts? optional)
open Reading (orDefault required)

/- An address with a port. -/
def address?
    (v : Value) : Option SocketAddress :=
  v.text?.bind SocketAddress.ofText?

/- How many connections are accepted at once. -/
def usualConnections : Nat :=
  1000

/- The section about the server. -/
def Server.ofValue?
    (v : Value) : Option Server :=
  match v.fields? ["listen_addr", "max_connections"] with
  | some [address, connections] => do
      let address ← required address? address
      let connections ←
        orDefault word64? usualConnections connections
      some ⟨address, connections⟩
  | _ => none

/- The name of a provider that is not named. -/
def usualProvider : String :=
  "github"

/- How long a provider is waited for, in seconds. -/
def usualTimeout : Nat :=
  10

/- The fields of the section about the provider. -/
def Provider.names : List String :=
  ["provider", "authorize_url", "token_url",
   "userinfo_url", "orgs_url", "teams_url", "revoke_url",
   "client_id", "client_secret_file", "scopes",
   "allowed_redirect_uris", "request_timeout_secs"]

/- The section about the provider. -/
def Provider.ofValue?
    (v : Value) : Option Provider :=
  match v.fields? Provider.names with
  | some [name, authorize, token, userinfo, orgs, teams,
      revoke, client, secret, scopes, redirects,
      timeout] => do
      let name ← orDefault text? usualProvider name
      let authorize ← required text? authorize
      let token ← required text? token
      let userinfo ← required text? userinfo
      let orgs ← optional text? orgs
      let teams ← optional text? teams
      let revoke ← optional text? revoke
      let client ← required text? client
      let secret ← optional text? secret
      let scopes ← orDefault text? "" scopes
      let redirects ← orDefault texts? [] redirects
      let timeout ← orDefault word64? usualTimeout timeout
      some
        { name := name
          authorizeUrl := authorize
          tokenUrl := token
          userinfoUrl := userinfo
          orgsUrl := orgs
          teamsUrl := teams
          revokeUrl := revoke
          clientId := client
          secretFile := secret
          scopes := scopes
          redirects := redirects
          timeoutSeconds := timeout }
  | _ => none

/- The section about sessions. -/
def Sessions.ofValue?
    (v : Value) : Option Sessions :=
  match v.fields? ["ttl_secs", "sweep_interval_secs"] with
  | some [lifetime, sweep] => do
      let lifetime ←
        orDefault word64? usualLifetime lifetime
      let sweep ← orDefault word64? usualSweep sweep
      some ⟨lifetime, sweep⟩
  | _ => none

/- The section about shares. -/
def Shares.ofValue?
    (v : Value) : Option Shares :=
  match v.fields?
      ["cleanup_interval_secs", "default_ttl_secs"] with
  | some [cleanup, lifetime] => do
      let cleanup ← orDefault word64? usualCleanup cleanup
      let lifetime ← orDefault word64? 0 lifetime
      some ⟨cleanup, lifetime⟩
  | _ => none

/- The draft that a document describes. -/
def Draft.ofValue?
    (v : Value) : Option Draft :=
  match v.fields?
      ["server", "oauth", "sessions", "shares"] with
  | some [server, provider, sessions, shares] => do
      let server ← required Server.ofValue? server
      let provider ← required Provider.ofValue? provider
      let sessions ←
        orDefault Sessions.ofValue? Sessions.usual sessions
      let shares ←
        orDefault Shares.ofValue? Shares.usual shares
      some ⟨server, provider, sessions, shares⟩
  | _ => none

/- The draft in the text of a document. -/
def Draft.ofText?
    (s : String) : Option Draft :=
  (Toml.ofText? s).bind Draft.ofValue?

end Settings

end Gatehouse
