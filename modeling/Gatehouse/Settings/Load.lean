import Gatehouse.Environment
import Gatehouse.FileTree
import Gatehouse.Settings.Document

/-
  Loading of settings.

  A draft is checked in a fixed order; the first flaw is
  reported.  The secret of the client comes from a variable,
  or else from a file.  A variable with return addresses
  takes the place of those in the document.

  Key definitions include:
    * `Settings.Flaw`
    * `Settings.Fault`
    * `Settings.Draft.flaw?`
    * `Settings.Draft.secret`
    * `Settings.Draft.complete`
    * `Settings.load`
    * `Settings.choosePath`
-/

namespace Gatehouse

namespace Settings

------------------------------------------------------------
-- Faults
------------------------------------------------------------

/- What is wrong with settings that can be read. -/
inductive Flaw where
  | notHttp (field value : String)
  | blankClientId
  | zero (field : String)
  | unreadableSecret (path : String)
      (reason : FileTree.ReadFault)
  | missingSecret
  deriving DecidableEq, Repr

/- The variable with the secret of the client. -/
def secretVariable : String :=
  "OAUTH_CLIENT_SECRET"

/- The variable with the return addresses. -/
def redirectsVariable : String :=
  "OAUTH_ALLOWED_REDIRECT_URIS"

/- The text of a flaw. -/
def Flaw.message :
    Flaw → String
  | .notHttp field value =>
      field ++
        " must start with http:// or https://, got: " ++
        value
  | .blankClientId => "client_id must not be empty"
  | .zero field => field ++ " must be greater than 0"
  | .unreadableSecret path reason =>
      "failed to read client_secret_file " ++ path ++
        ": " ++ reason.message
  | .missingSecret =>
      "OAuth client secret missing: set " ++
        secretVariable ++ " or client_secret_file"

/- Why settings cannot be loaded. -/
inductive Fault where
  | flaw (text : String)
  | unreadable (text : String)
  /- The text does not describe a draft. -/
  | document
  deriving DecidableEq, Repr

/- The text of a fault, where it has one. -/
def Fault.message? :
    Fault → Option String
  | .flaw t => some ("Configuration error: " ++ t)
  | .unreadable t => some ("I/O error: " ++ t)
  | .document => none

------------------------------------------------------------
-- Checks
------------------------------------------------------------

/- Does an address name a web page? -/
def isHttp
    (address : String) : Bool :=
  "http://".toList.isPrefixOf address.toList ||
    "https://".toList.isPrefixOf address.toList

/- A field that must be the address of a web page. -/
def checkHttp
    (field value : String) : Option Flaw :=
  if isHttp value then none else some (.notHttp field value)

/- A field that must not be zero. -/
def checkPositive
    (field : String)
    (n : Nat) : Option Flaw :=
  if n = 0 then some (.zero field) else none

/- The client must have an id. -/
def checkClient
    (id : String) : Option Flaw :=
  if Text.isBlankText id then some .blankClientId else none

namespace Draft

/- What is checked, in order. -/
def checks
    (d : Draft) : List (Option Flaw) :=
  let p := d.provider
  [checkHttp "authorize_url" p.authorizeUrl,
   checkHttp "token_url" p.tokenUrl,
   checkHttp "userinfo_url" p.userinfoUrl,
   p.orgsUrl.bind (checkHttp "orgs_url"),
   p.teamsUrl.bind (checkHttp "teams_url"),
   p.revokeUrl.bind (checkHttp "revoke_url"),
   checkClient p.clientId,
   checkPositive "request_timeout_secs" p.timeoutSeconds,
   checkPositive "ttl_secs" d.sessions.lifetimeSeconds,
   checkPositive "sweep_interval_secs"
     d.sessions.sweepSeconds,
   checkPositive "cleanup_interval_secs"
     d.shares.cleanupSeconds,
   checkPositive "max_connections"
     d.server.greatestConnections]

/- The first flaw of a draft. -/
def flaw?
    (d : Draft) : Option Flaw :=
  d.checks.findSome? id

------------------------------------------------------------
-- The Secret
------------------------------------------------------------

/- The trimmed text of the file with the secret. -/
def secretInFile
    (d : Draft)
    (read : FileTree.TextReader) : Except Flaw String :=
  match d.provider.secretFile with
  | none => .ok ""
  | some path =>
      match read path with
      | .error f => .error (.unreadableSecret path f)
      | .ok s => .ok (Text.trim s)

/-
  The secret of the client: the variable as it is, or else
  what the file holds.
-/
def secret
    (d : Draft)
    (e : Environment)
    (read : FileTree.TextReader) : Except Flaw Secret :=
  let found : Except Flaw String :=
    match e.text? secretVariable with
    | some s => .ok s
    | none => d.secretInFile read
  match found with
  | .error f => .error f
  | .ok s =>
      if s.isEmpty then .error .missingSecret else .ok ⟨s⟩

------------------------------------------------------------
-- Return Addresses
------------------------------------------------------------

/- The entries of a list with commas that are not blank. -/
def entries
    (s : String) : List String :=
  let trimmed := (Text.fields ',' s.toList).map Text.trimChars
  (trimmed.filter (!·.isEmpty)).map String.ofList

/- The return addresses: from the variable if it is set. -/
def redirects
    (d : Draft)
    (e : Environment) : List String :=
  match e.text? redirectsVariable with
  | none => d.provider.redirects
  | some s => entries s

/- A draft with other return addresses. -/
def withRedirects
    (d : Draft)
    (redirects : List String) : Draft :=
  { d with provider.redirects := redirects }

/- The settings of a draft without flaws. -/
def complete
    (d : Draft)
    (e : Environment)
    (read : FileTree.TextReader) : Except Flaw Settings :=
  match d.flaw? with
  | some f => .error f
  | none =>
      match d.secret e read with
      | .error f => .error f
      | .ok s => .ok ⟨d.withRedirects (d.redirects e), s⟩

end Draft

------------------------------------------------------------
-- Loading
------------------------------------------------------------

/- The settings that a text describes. -/
def ofText
    (e : Environment)
    (read : FileTree.TextReader)
    (s : String) : Except Fault Settings :=
  match Draft.ofText? s with
  | none => .error .document
  | some d =>
      match d.complete e read with
      | .error f => .error (.flaw f.message)
      | .ok settings => .ok settings

/- The settings in the file at a path. -/
def load
    (e : Environment)
    (read : FileTree.TextReader)
    (path : String) : Except Fault Settings :=
  match read path with
  | .error f => .error (.unreadable f.message)
  | .ok s => ofText e read s

/- The variable with the path of the settings. -/
def pathVariable : String :=
  "CONFIG_PATH"

/- The path of the settings if none is given. -/
def usualPath : String :=
  "auth-gateway.toml"

/- The path given, or that in the variable, or the usual. -/
def choosePath
    (given : Option String)
    (e : Environment) : String :=
  (given <|> e.text? pathVariable).getD usualPath

end Settings

end Gatehouse
