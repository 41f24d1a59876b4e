import Gatehouse.Credential.Document
import Gatehouse.Credential.Home
import Gatehouse.Environment
import Gatehouse.FileTree

/-
  Sources of credentials.

  A source finds credentials, has none, or fails.  A chain
  asks its sources in order; the first that finds
  credentials or fails decides, so that a damaged file is
  never hidden by what comes after it.

  Key definitions include:
    * `Credentials.Surroundings`
    * `Credentials.FileSource`
    * `Credentials.VariableSource`
    * `Credentials.Source`
    * `Credentials.Source.load`
    * `Credentials.firstDecisive`
-/

namespace Gatehouse

namespace Credentials

/- What the sources look at. -/
structure Surroundings where
  files : FileTree.Reader
  environment : Environment
  /- The home of the owner of the process. -/
  ownerHome : Option String

/- What a source says. -/
abbrev Finding :=
  Except Fault (Option Credentials)

------------------------------------------------------------
-- Files
------------------------------------------------------------

/- Files of credentials in the homes below a root. -/
structure FileSource where
  root : String
  /- The home for the empty user id. -/
  defaultHome : Option String
  deriving DecidableEq, Repr

namespace FileSource

/- The file for a user. -/
def path
    (f : FileSource)
    (ownerHome : Option String)
    (user : String) : Except Fault String :=
  if user.isEmpty then
    match f.defaultHome <|> ownerHome with
    | some home => .ok (Home.credentialsFile home)
    | none =>
        .error (.home "no home directory for current user")
  else
    (Home.ofUser f.root user).map Home.credentialsFile

/- The credentials in the file for a user. -/
def load
    (f : FileSource)
    (s : Surroundings)
    (user : String) : Finding :=
  match f.path s.ownerHome user with
  | .error e => .error e
  | .ok path =>
      match s.files.readText path with
      | .error .missing => .ok none
      | .error e =>
          .error (.io ("reading credentials file " ++ path ++
            ": " ++ e.message))
      | .ok text =>
          match ofDocument text with
          | some found => .ok found
          | none =>
              .error (.parse
                ("parsing credentials file " ++ path))

end FileSource

------------------------------------------------------------
-- Variables
------------------------------------------------------------

/- The names of the variables that hold credentials. -/
structure VariableSource where
  access : String
  refresh : String
  expires : String
  deriving DecidableEq, Repr

namespace VariableSource

/- The usual names. -/
def usual : VariableSource :=
  ⟨"CLAUDE_ACCESS_TOKEN", "CLAUDE_REFRESH_TOKEN",
   "CLAUDE_TOKEN_EXPIRES_AT"⟩

/- The credentials in the variables, whoever the user. -/
def load
    (v : VariableSource)
    (e : Environment) : Option Credentials :=
  let access := e.textOrEmpty v.access
  if access.isEmpty then
    none
  else
    some (plain access (e.textOrEmpty v.refresh)
      (e.textOrEmpty v.expires))

end VariableSource

------------------------------------------------------------
-- Chains
------------------------------------------------------------

/-
  A source: files, variables, one with a settled answer, or
  a chain of sources.
-/
inductive Source where
  | files (f : FileSource)
  | environment (v : VariableSource)
  | settled (name : String) (answer : Finding)
  | chain (sources : List Source)

/- The first finding that is not empty-handed. -/
def firstDecisive :
    List Finding → Finding
  | [] => .ok none
  | .ok none :: rest => firstDecisive rest
  | found :: _ => found

namespace Source

/- The name of a source. -/
def name :
    Source → String
  | .files _ => "file"
  | .environment _ => "env"
  | .settled n _ => n
  | .chain _ => "chain"

mutual

/- What a source says about a user. -/
def load
    (s : Surroundings)
    (user : String) :
    Source → Finding
  | .files f => f.load s user
  | .environment v => .ok (v.load s.environment)
  | .settled _ answer => answer
  | .chain sources => loadFirst s user sources

/- What the first decisive source says about a user. -/
def loadFirst
    (s : Surroundings)
    (user : String) :
    List Source → Finding
  | [] => .ok none
  | source :: sources =>
      match load s user source with
      | .ok none => loadFirst s user sources
      | found => found

end

mutual

/- The sources of a chain with all inner chains opened. -/
def flatten :
    Source → List Source
  | .chain sources => flattenAll sources
  | source => [source]

/- The sources of a list with all chains opened. -/
def flattenAll :
    List Source → List Source
  | [] => []
  | source :: sources =>
      flatten source ++ flattenAll sources

end

end Source

end Credentials

end Gatehouse
