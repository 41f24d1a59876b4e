import Gatehouse.Json.Value
import Gatehouse.Secret
import Gatehouse.Text.Blank
import Gatehouse.Text.Quoted

/-
  Credentials of a user.

  The tokens are secrets.  The expiry is kept as the text
  that the source gave.  If the source was a document, its
  text is kept too, so that it can be written back as it
  was.

  Key definitions include:
    * `Credentials`
    * `Credentials.expiresAtMillis`
    * `Credentials.toJson`
    * `Credentials.describe`
    * `Credentials.Fault`
-/

namespace Gatehouse

/- Tokens with an expiry and the document they came from. -/
structure Credentials where
  accessToken : Secret
  refreshToken : Secret
  expiresAt : String
  document : Option Secret
  deriving DecidableEq

namespace Credentials

/- Credentials that came from no document. -/
def plain
    (access refresh expires : String) : Credentials :=
  ⟨⟨access⟩, ⟨refresh⟩, expires, none⟩

/- The expiry in milliseconds, if the text is a number. -/
def expiresAtMillis
    (c : Credentials) : Option Nat :=
  Decimal.word64? (Text.trimChars c.expiresAt.toList)

/- The members of the section that holds the tokens. -/
def sectionMembers
    (c : Credentials) : List (String × Json.Value) :=
  let expiry :=
    match c.expiresAtMillis with
    | none => []
    | some n => [("expiresAt", Json.Value.natural n)]
  ("accessToken", .text c.accessToken.reveal) :: expiry ++
    [("refreshToken", .text c.refreshToken.reveal)]

/- The name of the section that holds the tokens. -/
def sectionName : String :=
  "claudeAiOauth"

/-
  The document of the credentials: the one they came from,
  or one with a single section.
-/
def toJson
    (c : Credentials) : String :=
  match c.document with
  | some d => d.reveal
  | none =>
      (Json.Value.object
        [(sectionName, .object c.sectionMembers)]).write

/- The credentials in print, without their secrets. -/
def describe
    (c : Credentials) : String :=
  let document :=
    match c.document with
    | none => "None"
    | some d => "Some(" ++ d.shown ++ ")"
  "ClaudeCredentials \x7b access_token: " ++
    c.accessToken.shown ++ ", refresh_token: " ++
    c.refreshToken.shown ++ ", expires_at: " ++
    Quoted.quote c.expiresAt ++ ", raw_json: " ++
    document ++ " \x7d"

------------------------------------------------------------
-- Faults
------------------------------------------------------------

/- Why a source that is present cannot be used. -/
inductive Fault where
  | io (reason : String)
  | parse (reason : String)
  | home (reason : String)
  deriving DecidableEq, Repr

/- The text of a fault. -/
def Fault.message :
    Fault → String
  | .io r => "I/O error: " ++ r
  | .parse r => "credential parse error: " ++ r
  | .home r => "home directory unavailable: " ++ r

end Credentials

end Gatehouse
