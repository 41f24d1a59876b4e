import Gatehouse.Credential.Basic
import Gatehouse.Json.Reader

/-
  Documents that hold credentials.

  A document has one section with the tokens; what else it
  holds does not count.  Without the section, or with an
  empty access token, there are no credentials in it.

  Key definitions include:
    * `Credentials.Section`
    * `Credentials.Section.ofNode?`
    * `Credentials.ofDocument`
-/

namespace Gatehouse

namespace Credentials

/- What the section of a document says. -/
structure Section where
  accessToken : String
  refreshToken : String
  expiresAt : Option Nat
  deriving DecidableEq, Repr

namespace Section

/- Read a section. -/
def ofNode?
    (n : Json.Node) : Option Section :=
  match n.fields?
      ["accessToken", "refreshToken", "expiresAt"] with
  | some [a, r, e] => do
      let access ← Reading.orDefault Json.Node.text? "" a
      let refresh ← Reading.orDefault Json.Node.text? "" r
      let expires ← Json.Node.optional Json.Node.word64? e
      pure ⟨access, refresh, expires⟩
  | _ => none

/- Read the section of a whole document. -/
def ofRoot?
    (n : Json.Node) : Option (Option Section) :=
  match n.fields? [sectionName] with
  | some [s] => Json.Node.optional ofNode? s
  | _ => none

end Section

/-
  The credentials in a document.  The outer option is none
  if the text is no such document, the inner one if there
  are no credentials in it.
-/
def ofDocument
    (text : String) : Option (Option Credentials) := do
  let root ← Json.ofText? text
  let found ← Section.ofRoot? root
  match found with
  | none => pure none
  | some s =>
      if s.accessToken.isEmpty then
        pure none
      else
        let expires :=
          match s.expiresAt with
          | none => ""
          | some n => Decimal.text n
        pure (some
          { plain s.accessToken s.refreshToken expires with
            document := some ⟨text⟩ })

end Credentials

end Gatehouse
