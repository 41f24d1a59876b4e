import Gatehouse.Json.Node
import Gatehouse.Json.Number
import Gatehouse.Session.Basic

/-
  What a provider tells of a user.

  The answer to a code holds a token or an error.  A profile
  names the user by an id, or else by a subject; what it
  leaves out is filled with what is known.

  Key definitions include:
    * `Login.Grant`
    * `Login.Profile`
    * `Login.Profile.userId?`
    * `Login.organization?`
    * `Login.team?`
-/

namespace Gatehouse

namespace Login

open Json.Node (text? optional)
open Reading (orDefault required)

------------------------------------------------------------
-- Grants
------------------------------------------------------------

/- The answer to a code. -/
structure Grant where
  token : String
  error : Option String
  description : Option String
  deriving DecidableEq, Repr

/- The grant that a document describes. -/
def Grant.ofNode?
    (n : Json.Node) : Option Grant :=
  match n.fields?
      ["access_token", "error", "error_description"] with
  | some [token, error, description] => do
      let token ← orDefault text? "" token
      let error ← optional text? error
      let description ← optional text? description
      some ⟨token, error, description⟩
  | _ => none

------------------------------------------------------------
-- Profiles
------------------------------------------------------------

/- What an id can be. -/
inductive Profile.Id where
  | text (s : String)
  | number (n : Json.Number)
  /- A value that names nobody. -/
  | other

/- What a provider knows about a user. -/
structure Profile where
  id : Option Profile.Id
  subject : Option String
  login : Option String
  preferred : Option String
  name : Option String

namespace Profile

/- How deep a value that is an id may be. -/
def idDepth : Nat :=
  126

/- The id that a value describes, if it is a sound value. -/
def Id.ofNode?
    (n : Json.Node) : Option Id :=
  if n.isSound idDepth then
    match n with
    | .text (some s) => some (.text s)
    | .number m => m.value?.map .number
    | _ => some .other
  else
    none

/- The profile that a document describes. -/
def ofNode?
    (n : Json.Node) : Option Profile :=
  match n.fields?
      ["id", "sub", "login", "preferred_username",
       "name"] with
  | some [id, subject, login, preferred, name] => do
      let id ← optional Id.ofNode? id
      let subject ← optional text? subject
      let login ← optional text? login
      let preferred ← optional text? preferred
      let name ← optional text? name
      some ⟨id, subject, login, preferred, name⟩
  | _ => none

/- A text that is not empty. -/
def filled?
    (s : String) : Option String :=
  if s.isEmpty then none else some s

/- The text of an id that names someone. -/
def Id.usable? :
    Id → Option String
  | .text s => filled? s
  | .number n => some n.write
  | .other => none

/- The name of the user for the gateway. -/
def userId?
    (p : Profile) : Option String :=
  p.id.bind Id.usable? <|> p.subject.bind filled?

/- The login name; the id where none is given. -/
def loginOr
    (p : Profile)
    (userId : String) : String :=
  (p.login <|> p.preferred).getD userId

/- The user of a profile, with an id and memberships. -/
def toUser
    (p : Profile)
    (userId token : String)
    (orgs teams : List String) : User :=
  let login := p.loginOr userId
  { id := userId
    login := login
    name := p.name.getD login
    providerToken := ⟨token⟩
    orgs := orgs
    teams := teams }

/- An id for the gateway is never empty text in a profile. -/
theorem filled?_ne_empty
    (s t : String)
    (h : filled? s = some t) :
    t ≠ "" := by
  unfold filled? at h
  split at h
  · simp at h
  · rename_i hs
    simp only [Option.some.injEq] at h
    subst h
    intro hc
    simp [hc] at hs

end Profile

------------------------------------------------------------
-- Memberships
------------------------------------------------------------

/- The name of an organization. -/
def organization?
    (n : Json.Node) : Option String :=
  match n.fields? ["login"] with
  | some [login] => required text? login
  | _ => none

/- The name of a team, after that of its organization. -/
def team?
    (n : Json.Node) : Option String :=
  match n.fields? ["slug", "organization"] with
  | some [slug, organization] => do
      let slug ← required text? slug
      let organization ← required organization? organization
      some (organization ++ "/" ++ slug)
  | _ => none

end Login

end Gatehouse
