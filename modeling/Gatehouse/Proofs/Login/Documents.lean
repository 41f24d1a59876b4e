import Gatehouse.Login.Standard
import Gatehouse.Proofs.Json.Reading

/-
  What the documents of a provider tell.

  A document grants a token if it holds one and no error.
  It describes a user by a profile; the name of the user is
  the id of the profile or else its subject, and is never
  empty.  An item of a list tells an organization or a team.

  Key definitions include:
    * `Login.Grants`
    * `Login.HoldsId`
    * `Login.Describes`
    * `Login.Profile.IsNamed`
    * `Login.IsOrganization`
    * `Login.IsTeam`

  Main results include:
    * `Login.grants_iff`
    * `Login.describes_iff`
    * `Login.Profile.isNamed_iff`
    * `Login.Profile.IsNamed.ne_empty`
    * `Login.organization?_eq_some_iff`
    * `Login.team?_eq_some_iff`
-/

namespace Gatehouse

namespace Login

open Json.Node (IsAbsent HoldsText optional text?)
open Reading (orDefault)

------------------------------------------------------------
-- Grants
------------------------------------------------------------

/- Does a document grant a token, without an error? -/
def Grants
    (document : Json.Node)
    (token : String) : Prop :=
  ∃ error description details,
    document.fields?
          ["access_token", "error", "error_description"] =
        some [some (.text (some token)), error,
          description] ∧
      token ≠ "" ∧ IsAbsent error ∧
        HoldsText description details

/- A grant is read field by field. -/
theorem Grant.ofNode?_eq_some_iff
    {document : Json.Node}
    {g : Grant} :
    Grant.ofNode? document = some g ↔
      ∃ token error description,
        document.fields?
              ["access_token", "error",
                "error_description"] =
            some [token, error, description] ∧
          orDefault text? "" token = some g.token ∧
            HoldsText error g.error ∧
              HoldsText description g.description := by
  rcases g with ⟨t, e, d⟩
  simp only [← Json.Node.optional_text?_eq_some_iff]
  unfold Grant.ofNode?
  split
  · rename_i token error description hFields
    simp [hFields, Option.bind_eq_some_iff]
  · rename_i hOther
    constructor
    · intro hNone
      cases hNone
    · rintro ⟨token, error, description, hFields, _⟩
      exact absurd hFields (hOther token error description)

/- A token is had of a grant without an error. -/
theorem tokenOfGrant_eq_ok_iff
    {g : Grant}
    {token : String} :
    Endpoints.tokenOfGrant g = .ok token ↔
      g.error = none ∧ g.token = token ∧ token ≠ "" := by
  unfold Endpoints.tokenOfGrant
  cases g.error with
  | some error => simp
  | none =>
      dsimp only
      split
      · rename_i hEmpty
        have hEmpty : g.token = "" :=
          String.isEmpty_iff.mp hEmpty
        constructor
        · intro hOk
          cases hOk
        · rintro ⟨_, rfl, hFilled⟩
          exact absurd hEmpty hFilled
      · rename_i hFilled
        have hFilled : g.token ≠ "" :=
          fun h => hFilled (String.isEmpty_iff.mpr h)
        constructor
        · intro hOk
          cases hOk
          exact ⟨rfl, rfl, hFilled⟩
        · rintro ⟨_, rfl, _⟩
          rfl

/- What grants a token is a grant with it. -/
theorem grants_iff
    {document : Json.Node}
    {token : String} :
    Grants document token ↔
      ∃ g, Grant.ofNode? document = some g ∧
        Endpoints.tokenOfGrant g = .ok token := by
  simp only [Grant.ofNode?_eq_some_iff,
    tokenOfGrant_eq_ok_iff]
  constructor
  · rintro ⟨error, description, details, hFields, hFilled,
      hAbsent, hDetails⟩
    exact
      ⟨⟨token, none, details⟩,
        ⟨_, error, description, hFields, rfl,
          .absent hAbsent, hDetails⟩,
        rfl, rfl, hFilled⟩
  · rintro ⟨g, ⟨field, error, description, hFields, hToken,
      hError, hDetails⟩, hNone, rfl, hFilled⟩
    rw [hNone] at hError
    cases hError with
    | absent hAbsent =>
        -- A token that is left out would be empty.
        cases field with
        | none =>
            exact
              absurd (Option.some.inj hToken).symm hFilled
        | some n =>
            have hText : n = .text (some g.token) :=
              Json.Node.text?_eq_some_iff.mp hToken
            rw [hText] at hFields
            exact
              ⟨error, description, g.description, hFields,
                hFilled, hAbsent, hDetails⟩

------------------------------------------------------------
-- Profiles
------------------------------------------------------------

/- What a field holds that may be an id. -/
inductive HoldsId :
    Option Json.Node → Option Profile.Id → Prop where
  | absent {field : Option Json.Node}
      (hAbsent : IsAbsent field) :
      HoldsId field none
  | text (s : String) :
      HoldsId (some (.text (some s))) (some (.text s))
  | number {m : Json.Numeral} {v : Json.Number}
      (hValue : m.value? = some v) :
      HoldsId (some (.number m)) (some (.number v))
  | boolean (b : Bool) :
      HoldsId (some (.boolean b)) (some .other)
  | array {items : List Json.Node}
      (hSound :
        (Json.Node.array items).isSound Profile.idDepth =
          true) :
      HoldsId (some (.array items)) (some .other)
  | object {members : List (Option String × Json.Node)}
      (hSound :
        (Json.Node.object members).isSound
            Profile.idDepth = true) :
      HoldsId (some (.object members)) (some .other)

/- An optional id is read from what holds it. -/
theorem optional_idOfNode?_eq_some_iff
    {field : Option Json.Node}
    {id : Option Profile.Id} :
    optional Profile.Id.ofNode? field = some id ↔
      HoldsId field id := by
  rw [Json.Node.optional_eq_some_iff]
  constructor
  · rintro (⟨hAbsent, rfl⟩ | ⟨n, i, rfl, hNotNull, hId, rfl⟩)
    · exact .absent hAbsent
    · unfold Profile.Id.ofNode? at hId
      split at hId
      · rename_i hSound
        cases n with
        | null => exact absurd rfl hNotNull
        | boolean b =>
            cases hId
            exact .boolean b
        | number m =>
            rcases Option.map_eq_some_iff.mp hId with
              ⟨v, hValue, rfl⟩
            exact .number hValue
        | text t =>
            cases t with
            | none => cases hSound
            | some s =>
                cases hId
                exact .text s
        | array items =>
            cases hId
            exact .array hSound
        | object members =>
            cases hId
            exact .object hSound
      · cases hId
  · intro hHolds
    cases hHolds with
    | absent hAbsent => exact .inl ⟨hAbsent, rfl⟩
    | text s => exact .inr ⟨_, _, rfl, by simp, rfl, rfl⟩
    | number hValue =>
        refine .inr ⟨_, _, rfl, by simp, ?_, rfl⟩
        simp [Profile.Id.ofNode?, Json.Node.isSound, hValue]
    | boolean b =>
        exact .inr ⟨_, _, rfl, by simp, rfl, rfl⟩
    | array hSound =>
        refine .inr ⟨_, _, rfl, by simp, ?_, rfl⟩
        simp [Profile.Id.ofNode?, hSound]
    | object hSound =>
        refine .inr ⟨_, _, rfl, by simp, ?_, rfl⟩
        simp [Profile.Id.ofNode?, hSound]

/- Does a document describe someone by a profile? -/
def Describes
    (document : Json.Node)
    (p : Profile) : Prop :=
  ∃ id subject login preferred name,
    document.fields?
          ["id", "sub", "login", "preferred_username",
            "name"] =
        some [id, subject, login, preferred, name] ∧
      HoldsId id p.id ∧ HoldsText subject p.subject ∧
        HoldsText login p.login ∧
          HoldsText preferred p.preferred ∧
            HoldsText name p.name

/- A profile is read field by field. -/
theorem describes_iff
    {document : Json.Node}
    {p : Profile} :
    Describes document p ↔
      Profile.ofNode? document = some p := by
  rcases p with ⟨i, s, l, q, n⟩
  unfold Describes
  simp only [← Json.Node.optional_text?_eq_some_iff,
    ← optional_idOfNode?_eq_some_iff]
  unfold Profile.ofNode?
  split
  · rename_i id subject login preferred name hFields
    simp [hFields, Option.bind_eq_some_iff]
  · rename_i hOther
    constructor
    · rintro ⟨id, subject, login, preferred, name, hFields,
        _⟩
      exact
        absurd hFields
          (hOther id subject login preferred name)
    · intro hNone
      cases hNone

namespace Profile

/-
  The name of a user: an id that is a text with a character
  at least, or a number as it is written; the subject if
  the id is neither.
-/
inductive IsNamed
    (p : Profile) :
    String → Prop where
  | text {s : String}
      (hId : p.id = some (.text s))
      (hFilled : s ≠ "") :
      IsNamed p s
  | number {v : Json.Number}
      (hId : p.id = some (.number v)) :
      IsNamed p v.write
  | subject {s : String}
      (hNoText : ∀ t, p.id = some (.text t) → t = "")
      (hNoNumber : ∀ v, p.id ≠ some (.number v))
      (hSubject : p.subject = some s)
      (hFilled : s ≠ "") :
      IsNamed p s

/- A text is filled if it is not empty. -/
theorem filled?_eq_some_iff
    {s t : String} :
    filled? s = some t ↔ s = t ∧ t ≠ "" := by
  constructor
  · intro hText
    refine ⟨?_, filled?_ne_empty s t hText⟩
    unfold filled? at hText
    split at hText
    · cases hText
    · exact Option.some.inj hText
  · rintro ⟨rfl, hFilled⟩
    unfold filled?
    rw [if_neg]
    exact fun h => hFilled (String.isEmpty_iff.mp h)

/- An id that is neither text nor number is not used. -/
theorem usable?_of_unusable
    {p : Profile}
    (hNoText : ∀ t, p.id = some (.text t) → t = "")
    (hNoNumber : ∀ v, p.id ≠ some (.number v)) :
    p.id.bind Id.usable? = none := by
  cases hId : p.id with
  | none => rfl
  | some i =>
      cases i with
      | text t =>
          rw [hNoText t hId]
          rfl
      | number v => exact absurd hId (hNoNumber v)
      | other => rfl

/- The name is what is taken as the id of the user. -/
theorem isNamed_iff
    {p : Profile}
    {name : String} :
    p.IsNamed name ↔ p.userId? = some name := by
  constructor
  · intro hNamed
    unfold userId?
    cases hNamed with
    | text hId hFilled =>
        rw [hId, Option.bind_some, Id.usable?,
          filled?_eq_some_iff.mpr ⟨rfl, hFilled⟩]
        rfl
    | number hId =>
        rw [hId]
        rfl
    | subject hNoText hNoNumber hSubject hFilled =>
        rw [usable?_of_unusable hNoText hNoNumber, hSubject,
          Option.bind_some]
        exact filled?_eq_some_iff.mpr ⟨rfl, hFilled⟩
  · intro hName
    unfold userId? at hName
    cases hUsable : p.id.bind Id.usable? with
    | some s =>
        rw [hUsable] at hName
        cases hName
        rcases Option.bind_eq_some_iff.mp hUsable with
          ⟨i, hId, hText⟩
        cases i with
        | text t =>
            rcases filled?_eq_some_iff.mp hText with
              ⟨rfl, hFilled⟩
            exact .text hId hFilled
        | number v =>
            cases hText
            exact .number hId
        | other => cases hText
    | none =>
        rw [hUsable] at hName
        replace hName : p.subject.bind filled? = some name :=
          hName
        rcases Option.bind_eq_some_iff.mp hName with
          ⟨s, hSubject, hText⟩
        rcases filled?_eq_some_iff.mp hText with
          ⟨rfl, hFilled⟩
        refine .subject ?_ ?_ hSubject hFilled
        · intro t hId
          by_contra hNotEmpty
          rw [hId, Option.bind_some, Id.usable?,
            filled?_eq_some_iff.mpr ⟨rfl, hNotEmpty⟩]
            at hUsable
          cases hUsable
        · intro v hId
          rw [hId] at hUsable
          cases hUsable

/- No user has an empty name. -/
theorem IsNamed.ne_empty
    {p : Profile}
    {name : String}
    (h : p.IsNamed name) :
    name ≠ "" := by
  cases h with
  | text _ hFilled => exact hFilled
  | number _ => exact Json.Number.write_ne_empty _
  | subject _ _ _ hFilled => exact hFilled

end Profile

------------------------------------------------------------
-- Memberships
------------------------------------------------------------

/- Does an item tell the login of an organization? -/
def IsOrganization
    (item : Json.Node)
    (login : String) : Prop :=
  item.fields? ["login"] =
    some [some (.text (some login))]

/- Does an item tell a team, after its organization? -/
def IsTeam
    (item : Json.Node)
    (name : String) : Prop :=
  ∃ slug owner login,
    item.fields? ["slug", "organization"] =
        some [some (.text (some slug)), some owner] ∧
      IsOrganization owner login ∧
        name = login ++ "/" ++ slug

/- An organization is read from an item that tells it. -/
theorem organization?_eq_some_iff
    (item : Json.Node)
    (login : String) :
    organization? item = some login ↔
      IsOrganization item login := by
  unfold organization? IsOrganization
  split
  · rename_i field hFields
    simp [hFields, Reading.required_eq_some_iff,
      Json.Node.text?_eq_some_iff]
  · rename_i hOther
    constructor
    · intro hNone
      cases hNone
    · intro hFields
      exact absurd hFields (hOther _)

/- A team is read from an item that tells it. -/
theorem team?_eq_some_iff
    (item : Json.Node)
    (name : String) :
    team? item = some name ↔ IsTeam item name := by
  unfold team? IsTeam
  simp only [← organization?_eq_some_iff]
  split
  · rename_i slug owner hFields
    simp only [hFields, Option.bind_eq_bind,
      Option.bind_eq_some_iff, Option.some.injEq,
      Reading.required_eq_some_iff,
      Json.Node.text?_eq_some_iff, List.cons.injEq,
      and_true]
    constructor
    · rintro ⟨s, ⟨_, rfl, rfl⟩, login, ⟨n, rfl, hLogin⟩,
        rfl⟩
      exact ⟨s, n, login, ⟨rfl, rfl⟩, hLogin, rfl⟩
    · rintro ⟨s, n, login, ⟨rfl, rfl⟩, hLogin, rfl⟩
      exact
        ⟨s, ⟨_, rfl, rfl⟩, login, ⟨n, rfl, hLogin⟩, rfl⟩
  · rename_i hOther
    constructor
    · intro hNone
      cases hNone
    · rintro ⟨slug, owner, login, hFields, _⟩
      exact absurd hFields (hOther _ _)

end Login

end Gatehouse
