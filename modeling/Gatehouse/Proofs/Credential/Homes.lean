import Gatehouse.Credential.Source
import Gatehouse.Proofs.Text.Pieces

/-
  Homes below their root.

  A path has parts, and its place is found by going along
  them, without a look at any file.  A path that is joined
  to another goes on from the parts of that one.  The id of
  a user is a name, so a home has one part more than its
  root, and the homes of two users are two places.

  Key definitions include:
    * `FilePath.Part`
    * `FilePath.parts`
    * `FilePath.place`
    * `FilePath.IsName`
    * `Home.Lies`

  Main results include:
    * `FilePath.parts_join`
    * `FilePath.place_join`
    * `Home.lies_of_isUserId`
    * `Home.homes_contained_and_apart`
-/

namespace Gatehouse

------------------------------------------------------------
-- Parts of Paths
------------------------------------------------------------

namespace FilePath

/- What a path leads along. -/
inductive Part where
  /- The directory that no other one holds. -/
  | root
  /- A single dot, where a path begins with one. -/
  | current
  /- Two dots. -/
  | parent
  | name (text : String)
  deriving DecidableEq, Repr

/- The part of a component; some components are none. -/
def Part.ofComponent?
    (component : String) : Option Part :=
  if component = "" ∨ component = "." then
    none
  else if component = ".." then
    some .parent
  else
    some (.name component)

/- The part that only stands at the beginning of a path. -/
def beginning
    (p : String) : List Part :=
  if isAbsolute p then
    [.root]
  else if (components p).head? = some "." then
    [.current]
  else
    []

/- The parts of a path. -/
def parts
    (p : String) : List Part :=
  beginning p ++
    (components p).filterMap Part.ofComponent?

/- Where a part leads to from a place. -/
def Part.follow
    (place : List Part) :
    Part → List Part
  | .root => [.root]
  | .current => place
  | .parent =>
      match place.getLast? with
      | some (.name _) => place.dropLast
      | some .root => place
      | _ => place ++ [.parent]
  | .name text => place ++ [.name text]

/- Where a path leads to, as far as its text tells. -/
def place
    (p : String) : List Part :=
  (parts p).foldl Part.follow []

/- Is a text the name of something in a directory? -/
structure IsName
    (text : String) : Prop where
  ne_empty : text ≠ ""
  ne_current : text ≠ "."
  ne_parent : text ≠ ".."
  chars : ∀ c ∈ text.toList, c ≠ '/' ∧ c.toNat ≠ 0

------------------------------------------------------------
-- Parts of Joined Paths
------------------------------------------------------------

/- A slash ends a component. -/
theorem components_append
    (a b : String) :
    components (a ++ "/" ++ b) =
      components a ++ components b := by
  unfold components
  have hSlash : "/".toList = ['/'] := rfl
  rw [String.toList_append, String.toList_append, hSlash,
    List.append_assoc, List.singleton_append,
    Text.fields_append, List.map_append]

/- A path has components. -/
theorem components_ne_nil
    (p : String) :
    components p ≠ [] := by
  unfold components
  rw [ne_eq, List.map_eq_nil_iff]
  exact Text.fields_ne_nil '/' p.toList

/- The first component ends with the first slash. -/
theorem head?_components_append
    (a b : String) :
    (components (a ++ "/" ++ b)).head? =
      (components a).head? := by
  rcases List.exists_cons_of_ne_nil (components_ne_nil a)
    with ⟨c, cs, hFirst⟩
  rw [components_append, hFirst]
  rfl

/- How a path begins is settled with its first slash. -/
theorem beginning_append
    (a b : String) :
    beginning (a ++ "/" ++ b) = beginning (a ++ "/") := by
  have hAbsolute :
      isAbsolute (a ++ "/" ++ b) = isAbsolute (a ++ "/") := by
    unfold isAbsolute
    cases hChars : a.toList <;> simp [hChars]
  have hFirst :
      (components (a ++ "/" ++ b)).head? =
        (components (a ++ "/")).head? := by
    have hNone := head?_components_append a ""
    rw [String.append_empty] at hNone
    rw [head?_components_append, hNone]
  unfold beginning
  rw [hAbsolute, hFirst]

/- The parts after a slash are those of the components. -/
theorem parts_append
    (a b : String) :
    parts (a ++ "/" ++ b) =
      parts (a ++ "/") ++
        (components b).filterMap Part.ofComponent? := by
  have hNone := components_append a ""
  rw [String.append_empty] at hNone
  unfold parts
  rw [beginning_append, components_append, hNone,
    List.filterMap_append, List.filterMap_append,
    ← List.append_assoc]
  simp [components, Text.fields, Part.ofComponent?]

/- A slash at the end of a path adds no part. -/
theorem parts_append_slash
    {a : String}
    (h : a ≠ "") :
    parts (a ++ "/") = parts a := by
  have hComponents := components_append a ""
  have hFirst := head?_components_append a ""
  rw [String.append_empty] at hComponents hFirst
  have hAbsolute : isAbsolute (a ++ "/") = isAbsolute a := by
    unfold isAbsolute
    cases hChars : a.toList with
    | nil => exact absurd (String.toList_eq_nil_iff.mp hChars) h
    | cons c cs => simp [hChars]
  unfold parts beginning
  rw [hAbsolute, hFirst, hComponents, List.filterMap_append]
  simp [components, Text.fields, Part.ofComponent?]

/- A joined path has the parts of both. -/
theorem parts_join
    {b : String}
    (h : beginning b = [])
    (a : String) :
    parts (join a b) = parts a ++ parts b := by
  have hRelative : isAbsolute b = false := by
    cases hAbsolute : isAbsolute b with
    | false => rfl
    | true => simp [beginning, hAbsolute] at h
  have hParts :
      parts b =
        (components b).filterMap Part.ofComponent? := by
    rw [parts, h, List.nil_append]
  unfold join
  rw [if_neg (Bool.eq_false_iff.mp hRelative), hParts]
  split
  next hBare =>
    rw [Bool.or_eq_true, String.isEmpty_iff,
      decide_eq_true_iff, List.getLast?_eq_some_iff] at hBare
    -- No slash is put in after nothing, and none after one.
    rcases hBare with rfl | ⟨before, hSlash⟩
    · rw [String.empty_append, hParts]
      simp [parts, beginning, isAbsolute, components,
        Text.fields, Part.ofComponent?]
    · have hText : a = String.ofList before ++ "/" := by
        rw [← String.toList_inj, hSlash]
        simp
      rw [hText, parts_append]
  next hBare =>
    rw [Bool.or_eq_true, String.isEmpty_iff, not_or] at hBare
    rw [parts_append, parts_append_slash hBare.1]

------------------------------------------------------------
-- Names
------------------------------------------------------------

/- A name is a component by itself. -/
theorem IsName.components_eq
    {text : String}
    (h : IsName text) :
    components text = [text] := by
  have hFields :
      Text.fields '/' text.toList = [text.toList] :=
    Text.fields_eq_singleton fun c hc => (h.chars c hc).1
  simp [components, hFields]

/- A path does not begin with a name. -/
theorem IsName.beginning_eq
    {text : String}
    (h : IsName text) :
    beginning text = [] := by
  have hRelative : isAbsolute text = false := by
    unfold isAbsolute
    rw [decide_eq_false_iff_not]
    intro hSlash
    have hIn := List.mem_of_head? hSlash
    exact (h.chars _ hIn).1 rfl
  simp [beginning, hRelative, h.components_eq, h.ne_current]

/- A name is a part by itself. -/
theorem IsName.parts_eq
    {text : String}
    (h : IsName text) :
    parts text = [.name text] := by
  simp [parts, h.beginning_eq, h.components_eq,
    Part.ofComponent?, h.ne_empty, h.ne_current,
    h.ne_parent]

/- From a place, names lead further down only. -/
theorem foldl_follow_of_names
    {ps : List Part}
    (h : ∀ p ∈ ps, ∃ text, p = .name text)
    (place : List Part) :
    ps.foldl Part.follow place = place ++ ps := by
  induction ps generalizing place with
  | nil => simp
  | cons p ps ih =>
      rcases List.forall_mem_cons.mp h with
        ⟨⟨text, rfl⟩, hRest⟩
      rw [List.foldl_cons, ih hRest]
      simp [Part.follow]

/- Names that are joined to a path lead down from it. -/
theorem place_join
    {b : String}
    (hBeginning : beginning b = [])
    (hNames : ∀ p ∈ parts b, ∃ text, p = .name text)
    (a : String) :
    place (join a b) = place a ++ parts b := by
  unfold place
  rw [parts_join hBeginning, List.foldl_append,
    foldl_follow_of_names hNames]

end FilePath

------------------------------------------------------------
-- Homes
------------------------------------------------------------

namespace Home

open FilePath (IsName parts place beginning)

variable {root user : String}

/- What an id must be. -/
theorem isUserId_iff
    (user : String) :
    isUserId user = true ↔
      user ≠ "" ∧ user ≠ "." ∧ user ≠ ".." ∧
        ∀ c ∈ user.toList, isAllowed c = true := by
  simp [isUserId, and_assoc]

/- No slash and no empty character stands in an id. -/
theorem ne_of_isAllowed
    {c : Char}
    (h : isAllowed c = true) :
    c ≠ '/' ∧ c.toNat ≠ 0 := by
  constructor
  · rintro rfl
    exact absurd h (by decide)
  · intro hZero
    have hChar : c = Char.ofNat 0 := by
      rw [← hZero, Char.ofNat_toNat]
    rw [hChar] at h
    exact absurd h (by decide)

/- An id is a name. -/
theorem isName_of_isUserId
    (h : isUserId user = true) :
    IsName user := by
  rcases (isUserId_iff user).mp h with
    ⟨hSome, hCurrent, hParent, hChars⟩
  exact
    ⟨hSome, hCurrent, hParent,
      fun c hc => ne_of_isAllowed (hChars c hc)⟩

/- The file with the credentials is two names further down. -/
theorem parts_relativeFile :
    beginning relativeFile = [] ∧
      parts relativeFile =
        [.name ".claude", .name ".credentials.json"] := by
  decide +kernel

/- The place of the file with the credentials in a home. -/
theorem place_credentialsFile
    (home : String) :
    place (credentialsFile home) =
      place home ++
        [.name ".claude", .name ".credentials.json"] := by
  unfold credentialsFile
  rw [FilePath.place_join parts_relativeFile.1,
    parts_relativeFile.2]
  rw [parts_relativeFile.2]
  simp

/-
  Does a home lie below its root, by the id of the user
  alone, and the file with the credentials in it?
-/
structure Lies
    (root user home : String) : Prop where
  name : IsName user
  parts : parts home = parts root ++ [.name user]
  place : place home = place root ++ [.name user]
  file :
    FilePath.place (credentialsFile home) =
      FilePath.place root ++
        [.name user, .name ".claude",
          .name ".credentials.json"]

/- A home lies below its root. -/
theorem lies_of_isUserId
    (root : String)
    (h : isUserId user = true) :
    Lies root user (FilePath.join root user) := by
  have hName := isName_of_isUserId h
  have hPlace :
      place (FilePath.join root user) =
        place root ++ [.name user] := by
    rw [FilePath.place_join hName.beginning_eq,
      hName.parts_eq]
    rw [hName.parts_eq]
    simp
  refine ⟨hName, ?_, hPlace, ?_⟩
  · rw [FilePath.parts_join hName.beginning_eq,
      hName.parts_eq]
  · rw [place_credentialsFile, hPlace]
    simp

/- Who has a home, and which. -/
theorem ofUser_eq_ok_iff
    (root user home : String) :
    ofUser root user = .ok home ↔
      isUserId user = true ∧
        home = FilePath.join root user := by
  unfold ofUser
  split
  next hId =>
    rw [Except.ok.injEq]
    exact ⟨fun h => ⟨hId, h.symm⟩, fun h => h.2.symm⟩
  next hId =>
    exact ⟨(nomatch ·), fun h => absurd h.1 hId⟩

/- The homes of two users, and their files, are apart. -/
theorem Lies.apart
    {user' home home' : String}
    (h : Lies root user home)
    (h' : Lies root user' home')
    (hNe : user ≠ user') :
    FilePath.place home ≠ FilePath.place home' ∧
      FilePath.place (credentialsFile home) ≠
        FilePath.place (credentialsFile home') := by
  rw [h.place, h'.place, h.file, h'.file]
  simp [hNe]

/-
  Every id is refused, or has a home that lies below the
  root by the id alone.  Who is refused is told by the id.
  The homes of two users are different texts and different
  places, and so are their files.  The empty id is refused,
  and the root plays no part in the file that is read for
  it.
-/
theorem homes_contained_and_apart
    (f : Credentials.FileSource)
    (ownerHome : Option String) :
    (∀ user,
      (ofUser f.root user =
          .error
            (.home
              ("invalid user id " ++ Quoted.quote user))) ∨
        ∃ home,
          ofUser f.root user = .ok home ∧
            Lies f.root user home ∧
              f.path ownerHome user =
                .ok (credentialsFile home)) ∧
      (∀ user,
        (∃ home, ofUser f.root user = .ok home) ↔
          user ≠ "" ∧ user ≠ "." ∧ user ≠ ".." ∧
            ∀ c ∈ user.toList, isAllowed c = true) ∧
        (∀ user user' home home',
          ofUser f.root user = .ok home →
            ofUser f.root user' = .ok home' →
              user ≠ user' →
                home ≠ home' ∧
                  credentialsFile home ≠
                    credentialsFile home' ∧
                    place home ≠ place home' ∧
                      place (credentialsFile home) ≠
                        place (credentialsFile home')) ∧
          (∃ reason,
            ofUser f.root "" = .error (.home reason)) ∧
            ∀ root',
              Credentials.FileSource.path
                  { f with root := root' } ownerHome "" =
                f.path ownerHome "" := by
  refine ⟨?_, ?_, ?_, ?_, ?_⟩
  · intro user
    cases hId : isUserId user with
    | false => exact Or.inl (by simp [ofUser, hId])
    | true =>
        have hHome :=
          (ofUser_eq_ok_iff f.root user _).mpr ⟨hId, rfl⟩
        have hLies := lies_of_isUserId f.root hId
        refine Or.inr ⟨_, hHome, hLies, ?_⟩
        have hSome : user.isEmpty = false := by
          simpa using hLies.name.ne_empty
        simp [Credentials.FileSource.path, hSome, hHome,
          Except.map]
  · intro user
    simp only [ofUser_eq_ok_iff, exists_and_left,
      exists_eq, and_true, isUserId_iff]
  · intro user user' home home' hHome hHome' hNe
    rw [ofUser_eq_ok_iff] at hHome hHome'
    rcases hHome with ⟨hId, rfl⟩
    rcases hHome' with ⟨hId', rfl⟩
    have hApart :=
      (lies_of_isUserId f.root hId).apart
        (lies_of_isUserId f.root hId') hNe
    exact
      ⟨ne_of_apply_ne place hApart.1,
        ne_of_apply_ne place hApart.2, hApart⟩
  · exact ⟨_, rfl⟩
  · intro root'
    rfl

/-
  Three dots are a name, below a root that goes up and down
  itself, and two dots are refused.
-/
theorem ofUser_dots :
    ofUser "a/../homes/" "..." = .ok "a/../homes/..." ∧
      place (credentialsFile "a/../homes/...") =
        [.name "homes", .name "...", .name ".claude",
          .name ".credentials.json"] ∧
        ofUser "a/../homes/" ".." =
          .error
            (.home
              ("invalid user id " ++ Quoted.quote "..")) := by
  have hAll :=
    homes_contained_and_apart ⟨"a/../homes/", none⟩ none
  have hHome :
      ofUser "a/../homes/" "..." =
        .ok "a/../homes/..." := by
    decide +kernel
  have hRoot : place "a/../homes/" = [.name "homes"] := by
    decide +kernel
  refine ⟨hHome, ?_, ?_⟩
  · rcases hAll.1 "..." with
      hRefused | ⟨home, hOk, hLies, _⟩
    · rw [hHome] at hRefused
      cases hRefused
    · rw [hHome] at hOk
      cases hOk
      rw [hLies.file, hRoot]
      rfl
  · rcases hAll.1 ".." with hRefused | ⟨home, hOk, _⟩
    · exact hRefused
    · have hId := (hAll.2.1 "..").mp ⟨home, hOk⟩
      exact absurd rfl hId.2.2.1

end Home

end Gatehouse
