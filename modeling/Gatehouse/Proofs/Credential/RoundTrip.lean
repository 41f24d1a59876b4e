import Gatehouse.Credential.Source
import Gatehouse.Proofs.Files
import Gatehouse.Proofs.Json.RoundTrip
import Gatehouse.Proofs.Text.Utf8

/-
  Credentials survive a file.

  What is written for credentials is read back as these
  credentials: their tokens as they are, and their expiry as
  the number that it stands for.  Credentials that came from
  a file are written as the octets of that file, and any
  file with these octets gives them again.

  Key definitions include:
    * `Credentials.writtenExpiry`
    * `Credentials.reloaded`
    * `Credentials.FileSource.Finds`

  Main results include:
    * `Credentials.ofDocument_toJson`
    * `Credentials.expiresAtMillis_reloaded`
    * `Credentials.toJson_of_ofDocument`
    * `Credentials.FileSource.finds_put`
    * `Credentials.FileSource.load_written`
-/

namespace Gatehouse

namespace Credentials

------------------------------------------------------------
-- Documents
------------------------------------------------------------

/- The expiry that is read from what is written. -/
def writtenExpiry
    (c : Credentials) : String :=
  match c.expiresAtMillis with
  | none => ""
  | some n => Decimal.text n

/- The credentials that are read from what is written. -/
def reloaded
    (c : Credentials) : Credentials :=
  ⟨c.accessToken, c.refreshToken, c.writtenExpiry,
    some ⟨c.toJson⟩⟩

/- The number of an expiry fits a word. -/
theorem expiresAtMillis_le
    {c : Credentials}
    {n : Nat}
    (h : c.expiresAtMillis = some n) :
    n ≤ Decimal.greatestWord64 :=
  Decimal.le_of_word64? h

/- The number of an expiry is kept. -/
theorem expiresAtMillis_reloaded
    (c : Credentials) :
    c.reloaded.expiresAtMillis = c.expiresAtMillis := by
  change
    Decimal.word64? (Text.trimChars c.writtenExpiry.toList) =
      c.expiresAtMillis
  cases hMillis : c.expiresAtMillis with
  | none =>
      simp only [writtenExpiry, hMillis]
      rfl
  | some n =>
      simp only [writtenExpiry, hMillis, Decimal.text,
        String.toList_ofList, Decimal.trimChars_digits]
      exact Decimal.word64?_digits (expiresAtMillis_le hMillis)

/- The section that is read from what is written. -/
theorem ofNode?_sectionMembers
    (c : Credentials) :
    Section.ofNode?
        (Json.Value.object c.sectionMembers).node =
      some
        ⟨c.accessToken.reveal, c.refreshToken.reveal,
          c.expiresAtMillis⟩ := by
  cases hMillis : c.expiresAtMillis with
  | none =>
      simp [sectionMembers, hMillis, Section.ofNode?,
        Json.Value.node, Json.Value.memberNodes,
        Json.Node.fields?, Json.Node.field?,
        Json.Node.named, Reading.all?,
        Reading.orDefault, Json.Node.optional,
        Json.Node.text?]
  | some n =>
      have hWord :=
        Decimal.bounded?_digits (expiresAtMillis_le hMillis)
      simp [sectionMembers, hMillis, Section.ofNode?,
        Json.Value.node, Json.Value.memberNodes,
        Json.Node.fields?, Json.Node.field?,
        Json.Node.named, Reading.all?,
        Reading.orDefault, Json.Node.optional,
        Json.Node.text?, Json.Node.word64?, hWord]

/-
  What is written for credentials that came from no document
  is read as these credentials, or as none if there is no
  access token.
-/
theorem ofDocument_toJson
    {c : Credentials}
    (hPlain : c.document = none) :
    ofDocument c.toJson =
      some
        (if c.accessToken.isEmpty then
          none
        else
          some c.reloaded) := by
  have hText :
      c.toJson =
        (Json.Value.object
          [(sectionName, .object c.sectionMembers)]).write := by
    simp only [toJson, hPlain]
  have hRoot :
      Section.ofRoot?
          (Json.Value.object
            [(sectionName, .object c.sectionMembers)]).node =
        some
          (some
            ⟨c.accessToken.reveal, c.refreshToken.reveal,
              c.expiresAtMillis⟩) := by
    have hSection := ofNode?_sectionMembers c
    simp only [Json.Value.node] at hSection
    simp [Section.ofRoot?, Json.Value.node,
      Json.Value.memberNodes, Json.Node.fields?,
      Json.Node.field?, Json.Node.named, Reading.all?,
      Json.Node.optional, hSection]
  rw [ofDocument, hText, Json.ofText?_write]
  simp only [Option.bind_eq_bind, Option.bind_some, hRoot,
    ← hText]
  by_cases hEmpty : c.accessToken.isEmpty = true
  · rw [if_pos hEmpty]
    exact if_pos hEmpty
  · rw [if_neg hEmpty]
    exact if_neg hEmpty

/- Credentials that were read keep the text of the document. -/
theorem document_of_ofDocument
    {text : String}
    {c : Credentials}
    (h : ofDocument text = some (some c)) :
    c.document = some ⟨text⟩ := by
  unfold ofDocument at h
  simp only [Option.bind_eq_bind, Option.bind_eq_some_iff] at h
  rcases h with ⟨root, _, found, _, hFound⟩
  split at hFound
  next => cases hFound
  next s =>
    split at hFound
    next => cases hFound
    next =>
      cases hFound
      rfl

/- Credentials that were read are written as they came. -/
theorem toJson_of_ofDocument
    {text : String}
    {c : Credentials}
    (h : ofDocument text = some (some c)) :
    c.toJson = text := by
  rw [toJson, document_of_ofDocument h]

------------------------------------------------------------
-- Files
------------------------------------------------------------

namespace FileSource

/- Does the file for a user hold these octets? -/
def Finds
    (f : FileSource)
    (s : Surroundings)
    (user : String)
    (octets : List UInt8) : Prop :=
  ∃ path,
    f.path s.ownerHome user = .ok path ∧
      s.files path = .ok octets

/- The file for a user holds one list of octets. -/
theorem finds_unique
    {f : FileSource}
    {s : Surroundings}
    {user : String}
    {octets others : List UInt8}
    (h : f.Finds s user octets)
    (hOther : f.Finds s user others) :
    octets = others := by
  rcases h with ⟨path, hPath, hRead⟩
  rcases hOther with ⟨path', hPath', hRead'⟩
  rw [hPath] at hPath'
  cases hPath'
  rw [hRead] at hRead'
  cases hRead'
  rfl

/- What is put into the file for a user is found there. -/
theorem finds_put
    {f : FileSource}
    {user path : String}
    {ownerHome : Option String}
    {files : FileTree}
    (hPath : f.path ownerHome user = .ok path)
    (hFits : files.Fits path)
    (octets : List UInt8)
    (e : Environment) :
    f.Finds
      ⟨files.put path (.file octets), e, ownerHome⟩ user
      octets :=
  ⟨path, hPath, FileTree.read_put hFits octets⟩

/- A file with the octets of a text is read as the text. -/
theorem load_of_finds
    {f : FileSource}
    {s : Surroundings}
    {user text : String}
    {found : Option Credentials}
    (hFinds : f.Finds s user (Utf8.encode text))
    (hText : ofDocument text = some found) :
    f.load s user = .ok found := by
  rcases hFinds with ⟨path, hPath, hRead⟩
  have hReadText : s.files.readText path = .ok text := by
    simp only [FileTree.Reader.readText, hRead,
      FileTree.textOf, Utf8.decode?_encode]
  simp only [load, hPath, hReadText, hText]

/- What was read stands in the file, in octets. -/
theorem finds_of_load
    {f : FileSource}
    {s : Surroundings}
    {user : String}
    {c : Credentials}
    (h : f.load s user = .ok (some c)) :
    ∃ text,
      f.Finds s user (Utf8.encode text) ∧
        ofDocument text = some (some c) := by
  unfold load at h
  split at h
  next => cases h
  next path hPath =>
    split at h
    next => cases h
    next => cases h
    next text hReadText =>
      split at h
      next found hText =>
        cases h
        refine ⟨text, ⟨path, hPath, ?_⟩, hText⟩
        -- The octets are faultless, so they are those of
        -- the text.
        unfold FileTree.Reader.readText at hReadText
        split at hReadText
        next => cases hReadText
        next octets hRead =>
          unfold FileTree.textOf at hReadText
          split at hReadText
          next => cases hReadText
          next hDecoded =>
            cases hReadText
            rw [hRead, Utf8.encode_of_decode? hDecoded]
      next => cases h

/-
  Credentials without a document come back from the file
  that was written for them, with the number of their expiry,
  and without an access token none come back.  Credentials
  that came from a file are written as the octets of this
  file, and come back from any file that holds them.
-/
theorem load_written :
    (∀ (c : Credentials)
      (f : FileSource)
      (s : Surroundings)
      (user : String),
      c.document = none →
      f.Finds s user (Utf8.encode c.toJson) →
      (c.accessToken.reveal = "" →
        f.load s user = .ok none) ∧
      (c.accessToken.reveal ≠ "" →
        ∃ c',
          f.load s user = .ok (some c') ∧
          c'.accessToken = c.accessToken ∧
          c'.refreshToken = c.refreshToken ∧
          (∀ n,
            c.expiresAtMillis = some n →
            c'.expiresAt = Decimal.text n) ∧
          (c.expiresAtMillis = none →
            c'.expiresAt = "") ∧
          c'.expiresAtMillis = c.expiresAtMillis)) ∧
    (∀ (f : FileSource)
      (s : Surroundings)
      (user : String)
      (c : Credentials),
      f.load s user = .ok (some c) →
      f.Finds s user (Utf8.encode c.toJson) ∧
      ∀ (f' : FileSource)
        (s' : Surroundings)
        (user' : String),
        f'.Finds s' user' (Utf8.encode c.toJson) →
        f'.load s' user' = .ok (some c)) := by
  constructor
  · intro c f s user hPlain hFinds
    have hLoad :=
      load_of_finds hFinds (ofDocument_toJson hPlain)
    constructor
    · intro hEmpty
      rw [hLoad, Secret.isEmpty, hEmpty]
      rfl
    · intro hToken
      have hIsEmpty : ¬c.accessToken.isEmpty = true := by
        simpa [Secret.isEmpty] using hToken
      rw [if_neg hIsEmpty] at hLoad
      refine
        ⟨c.reloaded, hLoad, rfl, rfl, ?_, ?_,
          expiresAtMillis_reloaded c⟩
      · intro n hMillis
        simp only [reloaded, writtenExpiry, hMillis]
      · intro hMillis
        simp only [reloaded, writtenExpiry, hMillis]
  · intro f s user c hLoad
    rcases finds_of_load hLoad with ⟨text, hFinds, hText⟩
    rw [toJson_of_ofDocument hText]
    refine ⟨hFinds, ?_⟩
    intro f' s' user' hFinds'
    exact load_of_finds hFinds' hText

/- Credentials whose token and expiry are not plain. -/
def signed : Credentials :=
  plain "t\"\\\n😀" "ü" " +042 "

/- The homes of users, with no other home. -/
def homes : FileSource :=
  ⟨"/srv/homes", none⟩

/- Two users whose files were written for the same. -/
def signedTwice : Surroundings :=
  ⟨(FileTree.empty.put
      "/srv/homes/ann/.claude/.credentials.json"
        (.file (Utf8.encode signed.toJson))).put
      "/srv/homes/bob/.claude/.credentials.json"
        (.file (Utf8.encode signed.toJson)),
    Environment.empty, none⟩

/-
  An expiry with blanks, a sign and a leading zero comes back
  as its number, and what came back for one user comes back
  for the other.
-/
theorem load_written_signed :
    signed.document = none ∧
      homes.Finds signedTwice "ann"
        (Utf8.encode signed.toJson) ∧
      ∃ c',
        homes.load signedTwice "ann" = .ok (some c') ∧
        c'.accessToken = signed.accessToken ∧
        c'.refreshToken = signed.refreshToken ∧
        c'.expiresAt = Decimal.text 42 ∧
        c'.expiresAtMillis = some 42 ∧
        homes.load signedTwice "bob" = .ok (some c') := by
  have hAnn :
      homes.Finds signedTwice "ann"
        (Utf8.encode signed.toJson) :=
    ⟨"/srv/homes/ann/.claude/.credentials.json",
      by decide +kernel, by decide +kernel⟩
  have hMillis : signed.expiresAtMillis = some 42 := by
    decide +kernel
  rcases
      (load_written.1 signed homes signedTwice "ann" rfl
        hAnn).2 (by decide +kernel) with
    ⟨c', hLoad, hAccess, hRefresh, hExpiry, _, hKept⟩
  refine
    ⟨rfl, hAnn, c', hLoad, hAccess, hRefresh,
      hExpiry 42 hMillis, hKept.trans hMillis, ?_⟩
  rcases load_written.2 homes signedTwice "ann" c' hLoad with
    ⟨hWritten, hElsewhere⟩
  refine hElsewhere homes signedTwice "bob" ?_
  rw [finds_unique hWritten hAnn]
  exact
    ⟨"/srv/homes/bob/.claude/.credentials.json",
      by decide +kernel, by decide +kernel⟩

end FileSource

end Credentials

end Gatehouse
