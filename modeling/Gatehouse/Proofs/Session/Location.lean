import Gatehouse.Proofs.Session.Calls
import Gatehouse.Proofs.Text.Octets
import Gatehouse.Proofs.Text.Pieces

/-
  Where a request names its session.

  The three places are told by what they hold: the first
  value of a field, visible and within blanks; the pairs of
  the query; and the text after a mark in the authorization.
  The first place that holds an id decides, and an id that
  is put into a place as it is arrives unchanged.

  Key definitions include:
    * `Http.FirstValue`
    * `Http.Spells`
    * `Session.FieldNames`
    * `Session.QueryNames`
    * `Session.BearerNames`
    * `Session.Names`
    * `Session.Carries`

  Main results include:
    * `Session.locate?_eq_some_iff`
    * `Session.Names.ne_empty`
    * `Session.Names.of_fieldNames`
    * `Session.Names.of_queryNames`
    * `Session.Carries.names`
-/

namespace Gatehouse

namespace Text

/- A safe text has no blanks around it. -/
theorem trims_of_urlSafe
    {s : String}
    (hSafe : ∀ c ∈ s.toList, isUrlSafe c = true) :
    Trims s s :=
  (trim_eq_iff s s).mp (trim_of_urlSafe hSafe)

end Text

------------------------------------------------------------
-- Fields
------------------------------------------------------------

namespace Http

/- Is it the value of the first field with a name? -/
def FirstValue
    (name : String)
    (hs : List Header)
    (value : List UInt8) : Prop :=
  ∃ before h after,
    hs = before ++ h :: after ∧
      h.name.toLower = name ∧ h.value = value ∧
        ∀ other ∈ before, other.name.toLower ≠ name

/- Are octets visible, and those of a text? -/
def Spells
    (value : List UInt8)
    (s : String) : Prop :=
  (∀ b ∈ value, isVisible b = true) ∧
    Utf8.encode s = value

/- The fields with a name, in their order. -/
def fieldsNamed
    (name : String)
    (hs : List Header) : List Header :=
  hs.filter (fun h => h.name.toLower = name)

/- Visible octets are those of their characters. -/
theorem encode_of_visible
    {value : List UInt8}
    (h : ∀ b ∈ value, isVisible b = true) :
    Utf8.encode
        (String.ofList
          (value.map (Char.ofNat ·.toNat))) =
      value := by
  rw [Form.encode_ofList]
  induction value with
  | nil => rfl
  | cons b bs ih =>
      rcases List.forall_mem_cons.mp h with ⟨hFirst, hRest⟩
      have hChar :
          isVisible b = true →
            String.utf8EncodeChar (Char.ofNat b.toNat) =
              [b] :=
        Form.forall_octet
          (fun b =>
            isVisible b = true →
              String.utf8EncodeChar (Char.ofNat b.toNat) =
                [b])
          (by decide +kernel) b
      unfold Form.octets at ih ⊢
      rw [List.map_cons, List.flatMap_cons, hChar hFirst,
        ih hRest]
      rfl

/- Texts with the same octets are the same. -/
theorem text_of_encode_eq
    {s t : String}
    (h : Utf8.encode s = Utf8.encode t) :
    s = t := by
  have hRead := congrArg Utf8.decode? h
  rw [Utf8.decode?_encode, Utf8.decode?_encode] at hRead
  exact Option.some.inj hRead

/- A value is a text if it spells the text. -/
theorem visibleText?_eq_some_iff
    (value : List UInt8)
    (s : String) :
    visibleText? value = some s ↔ Spells value s := by
  unfold visibleText? Spells
  constructor
  · intro hText
    split at hText
    next hVisible =>
      rw [List.all_eq_true] at hVisible
      rw [← Option.some.inj hText]
      exact ⟨hVisible, encode_of_visible hVisible⟩
    next => cases hText
  · rintro ⟨hVisible, hOctets⟩
    rw [if_pos (List.all_eq_true.mpr hVisible)]
    apply congrArg some
    apply text_of_encode_eq
    rw [encode_of_visible hVisible, hOctets]

/- The text of the first field with a name is spelled there. -/
theorem firstText?_eq_some_iff
    (hs : List Header)
    (name s : String) :
    firstText? hs name = some s ↔
      ∃ value, FirstValue name hs value ∧ Spells value s := by
  unfold firstText?
  rw [Option.bind_eq_some_iff]
  constructor
  · rintro ⟨h, hFound, hText⟩
    rw [List.find?_eq_some_iff_append] at hFound
    rcases hFound with ⟨hName, before, after, hAll, hOthers⟩
    refine
      ⟨h.value, ⟨before, h, after, hAll, ?_, rfl, ?_⟩, ?_⟩
    · simpa using hName
    · intro other hOther
      simpa using hOthers other hOther
    · exact (visibleText?_eq_some_iff _ _).mp hText
  · rintro
      ⟨_, ⟨before, h, after, hAll, hName, rfl, hOthers⟩,
        hSpells⟩
    refine ⟨h, ?_, ?_⟩
    · rw [List.find?_eq_some_iff_append]
      refine ⟨by simpa using hName, before, after, hAll, ?_⟩
      intro other hOther
      simpa using hOthers other hOther
    · exact (visibleText?_eq_some_iff _ _).mpr hSpells

/- Only the fields with the name matter. -/
theorem firstText?_congr
    {hs hs' : List Header}
    {name : String}
    (h : fieldsNamed name hs = fieldsNamed name hs') :
    firstText? hs name = firstText? hs' name := by
  unfold firstText?
  rw [← List.head?_filter, ← List.head?_filter]
  exact congrArg (fun fs => (List.head? fs).bind _) h

/- A safe text spells itself, also after a visible mark. -/
theorem spells_append_of_urlSafe
    (mark : String)
    {s : String}
    (hMark : ∀ b ∈ Utf8.encode mark, isVisible b = true)
    (hSafe : ∀ c ∈ s.toList, Text.isUrlSafe c = true) :
    Spells (Utf8.encode (mark ++ s)) (mark ++ s) := by
  refine ⟨?_, rfl⟩
  intro b hb
  unfold Utf8.encode at hMark hb
  rw [String.toList_append, List.flatMap_append] at hb
  rcases List.mem_append.mp hb with hFirst | hSecond
  · exact hMark b hFirst
  · change b ∈ Utf8.encode s at hSecond
    rw [Utf8.encode_of_urlSafe hSafe] at hSecond
    rcases List.mem_map.mp hSecond with ⟨c, hc, rfl⟩
    exact Text.isVisible_of_isUrlSafe (hSafe c hc)

end Http

namespace Session

open Http (FirstValue Spells fieldsNamed)

------------------------------------------------------------
-- Places
------------------------------------------------------------

/- Does the field for session ids name an id? -/
def FieldNames
    (hs : List Http.Header)
    (id : String) : Prop :=
  ∃ value s,
    FirstValue "x-session-id" hs value ∧ Spells value s ∧
      Text.Trims s id ∧ id ≠ ""

/-
  Does the query name an id?  It is the value of the first
  of its pairs that has a value.
-/
def QueryNames
    (query : Option (List UInt8))
    (id : String) : Prop :=
  ∃ octets before after,
    query = some octets ∧
      Form.pairs octets =
          before ++ ("session_id", id) :: after ∧
        id ≠ "" ∧
          ∀ s, ("session_id", s) ∈ before → s = ""

/- Does the authorization name an id after its mark? -/
def BearerNames
    (hs : List Http.Header)
    (id : String) : Prop :=
  ∃ value rest,
    FirstValue "authorization" hs value ∧
      Spells value ("Bearer " ++ rest) ∧
        Text.Trims rest id ∧ id ≠ ""

/- Which id a request names: the first place decides. -/
inductive Names
    (hs : List Http.Header)
    (query : Option (List UInt8))
    (id : String) : Prop where
  | field
      (hNames : FieldNames hs id)
  | query
      (hField : ∀ i, ¬FieldNames hs i)
      (hNames : QueryNames query id)
  | bearer
      (hField : ∀ i, ¬FieldNames hs i)
      (hQuery : ∀ i, ¬QueryNames query i)
      (hNames : BearerNames hs id)

/- A text is usable if something is left of it. -/
theorem usable?_eq_some_iff
    (s id : String) :
    usable? s = some id ↔ Text.Trims s id ∧ id ≠ "" := by
  rw [← Text.trim_eq_iff]
  unfold usable?
  constructor
  · intro hUsable
    dsimp only at hUsable
    split at hUsable
    next => cases hUsable
    next hSome =>
      rw [← Option.some.inj hUsable]
      exact ⟨rfl, by simpa using hSome⟩
  · rintro ⟨rfl, hSome⟩
    dsimp only
    rw [if_neg (by simpa using hSome)]

/- The field holds the id that it names. -/
theorem idInField?_eq_some_iff
    (hs : List Http.Header)
    (id : String) :
    idInField? hs = some id ↔ FieldNames hs id := by
  unfold idInField? FieldNames
  rw [Option.bind_eq_some_iff]
  simp only [Http.firstText?_eq_some_iff,
    usable?_eq_some_iff]
  constructor
  · rintro ⟨s, ⟨value, hFirst, hSpells⟩, hTrims, hSome⟩
    exact ⟨value, s, hFirst, hSpells, hTrims, hSome⟩
  · rintro ⟨value, s, hFirst, hSpells, hTrims, hSome⟩
    exact ⟨s, ⟨value, hFirst, hSpells⟩, hTrims, hSome⟩

/- The query holds the id that it names. -/
theorem idInQuery?_eq_some_iff
    (query : Option (List UInt8))
    (id : String) :
    query.bind idInQuery? = some id ↔
      QueryNames query id := by
  unfold QueryNames
  rw [Option.bind_eq_some_iff]
  constructor
  · rintro ⟨octets, rfl, hFound⟩
    rcases Option.map_eq_some_iff.mp hFound with
      ⟨⟨name, value⟩, hPair, rfl⟩
    rw [List.find?_eq_some_iff_append] at hPair
    rcases hPair with ⟨hUsable, before, after, hAll, hOthers⟩
    simp only [Bool.and_eq_true, decide_eq_true_eq,
      Bool.not_eq_true', String.isEmpty_eq_false_iff]
      at hUsable
    rcases hUsable with ⟨rfl, hSome⟩
    refine ⟨octets, before, after, rfl, hAll, hSome, ?_⟩
    intro s hs
    simpa using hOthers _ hs
  · rintro ⟨octets, before, after, rfl, hAll, hSome, hOthers⟩
    refine ⟨octets, rfl, ?_⟩
    unfold idInQuery?
    rw [Option.map_eq_some_iff]
    refine ⟨("session_id", id), ?_, rfl⟩
    rw [List.find?_eq_some_iff_append]
    refine ⟨by simpa using hSome, before, after, hAll, ?_⟩
    rintro ⟨name, value⟩ hPair
    by_cases hName : name = "session_id"
    · rw [hName] at hPair
      simp [hOthers value hPair]
    · simp [hName]

/- What stands after a beginning. -/
theorem textAfter?_eq_some_iff
    (beginning : List Char)
    (s rest : String) :
    textAfter? beginning s = some rest ↔
      s = String.ofList beginning ++ rest := by
  unfold textAfter?
  constructor
  · intro hRest
    split at hRest
    next hPrefix =>
      have hChars :=
        List.prefix_iff_eq_append.mp
          (List.isPrefixOf_iff_prefix.mp hPrefix)
      rw [← Option.some.inj hRest, ← String.ofList_append,
        hChars, String.ofList_toList]
    next => cases hRest
  · rintro rfl
    rw [String.toList_append, String.toList_ofList]
    simp

/- The authorization holds the id that it names. -/
theorem idInBearer?_eq_some_iff
    (hs : List Http.Header)
    (id : String) :
    idInBearer? hs = some id ↔ BearerNames hs id := by
  have hMark : String.ofList bearerMark = "Bearer " := by
    decide
  unfold idInBearer? BearerNames
  simp only [Option.bind_eq_some_iff,
    Http.firstText?_eq_some_iff, textAfter?_eq_some_iff,
    usable?_eq_some_iff, hMark]
  constructor
  · rintro
      ⟨rest, ⟨_, ⟨value, hFirst, hSpells⟩, rfl⟩, hTrims,
        hSome⟩
    exact ⟨value, rest, hFirst, hSpells, hTrims, hSome⟩
  · rintro ⟨value, rest, hFirst, hSpells, hTrims, hSome⟩
    exact
      ⟨rest, ⟨_, ⟨value, hFirst, hSpells⟩, rfl⟩, hTrims,
        hSome⟩

------------------------------------------------------------
-- The First Place
------------------------------------------------------------

/- A place names nothing if it holds no id. -/
theorem not_names_iff
    {place : Option String}
    {PlaceNames : String → Prop}
    (h : ∀ id, place = some id ↔ PlaceNames id) :
    place = none ↔ ∀ id, ¬PlaceNames id := by
  simp only [← h]
  exact Option.eq_none_iff_forall_ne_some

/- The id that is located is the one that is named. -/
theorem locate?_eq_some_iff
    (hs : List Http.Header)
    (query : Option (List UInt8))
    (id : String) :
    locate? hs query = some id ↔ Names hs query id := by
  have hField := idInField?_eq_some_iff hs
  have hQuery := idInQuery?_eq_some_iff query
  have hBearer := idInBearer?_eq_some_iff hs
  have hNoField := not_names_iff hField
  have hNoQuery := not_names_iff hQuery
  unfold locate?
  constructor
  · intro hLocated
    cases hInField : idInField? hs with
    | some i =>
        rw [hInField] at hLocated
        rw [← Option.some.inj hLocated]
        exact Names.field ((hField i).mp hInField)
    | none =>
        rw [hInField] at hLocated
        cases hInQuery : query.bind idInQuery? with
        | some i =>
            rw [hInQuery] at hLocated
            rw [← Option.some.inj hLocated]
            exact
              Names.query (hNoField.mp hInField)
                ((hQuery i).mp hInQuery)
        | none =>
            rw [hInQuery] at hLocated
            exact
              Names.bearer (hNoField.mp hInField)
                (hNoQuery.mp hInQuery)
                ((hBearer id).mp hLocated)
  · intro hNamed
    cases hNamed with
    | field hNames =>
        rw [(hField id).mpr hNames]
        rfl
    | query hAbsent hNames =>
        rw [hNoField.mpr hAbsent, (hQuery id).mpr hNames]
        rfl
    | bearer hAbsent hAbsent' hNames =>
        rw [hNoField.mpr hAbsent, hNoQuery.mpr hAbsent',
          (hBearer id).mpr hNames]
        rfl

/- No id is located if none is named. -/
theorem locate?_eq_none_iff
    (hs : List Http.Header)
    (query : Option (List UInt8)) :
    locate? hs query = none ↔
      ∀ id, ¬Names hs query id :=
  not_names_iff (locate?_eq_some_iff hs query)

section Named

variable {hs hs' : List Http.Header}
variable {query query' : Option (List UInt8)}
variable {id id' : String}

/- The id that is named is never empty. -/
theorem Names.ne_empty
    (h : Names hs query id) :
    id ≠ "" := by
  cases h with
  | field hNames =>
      rcases hNames with ⟨_, _, _, _, _, hSome⟩
      exact hSome
  | query _ hNames =>
      rcases hNames with ⟨_, _, _, _, _, hSome, _⟩
      exact hSome
  | bearer _ _ hNames =>
      rcases hNames with ⟨_, _, _, _, _, hSome⟩
      exact hSome

/- One id is named at most. -/
theorem Names.unique
    (h : Names hs query id)
    (h' : Names hs query id') :
    id = id' := by
  rw [← locate?_eq_some_iff] at h h'
  exact Option.some.inj (h.symm.trans h')

/- Only the fields for session ids matter to their place. -/
theorem fieldNames_congr
    (hSame :
      fieldsNamed "x-session-id" hs =
        fieldsNamed "x-session-id" hs')
    (id : String) :
    FieldNames hs id ↔ FieldNames hs' id := by
  rw [← idInField?_eq_some_iff, ← idInField?_eq_some_iff]
  unfold idInField?
  rw [Http.firstText?_congr hSame]

/- With an id in the field, nothing else matters. -/
theorem Names.of_fieldNames
    (h : FieldNames hs id)
    (hSame :
      fieldsNamed "x-session-id" hs =
        fieldsNamed "x-session-id" hs') :
    Names hs' query' id :=
  Names.field ((fieldNames_congr hSame id).mp h)

/-
  With an id in the query and none in the field, no other
  field matters.
-/
theorem Names.of_queryNames
    (hField : ∀ i, ¬FieldNames hs i)
    (h : QueryNames query id)
    (hSame :
      fieldsNamed "x-session-id" hs =
        fieldsNamed "x-session-id" hs') :
    Names hs' query id := by
  apply Names.query _ h
  intro i hNames
  exact hField i ((fieldNames_congr hSame i).mpr hNames)

end Named

------------------------------------------------------------
-- Ids That Travel
------------------------------------------------------------

/-
  Is a text put as it is into a place, while no place before
  holds an id?  In a query it is the value of a part.
-/
inductive Carries
    (hs : List Http.Header)
    (query : Option (List UInt8))
    (text : String) : Prop where
  | field
      (hFirst :
        FirstValue "x-session-id" hs (Utf8.encode text))
  | query
      (before after : List UInt8)
      (hField : ∀ i, ¬FieldNames hs i)
      (hQuery :
        query =
          some
            (before ++ Utf8.encode ("session_id=" ++ text) ++
              after))
      (hBefore : before = [] ∨ ∃ bs, before = bs ++ [0x26])
      (hAfter : after = [] ∨ ∃ bs, after = 0x26 :: bs)
      (hEarlier :
        ∀ s, ("session_id", s) ∈ Form.pairs before → s = "")
  | bearer
      (hField : ∀ i, ¬FieldNames hs i)
      (hQuery : ∀ i, ¬QueryNames query i)
      (hFirst :
        FirstValue "authorization" hs
          (Utf8.encode ("Bearer " ++ text)))

/- What stands before a part is pairs of its own. -/
theorem pairs_before
    {before : List UInt8}
    (hBefore : before = [] ∨ ∃ bs, before = bs ++ [0x26])
    (bs : List UInt8) :
    Form.pairs (before ++ bs) =
      Form.pairs before ++ Form.pairs bs := by
  rcases hBefore with rfl | ⟨ds, rfl⟩
  · rfl
  · rw [List.append_assoc, List.singleton_append,
      Form.pairs_append_ampersand,
      Form.pairs_append_ampersand]
    have hNone : Form.pairs [] = [] := rfl
    rw [hNone, List.append_nil]

/- What stands after a part is pairs of its own. -/
theorem pairs_after
    {after : List UInt8}
    (hAfter : after = [] ∨ ∃ bs, after = 0x26 :: bs)
    (bs : List UInt8) :
    ∃ ps, Form.pairs (bs ++ after) = Form.pairs bs ++ ps := by
  rcases hAfter with rfl | ⟨ds, rfl⟩
  · exact ⟨[], by rw [List.append_nil, List.append_nil]⟩
  · exact ⟨_, Form.pairs_append_ampersand bs ds⟩

/- A safe text in a part is read as it is. -/
theorem pairs_of_urlSafe
    {text : String}
    (hSafe : ∀ c ∈ text.toList, Text.isUrlSafe c = true) :
    Form.pairs (Utf8.encode ("session_id=" ++ text)) =
      [("session_id", text)] := by
  have hName : Form.encode "session_id" = "session_id".toList :=
    Form.encode_of_urlSafe (List.all_eq_true.mp (by decide))
  have hPart :
      Utf8.encode ("session_id=" ++ text) =
        Form.octets
          (Form.encodePair ("session_id", text)) := by
    unfold Form.encodePair
    rw [hName, Form.encode_of_urlSafe hSafe,
      ← Form.encode_ofList]
    apply congrArg
    apply String.toList_injective
    rw [String.toList_append, String.toList_ofList,
      String.toList_ofList]
    rfl
  rw [hPart, Form.pairs_encodePair]

/- A safe text that is put into a place is named. -/
theorem Carries.names
    {hs : List Http.Header}
    {query : Option (List UInt8)}
    {text : String}
    (h : Carries hs query text)
    (hSafe : ∀ c ∈ text.toList, Text.isUrlSafe c = true)
    (hSome : text ≠ "") :
    Names hs query text := by
  have hTrims := Text.trims_of_urlSafe hSafe
  cases h with
  | field hFirst =>
      have hSpells :=
        Http.spells_append_of_urlSafe ""
          (List.all_eq_true.mp (by decide)) hSafe
      exact
        Names.field
          ⟨_, _, hFirst, hSpells, hTrims, hSome⟩
  | query before after hField hQuery hBefore hAfter
      hEarlier =>
      apply Names.query hField
      rcases pairs_after hAfter
          (before ++ Utf8.encode ("session_id=" ++ text)) with
        ⟨ps, hPairs⟩
      have hAll :
          Form.pairs
              (before ++
                  Utf8.encode ("session_id=" ++ text) ++
                after) =
            Form.pairs before ++ ("session_id", text) :: ps := by
        rw [hPairs, pairs_before hBefore,
          pairs_of_urlSafe hSafe, List.append_assoc]
        rfl
      exact ⟨_, _, _, hQuery, hAll, hSome, hEarlier⟩
  | bearer hField hQuery hFirst =>
      have hSpells :=
        Http.spells_append_of_urlSafe "Bearer "
          (List.all_eq_true.mp (by decide)) hSafe
      exact
        Names.bearer hField hQuery
          ⟨_, text, hFirst, hSpells, hTrims, hSome⟩

end Session

end Gatehouse
