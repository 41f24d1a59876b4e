import Gatehouse.Proofs.Url.Marks

/-
  What is read and written again keeps its end.

  The text of a URL that was read has its query and its
  fragment where they are looked for, also after pairs were
  appended.  Whoever reads that text again finds the scheme,
  the query and the fragment as they were written.

  Key definitions include:
    * `Url.WellWritten`
    * `Url.beginning`
    * `Url.front`

  Main results include:
    * `Url.wellWritten_of_parse`
    * `Url.WellWritten.withPairs`
    * `Url.WellWritten.front_chars`
    * `Url.WellWritten.queryText?_chars`
    * `Url.WellWritten.parse_write`
-/

namespace Gatehouse

------------------------------------------------------------
-- Written Forms
------------------------------------------------------------

namespace Form

/- What is written of an octet stays in every query. -/
theorem querySet_of_mem_encodeOctet
    (special : Bool)
    (b : UInt8) :
    ∀ c ∈ encodeOctet b, Url.querySet special c = false := by
  have hAll :=
    forall_octet
      (fun b =>
        (encodeOctet b).all (!Url.querySet special ·) = true)
      (by cases special <;> decide +kernel) b
  intro c hc
  simpa using List.all_eq_true.mp hAll c hc

/- What is written of a text stays in every query. -/
theorem querySet_of_mem_encode
    (special : Bool)
    (s : String) :
    ∀ c ∈ encode s, Url.querySet special c = false := by
  intro c hc
  rcases List.mem_flatMap.mp hc with ⟨b, _, hIn⟩
  exact querySet_of_mem_encodeOctet special b c hIn

/- What is written of pairs stays in every query. -/
theorem querySet_of_mem_encodePairs
    (special : Bool)
    (ps : List (String × String)) :
    ∀ c ∈ encodePairs ps, Url.querySet special c = false := by
  have hAnd : Url.querySet special '&' = false := by
    cases special <;> rfl
  have hEquals : Url.querySet special '=' = false := by
    cases special <;> rfl
  have hPair :
      ∀ p, ∀ c ∈ encodePair p,
        Url.querySet special c = false := by
    intro p
    unfold encodePair
    simp only [List.forall_mem_append, List.forall_mem_cons]
    exact
      ⟨querySet_of_mem_encode special p.1, hEquals,
        querySet_of_mem_encode special p.2⟩
  fun_induction encodePairs ps with
  | case1 => simp
  | case2 p => exact hPair p
  | case3 p ps hMore ih =>
      simp only [List.forall_mem_append, List.forall_mem_cons]
      exact ⟨hPair p, hAnd, ih⟩

end Form

namespace Percent

variable {set : Char → Bool}

/- Nothing is left to be encoded in what was encoded. -/
theorem forall_of_map_encodeChars
    {text : Option (List Char)}
    (hEscape : ∀ c ∈ escapeChars, set c = false)
    {cs : List Char}
    (h : text.map (encodeChars set) = some cs) :
    ∀ c ∈ cs, set c = false := by
  rcases Option.map_eq_some_iff.mp h with ⟨own, _, rfl⟩
  exact forall_encodeChars hEscape (fun _ _ hKept => hKept)

/- What may be encoded already stays, or is still missing. -/
theorem map_encodeChars_eq_self
    {text : Option (List Char)}
    (h :
      ∀ cs, text = some cs → ∀ c ∈ cs, set c = false) :
    text.map (encodeChars set) = text := by
  cases text with
  | none => rfl
  | some cs =>
      exact congrArg some (encodeChars_eq_self (h cs rfl))

end Percent

namespace Url

variable {u v : Url}

------------------------------------------------------------
-- What Was Read
------------------------------------------------------------

/-
  Is a URL such as reading gives?  What stands before its
  marks is inert, and what must be encoded after them is.
-/
structure WellWritten
    (u : Url) : Prop where
  scheme : IsScheme u.scheme
  authority : ∀ c ∈ u.authorityChars, isInert c = true
  path : ∀ c ∈ u.path.chars, isInert c = true
  query :
    ∀ cs, u.query = some cs →
      ∀ c ∈ cs, querySet (isSpecial u.scheme) c = false
  fragment :
    ∀ cs, u.fragment = some cs →
      ∀ c ∈ cs, Percent.fragmentSet c = false

/- The query of a URL that is read stands in its text. -/
theorem Reads.query_eq
    {scheme cs : List Char}
    (h : Reads scheme cs u) :
    u.query =
      (queryText? cs).map
        (Percent.encodeChars (querySet (isSpecial scheme))) := by
  have hSuffix := h.suffix
  rw [readSuffix_eq] at hSuffix
  exact (Prod.mk.inj hSuffix).1

/- The fragment of a URL that is read stands in its text. -/
theorem Reads.fragment_eq
    {scheme cs : List Char}
    (h : Reads scheme cs u) :
    u.fragment =
      (fragmentText? cs).map
        (Percent.encodeChars Percent.fragmentSet) := by
  have hSuffix := h.suffix
  rw [readSuffix_eq] at hSuffix
  exact (Prod.mk.inj hSuffix).2

/- What is read is well written. -/
theorem wellWritten_of_parse
    {s : String}
    (h : parse s = .ok u) :
    u.WellWritten := by
  rcases reads_of_parse h with ⟨⟨rest, hScheme⟩, hReads⟩
  have hEscape := not_mem_of_escape (isSpecial u.scheme)
  refine
    ⟨(scheme?_eq_some hScheme).1, hReads.authority,
      hReads.path, ?_, ?_⟩
  · intro cs hQuery
    rw [hReads.query_eq] at hQuery
    exact
      Percent.forall_of_map_encodeChars
        (fun c hc => (hEscape c hc).1) hQuery
  · intro cs hFragment
    rw [hReads.fragment_eq] at hFragment
    exact
      Percent.forall_of_map_encodeChars
        (fun c hc => (hEscape c hc).2) hFragment

/- Pairs are appended with what must be encoded encoded. -/
theorem WellWritten.withPairs
    (h : u.WellWritten)
    (ps : List (String × String)) :
    (u.withPairs ps).WellWritten := by
  have hAdded :=
    Form.querySet_of_mem_encodePairs (isSpecial u.scheme) ps
  refine ⟨h.scheme, h.authority, h.path, ?_, h.fragment⟩
  intro cs hQuery
  unfold Url.withPairs at hQuery
  dsimp only at hQuery
  rw [← Option.some.inj hQuery]
  have hAnd : querySet (isSpecial u.scheme) '&' = false := by
    cases isSpecial u.scheme <;> rfl
  split
  · exact hAdded
  · exact hAdded
  next own _ hOwn =>
    split
    · exact h.query own hOwn
    · simp only [List.forall_mem_append,
        List.forall_mem_cons]
      exact ⟨h.query own hOwn, hAnd, hAdded⟩

------------------------------------------------------------
-- What Is Written
------------------------------------------------------------

/- The text of a URL before its query and its fragment. -/
def beginning
    (u : Url) : List Char :=
  u.scheme ++ ':' :: u.authorityChars ++ u.path.chars

/- The text of a URL after its path. -/
def ending
    (u : Url) : List Char :=
  suffixChars '?' u.query ++ suffixChars '#' u.fragment

/- The text that comes before a query and a fragment. -/
def front
    (cs : List Char) : List Char :=
  cs.takeWhile (!endsPath ·)

/- The text of a URL is its beginning and its ending. -/
theorem chars_eq_append
    (u : Url) :
    u.chars = u.beginning ++ u.ending := by
  unfold chars beginning ending
  simp only [List.append_assoc]

/- What holds of a mark and a part holds of both together. -/
theorem forall_mem_suffixChars
    {P : Char → Prop}
    {mark : Char}
    {part : Option (List Char)}
    (hMark : P mark)
    (hPart : ∀ cs, part = some cs → ∀ c ∈ cs, P c) :
    ∀ c ∈ suffixChars mark part, P c := by
  cases part with
  | none => simp [suffixChars]
  | some cs =>
      exact List.forall_mem_cons.mpr ⟨hMark, hPart cs rfl⟩

/- What is outer is encoded in queries and fragments. -/
theorem encoded_of_isOuter
    {c : Char}
    (h : isOuter c = true)
    (special : Bool) :
    querySet special c = true ∧
      Percent.fragmentSet c = true := by
  have hAll :
      ∀ n ≤ 0x20,
        (querySet true (Char.ofNat n) &&
            querySet false (Char.ofNat n) &&
              Percent.fragmentSet (Char.ofNat n)) = true := by
    decide
  have hNamed := hAll c.toNat (of_decide_eq_true h)
  rw [Char.ofNat_toNat] at hNamed
  simp only [Bool.and_eq_true] at hNamed
  cases special with
  | false => exact ⟨hNamed.1.2, hNamed.2⟩
  | true => exact ⟨hNamed.1.1, hNamed.2⟩

namespace WellWritten

/- The beginning of a URL is inert. -/
theorem isInert_of_mem_beginning
    (h : u.WellWritten) :
    ∀ c ∈ u.beginning, isInert c = true := by
  unfold beginning
  simp only [List.forall_mem_append, List.forall_mem_cons]
  refine ⟨⟨?_, by decide, h.authority⟩, h.path⟩
  intro c hc
  exact (isInert_of_isSchemeChar (h.scheme.plain c hc).1).1

/- The ending of a URL is what its first mark begins. -/
theorem dropWhile_chars
    (h : u.WellWritten) :
    u.chars.dropWhile (!endsPath ·) = u.ending := by
  rw [chars_eq_append, dropWhile_taken]
  · unfold ending
    cases u.query with
    | none =>
        cases u.fragment with
        | none => rfl
        | some cs => rfl
    | some cs => rfl
  · intro c hc
    exact endsPath_of_isInert (h.isInert_of_mem_beginning c hc)

/- The front of the text of a URL is its beginning. -/
theorem front_chars
    (h : u.WellWritten) :
    front u.chars = u.beginning := by
  have hBeginning :
      ∀ c ∈ u.beginning, (!endsPath c) = true := by
    intro c hc
    rw [endsPath_of_isInert (h.isInert_of_mem_beginning c hc)]
    rfl
  have hEnding : front u.ending = [] := by
    unfold ending
    cases u.query with
    | none =>
        cases u.fragment with
        | none => rfl
        | some cs => rfl
    | some cs => rfl
  unfold front at hEnding ⊢
  rw [chars_eq_append,
    List.takeWhile_append_of_pos hBeginning, hEnding,
    List.append_nil]

/- No number sign stands in a query. -/
theorem ne_of_mem_query
    (h : u.WellWritten)
    {cs : List Char}
    (hQuery : u.query = some cs) :
    ∀ c ∈ cs, decide (c ≠ '#') = true := by
  intro c hc
  apply decide_eq_true
  rintro rfl
  have hKept := h.query cs hQuery '#' hc
  cases hSpecial : isSpecial u.scheme <;>
    · rw [hSpecial] at hKept
      cases hKept

/- The query stands in the text of a URL. -/
theorem queryText?_chars
    (h : u.WellWritten) :
    queryText? u.chars = u.query := by
  unfold queryText?
  rw [h.dropWhile_chars]
  unfold ending
  cases hQuery : u.query with
  | none =>
      cases u.fragment with
      | none => rfl
      | some cs => rfl
  | some cs =>
      change some ((cs ++ _).takeWhile (· ≠ '#')) = some cs
      rw [List.takeWhile_append_of_pos
        (h.ne_of_mem_query hQuery)]
      cases u.fragment <;> simp [suffixChars]

/- The fragment stands in the text of a URL. -/
theorem fragmentText?_chars
    (h : u.WellWritten) :
    fragmentText? u.chars = u.fragment := by
  have hBefore :
      ∀ c ∈ suffixChars '?' u.query,
        decide (c ≠ '#') = true :=
    forall_mem_suffixChars rfl (fun _ => h.ne_of_mem_query)
  rw [← fragmentText?_dropWhile, h.dropWhile_chars]
  unfold ending fragmentText?
  rw [List.dropWhile_append_of_pos hBefore]
  cases u.fragment <;> rfl

------------------------------------------------------------
-- Reading Again
------------------------------------------------------------

/- Nothing after the path of a URL is outer. -/
theorem not_isOuter_of_mem_ending
    (h : u.WellWritten) :
    ∀ c ∈ u.ending, ¬isOuter c = true := by
  unfold ending
  rw [List.forall_mem_append]
  constructor
  · refine forall_mem_suffixChars (by decide) ?_
    intro cs hQuery c hc hOuter
    have hKept := h.query cs hQuery c hc
    rw [(encoded_of_isOuter hOuter _).1] at hKept
    cases hKept
  · refine forall_mem_suffixChars (by decide) ?_
    intro cs hFragment c hc hOuter
    have hKept := h.fragment cs hFragment c hc
    rw [(encoded_of_isOuter hOuter true).2] at hKept
    cases hKept

/- All characters of a URL with a query count. -/
theorem clean_chars
    (h : u.WellWritten)
    (hQuery : u.query ≠ none) :
    clean u.chars = u.chars := by
  have hScheme : ∀ c ∈ u.scheme, ¬isOuter c = true := by
    intro c hc
    rw [Bool.not_eq_true]
    exact
      (isInert_of_isSchemeChar (h.scheme.plain c hc).1).2
  have hFirst : u.scheme ≠ [] := by
    rcases h.scheme.begins with ⟨c, cs, hSome, _⟩
    rw [hSome]
    exact List.cons_ne_nil c cs
  have hFront : u.chars.dropWhile isOuter = u.chars := by
    unfold chars
    simp only [List.append_assoc]
    exact dropWhile_isOuter_append hScheme hFirst _
  have hLast : u.ending.reverse ≠ [] := by
    unfold ending
    cases hSome : u.query with
    | none => exact absurd hSome hQuery
    | some cs => simp [suffixChars]
  have hBack :
      u.chars.reverse.dropWhile isOuter = u.chars.reverse := by
    rw [chars_eq_append, List.reverse_append]
    apply dropWhile_isOuter_append _ hLast
    intro c hc
    exact
      h.not_isOuter_of_mem_ending c (List.mem_reverse.mp hc)
  have hNone :
      ∀ c ∈ u.chars, (!isPassedOver c) = true := by
    rw [chars_eq_append, List.forall_mem_append]
    constructor
    · intro c hc
      have hInert := h.isInert_of_mem_beginning c hc
      simp only [isInert, Bool.and_eq_true] at hInert
      exact hInert.2
    · intro c hc
      rw [Bool.not_eq_true', ← Bool.not_eq_true]
      intro hPassed
      exact
        h.not_isOuter_of_mem_ending c hc
          (isOuter_of_isPassedOver hPassed)
  unfold clean
  rw [hFront, hBack, List.reverse_reverse]
  exact List.filter_eq_self.mpr hNone

/-
  Whoever reads the text of a URL with a query finds its
  scheme, its query and its fragment.
-/
theorem parse_write
    (h : u.WellWritten)
    (hQuery : u.query ≠ none)
    (hAgain : parse u.write = .ok v) :
    v.scheme = u.scheme ∧
      v.query = u.query ∧ v.fragment = u.fragment := by
  rcases reads_of_parse hAgain with ⟨⟨rest, hScheme⟩, hReads⟩
  have hText : clean u.write.toList = u.chars := by
    unfold write
    rw [String.toList_ofList, h.clean_chars hQuery]
  rw [hText] at hScheme hReads
  have hSame : v.scheme = u.scheme := by
    rw [chars_eq_append] at hScheme
    unfold beginning at hScheme
    simp only [List.append_assoc, List.cons_append]
      at hScheme
    rw [h.scheme.scheme?_append] at hScheme
    exact (Prod.mk.inj (Option.some.inj hScheme)).1.symm
  refine ⟨hSame, ?_, ?_⟩
  · rw [hReads.query_eq, h.queryText?_chars, hSame]
    exact Percent.map_encodeChars_eq_self h.query
  · rw [hReads.fragment_eq, h.fragmentText?_chars]
    exact Percent.map_encodeChars_eq_self h.fragment

end WellWritten

end Url

end Gatehouse
