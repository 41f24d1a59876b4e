import Gatehouse.Proofs.Url.Authority
import Gatehouse.Proofs.Url.Inert

/-
  Where the query and the fragment of a URL are read.

  The query follows the first question mark, unless a number
  sign comes before it, and the fragment follows the first
  number sign.  What is read before them, with or without an
  authority, takes neither of the two from the text.

  Key definitions include:
    * `Url.queryText?`
    * `Url.fragmentText?`
    * `Url.Reads`

  Main results include:
    * `Url.readAuthority_parts`
    * `Url.readSuffix_eq`
    * `Url.reads_of_parse`
-/

namespace Gatehouse

namespace Url

------------------------------------------------------------
-- Reading an Authority
------------------------------------------------------------

/- A port is read off the front, digit by digit. -/
theorem readPort_eq_ok
    (cs : List Char) :
    ∀ {m n : Nat} {left : List Char},
      readPort m cs = .ok (n, left) →
        ∃ digits,
          cs = digits ++ left ∧
            ∀ c ∈ digits, Decimal.isDigit c = true := by
  induction cs with
  | nil =>
      intro m n left h
      cases h
      exact ⟨[], rfl, by simp⟩
  | cons c cs ih =>
      intro m n left h
      unfold readPort at h
      split at h
      next hDigit =>
        dsimp only at h
        split at h
        · cases h
        · rcases ih h with ⟨digits, rfl, hDigits⟩
          exact
            ⟨c :: digits, rfl,
              List.forall_mem_cons.mpr ⟨hDigit, hDigits⟩⟩
      next =>
        split at h
        · cases h
          exact ⟨[], rfl, by simp⟩
        · cases h

/- What follows the user is the end of the authority. -/
theorem splitUser_suffix
    (cs : List Char) :
    (splitUser cs).2 <:+ cs := by
  have hSuffix :
      (cs.reverse.takeWhile (· ≠ '@')).reverse <:+ cs := by
    rw [← List.reverse_prefix, List.reverse_reverse]
    exact List.takeWhile_prefix _
  unfold splitUser
  dsimp only
  split <;> exact hSuffix

/- What stands before an end of the authority is no mark. -/
theorem endsPath_of_mem_takeWhile
    (special : Bool)
    (cs : List Char) :
    ∀ c ∈ cs.takeWhile (!endsAuthority special ·),
      endsPath c = false := by
  intro c hc
  have hIn := List.mem_takeWhile_imp hc
  simp only [endsAuthority, Bool.not_eq_true',
    Bool.or_eq_false_iff] at hIn
  simp only [endsPath, hIn.1.1.2, hIn.1.2, Bool.or_self]

/- What separates segments is no mark. -/
theorem endsPath_of_isSlash
    {special : Bool}
    {c : Char}
    (h : isSlash special c = true) :
    endsPath c = false := by
  simp only [isSlash, Bool.or_eq_true, Bool.and_eq_true,
    decide_eq_true_eq] at h
  rcases h with rfl | ⟨_, rfl⟩
  · rfl
  · rfl

/- A port at the end of an authority holds no mark. -/
theorem taken_of_readPort
    {whole rest digits left : List Char}
    {c : Char}
    {n : Nat}
    (hWhole : ∀ d ∈ whole, endsPath d = false)
    (hPort : c :: digits <:+ whole)
    (hRead : readPort 0 (digits ++ rest) = .ok (n, left)) :
    ∃ taken,
      whole ++ rest = taken ++ left ∧
        ∀ d ∈ taken, endsPath d = false := by
  rcases hPort with ⟨before, rfl⟩
  rcases readPort_eq_ok _ hRead with ⟨port, hText, hDigits⟩
  refine ⟨before ++ c :: port, by simp [hText], ?_⟩
  intro d hd
  rcases List.mem_append.mp hd with hBefore | hAfter
  · exact hWhole d (List.mem_append_left _ hBefore)
  · rcases List.mem_cons.mp hAfter with rfl | hIn
    · exact
        hWhole d (List.mem_append_right _ List.mem_cons_self)
    · exact
        endsPath_of_isInert (isInert_of_isDigit (hDigits d hIn))

/-
  Of an authority, the user and the password are encoded,
  the host is read, and what is taken from the text for it
  holds no mark.
-/
theorem readAuthority_parts
    {scheme cs : List Char}
    {a : Authority}
    (h : readAuthority scheme cs = .ok a) :
    (∃ part, readUser part = (a.user, a.password)) ∧
      (∃ part,
        Host.ofSpecial part = .ok a.host ∨
          Host.ofOther part = .ok a.host) ∧
        ∃ taken,
          cs = taken ++ a.rest ∧
            ∀ c ∈ taken, endsPath c = false := by
  have hWhole :=
    endsPath_of_mem_takeWhile (isSpecial scheme) cs
  have hText :
      cs.takeWhile (!endsAuthority (isSpecial scheme) ·) ++
          cs.dropWhile (!endsAuthority (isSpecial scheme) ·) =
        cs :=
    List.takeWhile_append_dropWhile
  rcases readAuthority_eq_ok rfl rfl h with
    ⟨host, hHost, hEnd⟩
  rcases endAuthority_eq_ok hEnd with ⟨hUser, rfl, hRest⟩
  refine ⟨⟨_, hUser⟩, ?_, ?_⟩
  · split at hHost
    · exact ⟨_, Or.inl hHost⟩
    · exact ⟨_, Or.inr hHost⟩
  · rcases hRest with hNone | ⟨c, digits, n, hPort, hRead⟩
    · rw [hNone]
      exact ⟨_, hText.symm, hWhole⟩
    · have hSuffix :
          c :: digits <:+
            cs.takeWhile
              (!endsAuthority (isSpecial scheme) ·) := by
        rw [← hPort]
        exact
          (List.drop_suffix _ _).trans (splitUser_suffix _)
      have hTaken := taken_of_readPort hWhole hSuffix hRead
      rw [hText] at hTaken
      exact hTaken

------------------------------------------------------------
-- Queries and Fragments
------------------------------------------------------------

/- What is encoded in a query. -/
def querySet
    (special : Bool) : Char → Bool :=
  if special then
    Percent.specialQuerySet
  else
    Percent.querySet

/- Escapes stay in queries and fragments. -/
theorem not_mem_of_escape
    (special : Bool) :
    ∀ c ∈ Percent.escapeChars,
      querySet special c = false ∧
        Percent.fragmentSet c = false := by
  have hAll :
      Percent.escapeChars.all
          (fun c =>
            !querySet special c && !Percent.fragmentSet c) =
        true := by
    cases special
    · decide
    · decide
  intro c hc
  simpa using List.all_eq_true.mp hAll c hc

/- The query of a text: from the first mark to the last. -/
def queryText?
    (cs : List Char) : Option (List Char) :=
  match cs.dropWhile (!endsPath ·) with
  | '?' :: rest => some (rest.takeWhile (· ≠ '#'))
  | _ => none

/- The fragment of a text: what follows a number sign. -/
def fragmentText?
    (cs : List Char) : Option (List Char) :=
  match cs.dropWhile (· ≠ '#') with
  | [] => none
  | _ :: rest => some rest

/- A mark comes first of what is not dropped before marks. -/
theorem eq_mark_of_dropWhile
    {cs rest : List Char}
    {c : Char}
    (h : cs.dropWhile (!endsPath ·) = c :: rest) :
    c = '?' ∨ c = '#' := by
  have hMark :=
    List.head_dropWhile_not (!endsPath ·) (l := cs)
      (by simp [h])
  have hFirst : endsPath c = true := by simpa [h] using hMark
  simpa [endsPath] using hFirst

/- What is taken before the marks does not move them. -/
theorem dropWhile_taken
    {taken : List Char}
    (h : ∀ c ∈ taken, endsPath c = false)
    (cs : List Char) :
    (taken ++ cs).dropWhile (!endsPath ·) =
      cs.dropWhile (!endsPath ·) := by
  apply List.dropWhile_append_of_pos
  intro c hc
  rw [h c hc]
  rfl

/- The fragment of a text is that of its end. -/
theorem fragmentText?_dropWhile
    (cs : List Char) :
    fragmentText? (cs.dropWhile (!endsPath ·)) =
      fragmentText? cs := by
  have hBefore :
      ∀ c ∈ cs.takeWhile (!endsPath ·),
        decide (c ≠ '#') = true := by
    intro c hc
    have hIn := List.mem_takeWhile_imp hc
    apply decide_eq_true
    rintro rfl
    exact absurd hIn (by decide)
  have hText :
      cs.takeWhile (!endsPath ·) ++
          cs.dropWhile (!endsPath ·) = cs :=
    List.takeWhile_append_dropWhile
  unfold fragmentText?
  rw [← List.dropWhile_append_of_pos hBefore, hText]

/- The end of a text is read as its query and fragment. -/
theorem readSuffix_eq
    (special : Bool)
    (cs : List Char) :
    readSuffix special (cs.dropWhile (!endsPath ·)) =
      ((queryText? cs).map
          (Percent.encodeChars (querySet special)),
        (fragmentText? cs).map
          (Percent.encodeChars Percent.fragmentSet)) := by
  rw [← fragmentText?_dropWhile]
  unfold queryText?
  cases hEnd : cs.dropWhile (!endsPath ·) with
  | nil => rfl
  | cons c rest =>
      rcases eq_mark_of_dropWhile hEnd with rfl | rfl
      · have hFragment :
            fragmentText? ('?' :: rest) =
              fragmentText? rest := by
          unfold fragmentText?
          rw [List.dropWhile_cons_of_pos (by decide)]
        rw [hFragment]
        change
          (some _,
              match rest.dropWhile (· ≠ '#') with
              | [] => none
              | _ :: ds =>
                  some
                    (Percent.encodeChars
                      Percent.fragmentSet ds)) = _
        unfold fragmentText?
        cases rest.dropWhile (· ≠ '#') <;> rfl
      · rfl

------------------------------------------------------------
-- Reading a URL
------------------------------------------------------------

/-
  How a URL is read after its scheme: what comes before the
  marks is inert, and the marks begin the rest.
-/
structure Reads
    (scheme cs : List Char)
    (u : Url) : Prop where
  named : u.scheme = scheme
  authority : ∀ c ∈ u.authorityChars, isInert c = true
  path : ∀ c ∈ u.path.chars, isInert c = true
  suffix :
    (u.query, u.fragment) =
      readSuffix (isSpecial scheme)
        (cs.dropWhile (!endsPath ·))

/- How a URL with an authority is read. -/
theorem reads_withAuthority
    {scheme cs : List Char}
    {u : Url}
    (h : withAuthority scheme cs = .ok u) :
    Reads scheme cs u := by
  unfold withAuthority at h
  cases hRead : readAuthority scheme cs with
  | error =>
      rw [hRead] at h
      cases h
  | ok a =>
      rw [hRead] at h
      cases h
      rcases readAuthority_parts hRead with
        ⟨⟨_, hUser⟩, ⟨part, hHost⟩, taken, hText, hTaken⟩
      rcases isInert_of_readUser hUser with
        ⟨hName, hPassword⟩
      refine ⟨rfl, ?_, ?_, ?_⟩
      · apply isInert_of_mem_authorityChars hName hPassword
        rintro host ⟨⟩
        rcases hHost with hSpecial | hOther
        · exact isInert_of_ofSpecial hSpecial
        · exact isInert_of_ofOther hOther
      · exact (AllInert.readPath _ _ _).chars
      · rw [hText, dropWhile_taken hTaken]
        rfl

/- The URL of a local file, with its host and what follows. -/
def fileUrl
    (host : Host)
    (rest : List Char) : Url :=
  let segments :=
    readPath true true (rest.takeWhile (!endsPath ·))
  let suffix :=
    readSuffix true (rest.dropWhile (!endsPath ·))
  { scheme := fileScheme
    user := []
    password := []
    host :=
      some (if segments.head?.any isDrive then .empty else host)
    port := none
    path := .segments (singleRoot segments)
    query := suffix.1
    fragment := suffix.2 }

/- Of a local file, the host is read, if it has one. -/
theorem ofFile_eq_ok
    {cs : List Char}
    {u : Url}
    (h : ofFile cs = .ok u) :
    ∃ host taken rest,
      u = fileUrl host rest ∧
        (∀ c ∈ host.chars, isInert c = true) ∧
          cs = taken ++ rest ∧
            ∀ c ∈ taken, endsPath c = false := by
  have hEmpty :
      ∀ c ∈ Host.empty.chars, isInert c = true := by
    simp [Host.chars]
  unfold ofFile at h
  simp only [bind, Except.bind, pure, Except.pure] at h
  split at h
  next a b rest =>
    split at h
    next hSlashes =>
      rcases Bool.and_eq_true_iff.mp hSlashes with ⟨hA, hB⟩
      have hFirst := endsPath_of_isSlash hA
      have hSecond := endsPath_of_isSlash hB
      split at h
      · cases h
        exact
          ⟨.empty, [a, b], rest, rfl, hEmpty, rfl,
            by simp [hFirst, hSecond]⟩
      · split at h
        · cases h
        next host hHost =>
          cases h
          refine
            ⟨host,
              a :: b :: rest.takeWhile (!endsAuthority true ·),
              _, rfl, isInert_of_fileHost hHost, ?_, ?_⟩
          · simp
          · simp only [List.forall_mem_cons]
            exact
              ⟨hFirst, hSecond,
                endsPath_of_mem_takeWhile true rest⟩
    next =>
      cases h
      exact ⟨.empty, [], _, rfl, hEmpty, rfl, by simp⟩
  next =>
    cases h
    exact ⟨.empty, [], _, rfl, hEmpty, rfl, by simp⟩

/- How the URL of a local file is read. -/
theorem reads_ofFile
    {cs : List Char}
    {u : Url}
    (h : ofFile cs = .ok u) :
    Reads fileScheme cs u := by
  rcases ofFile_eq_ok h with
    ⟨host, taken, rest, rfl, hHost, rfl, hTaken⟩
  refine ⟨rfl, ?_, ?_, ?_⟩
  · apply isInert_of_mem_authorityChars
    · simp [fileUrl]
    · simp [fileUrl]
    · rintro h' ⟨⟩
      split
      · simp [Host.chars]
      · exact hHost
  · exact (AllInert.readPath _ _ _).singleRoot.chars
  · rw [dropWhile_taken hTaken]
    rfl

/- How a URL without an authority is read. -/
theorem reads_withoutAuthority
    {scheme cs : List Char}
    (hOther : isSpecial scheme = false) :
    Reads scheme cs (withoutAuthority scheme cs) := by
  refine ⟨rfl, ?_, ?_, ?_⟩
  · apply isInert_of_mem_authorityChars
    · simp [withoutAuthority]
    · simp [withoutAuthority]
    · simp [withoutAuthority]
  · unfold withoutAuthority
    dsimp only
    split
    · exact
        (AllInert.readSegments false false _ AllInert.nil
          (by simp)).chars
    · apply isInert_of_undivided
      intro c hc
      simpa using List.mem_takeWhile_imp hc
  · rw [hOther]
    rfl

/- What is taken before a text is read moves no mark. -/
theorem Reads.of_taken
    {scheme taken cs : List Char}
    {u : Url}
    (h : Reads scheme cs u)
    (hTaken : ∀ c ∈ taken, endsPath c = false) :
    Reads scheme (taken ++ cs) u := by
  refine ⟨h.named, h.authority, h.path, ?_⟩
  rw [dropWhile_taken hTaken]
  exact h.suffix

/- How the URL of a text is read. -/
theorem reads_of_parse
    {s : String}
    {u : Url}
    (h : parse s = .ok u) :
    (∃ rest, scheme? (clean s.toList) = some (u.scheme, rest)) ∧
      Reads u.scheme (clean s.toList) u := by
  unfold parse ofChars at h
  split at h
  · cases h
  next scheme rest hScheme =>
    have hRead : Reads scheme rest u := by
      split at h
      next hFile =>
        rw [hFile]
        exact reads_ofFile h
      next =>
        split at h
        next =>
          rw [← rest.takeWhile_append_dropWhile]
          apply (reads_withAuthority h).of_taken
          intro c hc
          exact endsPath_of_isSlash (List.mem_takeWhile_imp hc)
        next hOther =>
          split at h
          next rest' =>
            have hSlashes :
                ∀ c ∈ ['/', '/'], endsPath c = false := by
              simp [endsPath]
            exact (reads_withAuthority h).of_taken hSlashes
          next =>
            cases h
            exact
              reads_withoutAuthority
                (Bool.eq_false_iff.mpr hOther)
    rcases scheme?_eq_some hScheme with
      ⟨_, taken, hText, hTaken⟩
    rw [← hRead.named] at hScheme hRead
    refine ⟨⟨rest, hScheme⟩, ?_⟩
    rw [hText]
    exact
      hRead.of_taken
        (fun c hc => endsPath_of_isInert (hTaken c hc))

end Url

end Gatehouse
