import Gatehouse.Proofs.Decimal.Natural
import Gatehouse.Proofs.Url.Form
import Gatehouse.Url.Parser

/-
  What is read of a URL before its marks is inert.

  A question mark begins the query of a URL and a number
  sign its fragment.  Neither stands in a scheme, a user
  name, a host or a path that was read, and nothing that is
  passed over stands there.

  Key definitions include:
    * `Percent.escapeChars`
    * `Url.isInert`
    * `Url.IsScheme`
    * `Url.AllInert`

  Main results include:
    * `Percent.forall_encodeChars`
    * `Url.IsScheme.scheme?_append`
    * `Url.isInert_of_ofSpecial`
    * `Url.isInert_of_mem_authorityChars`
    * `Url.AllInert.readPath`
-/

namespace Gatehouse

------------------------------------------------------------
-- Encoded Characters
------------------------------------------------------------

namespace Percent

/- The characters of escapes. -/
def escapeChars : List Char :=
  '%' :: "0123456789ABCDEF".toList

/- An escape is made of its characters. -/
theorem mem_escapeChars
    (b : UInt8) :
    ∀ c ∈ encodeOctet b, c ∈ escapeChars := by
  have hAll :=
    Form.forall_octet
      (fun b =>
        (encodeOctet b).all (· ∈ escapeChars) = true)
      (by decide +kernel) b
  intro c hc
  exact of_decide_eq_true (List.all_eq_true.mp hAll c hc)

/- An encoded character is in an escape or stays. -/
theorem forall_encodeChars
    {P : Char → Prop}
    {set : Char → Bool}
    {cs : List Char}
    (hEscape : ∀ c ∈ escapeChars, P c)
    (hKept : ∀ c ∈ cs, set c = false → P c) :
    ∀ c ∈ encodeChars set cs, P c := by
  intro c hc
  rcases List.mem_flatMap.mp hc with ⟨d, hd, hIn⟩
  unfold encodeChar at hIn
  split at hIn
  · rcases List.mem_flatMap.mp hIn with ⟨b, _, hOctet⟩
    exact hEscape c (mem_escapeChars b c hOctet)
  next hOut =>
    rw [List.mem_singleton.mp hIn]
    exact hKept d hd (Bool.eq_false_iff.mpr hOut)

/- What is encoded already stays. -/
theorem encodeChars_eq_self
    {set : Char → Bool}
    {cs : List Char}
    (h : ∀ c ∈ cs, set c = false) :
    encodeChars set cs = cs := by
  induction cs with
  | nil => rfl
  | cons c cs ih =>
      rcases List.forall_mem_cons.mp h with ⟨hFirst, hRest⟩
      unfold encodeChars encodeChar at ih ⊢
      rw [List.flatMap_cons, ih hRest, hFirst]
      rfl

end Percent

namespace Url

------------------------------------------------------------
-- Inert Characters
------------------------------------------------------------

/- Does the character neither end a path nor go unread? -/
def isInert
    (c : Char) : Bool :=
  !endsPath c && !isPassedOver c

/- What passes a test that five characters fail is inert. -/
theorem isInert_of_test
    (test : Char → Bool)
    (hFail : ['?', '#', '\t', '\n', '\r'].any test = false)
    {c : Char}
    (h : test c = true) :
    isInert c = true := by
  simp only [List.any_cons, Bool.or_eq_false_iff] at hFail
  rcases hFail with
    ⟨hQuery, hNumber, hTab, hLine, hReturn, _⟩
  simp only [isInert, endsPath, isPassedOver, Bool.and_eq_true,
    Bool.not_eq_true', Bool.or_eq_false_iff,
    decide_eq_false_iff_not]
  refine ⟨⟨?_, ?_⟩, ⟨?_, ?_⟩, ?_⟩
  · rintro rfl
    rw [hQuery] at h
    cases h
  · rintro rfl
    rw [hNumber] at h
    cases h
  · rintro rfl
    rw [hTab] at h
    cases h
  · rintro rfl
    rw [hLine] at h
    cases h
  · rintro rfl
    rw [hReturn] at h
    cases h

/- Inert characters end no path. -/
theorem endsPath_of_isInert
    {c : Char}
    (h : isInert c = true) :
    endsPath c = false := by
  simp only [isInert, Bool.and_eq_true, Bool.not_eq_true'] at h
  exact h.1

/- Escapes are inert. -/
theorem isInert_of_escape :
    ∀ c ∈ Percent.escapeChars, isInert c = true :=
  List.all_eq_true.mp (by decide)

/- Digits are inert. -/
theorem isInert_of_isDigit
    {c : Char}
    (h : Decimal.isDigit c = true) :
    isInert c = true :=
  isInert_of_test Decimal.isDigit (by decide) h

/- What stays in a path is inert. -/
theorem isInert_of_pathSet
    {c : Char}
    (h : Percent.pathSet c = false) :
    isInert c = true :=
  isInert_of_test (fun d => !Percent.pathSet d) (by decide)
    (by simp [h])

/- What stays in a user name stays in a path. -/
theorem pathSet_of_userSet
    {c : Char}
    (h : Percent.userSet c = false) :
    Percent.pathSet c = false := by
  simp only [Percent.userSet, Bool.or_eq_false_iff] at h
  exact h.1.1.1.1.1.1.1.1.1.1

------------------------------------------------------------
-- Schemes
------------------------------------------------------------

/- Is the text a scheme in lower case? -/
structure IsScheme
    (s : List Char) : Prop where
  begins : ∃ c cs, s = c :: cs ∧ isLetter c = true
  plain :
    ∀ c ∈ s, isSchemeChar c = true ∧ c.toLower = c

/- The characters of schemes are in ASCII. -/
theorem lt_of_isSchemeChar
    {c : Char}
    (h : isSchemeChar c = true) :
    c.toNat < 0x80 := by
  simp only [isSchemeChar, isLetter, Decimal.isDigit,
    Bool.or_eq_true, Bool.and_eq_true, decide_eq_true_eq] at h
  rcases h with ((((⟨_, _⟩ | ⟨_, _⟩) | ⟨_, _⟩) | rfl) | rfl) |
    rfl
  · omega
  · omega
  · omega
  · decide
  · decide
  · decide

/- What holds of each character of schemes can be tested. -/
theorem forall_of_isSchemeChar
    (P : Char → Prop)
    (hAll :
      ∀ n < 0x80,
        isSchemeChar (Char.ofNat n) = true →
          P (Char.ofNat n))
    {c : Char}
    (h : isSchemeChar c = true) :
    P c := by
  have hNamed := hAll c.toNat (lt_of_isSchemeChar h)
  rw [Char.ofNat_toNat] at hNamed
  exact hNamed h

/- A scheme is inert, and no character of it is outer. -/
theorem isInert_of_isSchemeChar
    {c : Char}
    (h : isSchemeChar c = true) :
    isInert c = true ∧ isOuter c = false :=
  forall_of_isSchemeChar
    (fun d => isInert d = true ∧ isOuter d = false)
    (by decide +kernel) h

/- A character of schemes in lower case is one of them. -/
theorem isSchemeChar_toLower
    {c : Char}
    (h : isSchemeChar c = true) :
    isSchemeChar c.toLower = true ∧
      c.toLower.toLower = c.toLower :=
  forall_of_isSchemeChar
    (fun d =>
      isSchemeChar d.toLower = true ∧
        d.toLower.toLower = d.toLower)
    (by decide +kernel) h

/- A letter in lower case is a letter. -/
theorem isLetter_toLower
    {c : Char}
    (h : isLetter c = true) :
    isLetter c.toLower = true := by
  have hScheme : isSchemeChar c = true := by
    simp [isSchemeChar, h]
  exact
    forall_of_isSchemeChar
      (fun d =>
        isLetter d = true → isLetter d.toLower = true)
      (by decide +kernel) hScheme h

/-
  A text with a scheme begins with it, in some case, and its
  colon; neither holds a mark.
-/
theorem scheme?_eq_some
    {cs scheme rest : List Char}
    (h : scheme? cs = some (scheme, rest)) :
    IsScheme scheme ∧
      ∃ taken,
        cs = taken ++ rest ∧
          ∀ c ∈ taken, isInert c = true := by
  unfold scheme? at h
  dsimp only at h
  split at h
  next c rest' hHead hDrop =>
    split at h
    next hLetter =>
      cases h
      have hName :
          ∀ d ∈ cs.takeWhile isSchemeChar,
            isSchemeChar d = true :=
        fun d hd => List.mem_takeWhile_imp hd
      have hText :
          cs = cs.takeWhile isSchemeChar ++ ':' :: rest := by
        rw [← hDrop, List.takeWhile_append_dropWhile]
      refine ⟨⟨?_, ?_⟩, ?_⟩
      · rcases List.head?_eq_some_iff.mp hHead with
          ⟨ds, rfl⟩
        have hFirst : isSchemeChar c = true := by
          simp [isSchemeChar, hLetter]
        rw [List.takeWhile_cons_of_pos hFirst, List.map_cons]
        exact ⟨_, _, rfl, isLetter_toLower hLetter⟩
      · intro d hd
        rcases List.mem_map.mp hd with ⟨e, he, rfl⟩
        exact isSchemeChar_toLower (hName e he)
      · refine
          ⟨cs.takeWhile isSchemeChar ++ [':'], by simpa, ?_⟩
        intro d hd
        rcases List.mem_append.mp hd with hIn | hColon
        · exact (isInert_of_isSchemeChar (hName d hIn)).1
        · rw [List.mem_singleton.mp hColon]
          decide
    next => cases h
  next => cases h

/- A scheme is read as itself. -/
theorem IsScheme.scheme?_append
    {scheme : List Char}
    (h : IsScheme scheme)
    (rest : List Char) :
    scheme? (scheme ++ ':' :: rest) = some (scheme, rest) := by
  have hIn : ∀ c ∈ scheme, isSchemeChar c = true :=
    fun c hc => (h.plain c hc).1
  have hLower : scheme.map Char.toLower = scheme := by
    rw [List.map_congr_left (g := id)
      (fun c hc => (h.plain c hc).2), List.map_id]
  have hTake :
      (scheme ++ ':' :: rest).takeWhile isSchemeChar =
        scheme := by
    rw [List.takeWhile_append_of_pos hIn,
      List.takeWhile_cons_of_neg (by decide), List.append_nil]
  have hDrop :
      (scheme ++ ':' :: rest).dropWhile isSchemeChar =
        ':' :: rest := by
    rw [List.dropWhile_append_of_pos hIn,
      List.dropWhile_cons_of_neg (by decide)]
  rcases h.begins with ⟨c, cs, hFirst, hLetter⟩
  have hHead :
      (scheme ++ ':' :: rest).head? = some c := by
    rw [hFirst]
    rfl
  unfold scheme?
  simp only [hTake, hDrop, hLower, hHead, hLetter, if_true]

------------------------------------------------------------
-- Hosts
------------------------------------------------------------

/- What may stand in a host is inert. -/
theorem isInert_of_not_isDelimiter
    {c : Char}
    (h : Host.isDelimiter c = false) :
    isInert c = true :=
  isInert_of_test (fun d => !Host.isDelimiter d) (by decide)
    (by simp [h])

/- Digits in base sixteen are inert. -/
theorem isInert_of_mem_toDigits
    (n : Nat) :
    ∀ c ∈ Nat.toDigits 16 n, isInert c = true := by
  have hDigit :
      ∀ d < 16, isInert (Nat.digitChar d) = true := by
    decide
  induction n using Nat.strongRecOn with
  | ind n ih =>
      intro c hc
      rw [Nat.toDigits_eq_if (by decide)] at hc
      split at hc
      next hSmall =>
        rw [List.mem_singleton.mp hc]
        exact hDigit n hSmall
      next hLarge =>
        rcases List.mem_append.mp hc with hHigh | hLow
        · exact ih (n / 16) (by omega) c hHigh
        · rw [List.mem_singleton.mp hLow]
          exact hDigit (n % 16) (Nat.mod_lt n (by decide))

/- Groups between colons are inert. -/
theorem isInert_of_mem_writeGroups
    (gs : List Nat) :
    ∀ c ∈ Ip.writeGroups gs, isInert c = true := by
  intro c hc
  fun_induction Ip.writeGroups gs with
  | case1 => exact absurd hc List.not_mem_nil
  | case2 g => exact isInert_of_mem_toDigits g c hc
  | case3 g gs hMore ih =>
      rcases List.mem_append.mp hc with hFirst | hLater
      · exact isInert_of_mem_toDigits g c hFirst
      · rcases List.mem_cons.mp hLater with rfl | hIn
        · decide
        · exact ih hIn

/- An address of version 6 is inert. -/
theorem isInert_of_mem_writeV6
    (a : Ip.V6) :
    ∀ c ∈ a.write, isInert c = true := by
  intro c hc
  unfold Ip.V6.write at hc
  dsimp only at hc
  split at hc
  · exact isInert_of_mem_writeGroups _ c hc
  · rcases List.mem_append.mp hc with hBefore | hAfter
    · exact isInert_of_mem_writeGroups _ c hBefore
    · rcases List.mem_cons.mp hAfter with rfl | hAfter
      · decide
      · rcases List.mem_cons.mp hAfter with rfl | hIn
        · decide
        · exact isInert_of_mem_writeGroups _ c hIn

/- An address of version 4 is inert. -/
theorem isInert_of_mem_writeV4
    (n : Nat) :
    ∀ c ∈ Ip.writeV4 n, isInert c = true := by
  have hDigits :
      ∀ m, ∀ c ∈ Decimal.digits m, isInert c = true :=
    fun m c hc =>
      isInert_of_isDigit (Decimal.isDigit_of_mem_digits hc)
  intro c hc
  simp only [Ip.writeV4, Ip.octetsV4, List.map_cons,
    List.map_nil, List.mem_append, List.mem_cons] at hc
  rcases hc with
    ((hIn | rfl | hIn) | rfl | hIn) | rfl | hIn
  · exact hDigits _ c hIn
  · decide
  · exact hDigits _ c hIn
  · decide
  · exact hDigits _ c hIn
  · decide
  · exact hDigits _ c hIn

/- An address in brackets is inert. -/
theorem isInert_of_bracketed?
    {cs : List Char}
    {h : Host}
    (hHost : Host.bracketed? cs = .ok h) :
    ∀ c ∈ h.chars, isInert c = true := by
  unfold Host.bracketed? at hHost
  split at hHost
  · split at hHost
    next a hAddress =>
      cases hHost
      intro c hc
      rcases List.mem_cons.mp hc with rfl | hLater
      · decide
      · rcases List.mem_append.mp hLater with hIn | hLast
        · exact isInert_of_mem_writeV6 a c hIn
        · rw [List.mem_singleton.mp hLast]
          decide
    next => cases hHost
  · cases hHost

/- Nothing in a name is forbidden there. -/
theorem not_forbidden_of_nameOf?
    {cs ascii : List Char}
    (h : Host.nameOf? cs = some ascii) :
    ascii.any Host.isForbidden = false := by
  unfold Host.nameOf? at h
  split at h
  · cases h
  · split at h
    · cases h
    · split at h
      · cases h
      next hNone =>
        rw [← Option.some.inj h]
        exact Bool.eq_false_iff.mpr hNone

/- The host of a special scheme is inert. -/
theorem isInert_of_ofSpecial
    {cs : List Char}
    {h : Host}
    (hHost : Host.ofSpecial cs = .ok h) :
    ∀ c ∈ h.chars, isInert c = true := by
  unfold Host.ofSpecial at hHost
  split at hHost
  · exact isInert_of_bracketed? hHost
  · split at hHost
    · cases hHost
    · cases hHost
    next ascii _ hName =>
      dsimp only at hHost
      split at hHost
      · split at hHost
        · cases hHost
          exact isInert_of_mem_writeV4 _
        · cases hHost
      · cases hHost
        intro c hc
        apply isInert_of_not_isDelimiter
        have hAllowed :=
          List.any_eq_false.mp (not_forbidden_of_nameOf? hName)
            c hc
        simp only [Host.isForbidden, Bool.or_eq_true, not_or,
          Bool.not_eq_true] at hAllowed
        exact hAllowed.1.1.1

/- The host of any other scheme is inert. -/
theorem isInert_of_ofOther
    {cs : List Char}
    {h : Host}
    (hHost : Host.ofOther cs = .ok h) :
    ∀ c ∈ h.chars, isInert c = true := by
  unfold Host.ofOther at hHost
  split at hHost
  · exact isInert_of_bracketed? hHost
  · cases hHost
    intro c hc
    exact absurd hc List.not_mem_nil
  · split at hHost
    · cases hHost
    next hNone =>
      cases hHost
      apply Percent.forall_encodeChars isInert_of_escape
      intro c hc _
      apply isInert_of_not_isDelimiter
      rw [Bool.not_eq_true, List.any_eq_false] at hNone
      exact Bool.eq_false_iff.mpr (hNone c hc)

/- The host of a local file is inert. -/
theorem isInert_of_fileHost
    {cs : List Char}
    {h : Host}
    (hHost : fileHost cs = .ok h) :
    ∀ c ∈ h.chars, isInert c = true := by
  unfold fileHost at hHost
  split at hHost
  · cases hHost
    intro c hc
    exact absurd hc List.not_mem_nil
  · cases hRead : Host.ofSpecial cs with
    | error =>
        rw [hRead] at hHost
        cases hHost
    | ok host =>
        rw [hRead] at hHost
        simp only [bind, Except.bind, pure, Except.pure]
          at hHost
        split at hHost
        · cases hHost
          intro c hc
          exact absurd hc List.not_mem_nil
        · cases hHost
          exact isInert_of_ofSpecial hRead

------------------------------------------------------------
-- Authorities
------------------------------------------------------------

/- The name that is read before a host is inert. -/
theorem isInert_of_readUser
    {part user password : List Char}
    (h : readUser part = (user, password)) :
    (∀ c ∈ user, isInert c = true) ∧
      ∀ c ∈ password, isInert c = true := by
  have hEncoded :
      ∀ cs,
        ∀ c ∈ Percent.encodeChars Percent.userSet cs,
          isInert c = true :=
    fun cs =>
      Percent.forall_encodeChars isInert_of_escape
        (fun _ _ hKept =>
          isInert_of_pathSet (pathSet_of_userSet hKept))
  cases h
  exact ⟨hEncoded _, hEncoded _⟩

/- A written authority is inert if its parts are. -/
theorem isInert_of_mem_authorityChars
    {u : Url}
    (hUser : ∀ c ∈ u.user, isInert c = true)
    (hPassword : ∀ c ∈ u.password, isInert c = true)
    (hHost :
      ∀ h, u.host = some h →
        ∀ c ∈ h.chars, isInert c = true) :
    ∀ c ∈ u.authorityChars, isInert c = true := by
  have hMarks :
      ∀ c ∈ [':', '@', '/', '.'], isInert c = true :=
    List.all_eq_true.mp (by decide)
  simp only [List.forall_mem_cons] at hMarks
  rcases hMarks with ⟨hColon, hAt, hSlash, hDot, _⟩
  have hNamed : ∀ c ∈ u.userChars, isInert c = true := by
    unfold userChars
    split
    · simp
    · split
      · simp only [List.forall_mem_append,
          List.forall_mem_singleton]
        exact ⟨hUser, hAt⟩
      · simp only [List.forall_mem_append,
          List.forall_mem_cons]
        exact
          ⟨⟨hUser, hColon, hPassword⟩, hAt, by simp⟩
  have hPort : ∀ c ∈ u.portChars, isInert c = true := by
    unfold portChars
    split
    · simp
    · rw [List.forall_mem_cons]
      refine ⟨hColon, ?_⟩
      intro c hc
      exact
        isInert_of_isDigit (Decimal.isDigit_of_mem_digits hc)
  unfold authorityChars
  split
  next h hSome =>
    simp only [List.forall_mem_cons, List.forall_mem_append]
    exact ⟨⟨⟨hSlash, hSlash, hNamed⟩, hHost h hSome⟩, hPort⟩
  next =>
    split
    · simp only [List.forall_mem_cons]
      exact ⟨hSlash, hDot, by simp⟩
    · simp

------------------------------------------------------------
-- Paths
------------------------------------------------------------

/- Are all characters of all segments inert? -/
def AllInert
    (ss : List (List Char)) : Prop :=
  ∀ s ∈ ss, ∀ c ∈ s, isInert c = true

namespace AllInert

variable {file : Bool}
variable {ss : List (List Char)}
variable {s : List Char}

/- No segments are inert. -/
theorem nil :
    AllInert [] := by
  intro s hs
  exact absurd hs List.not_mem_nil

/- An inert segment after inert ones. -/
theorem append_singleton
    (h : AllInert ss)
    (hs : ∀ c ∈ s, isInert c = true) :
    AllInert (ss ++ [s]) := by
  intro t ht
  rcases List.mem_append.mp ht with hOld | hNew
  · exact h t hOld
  · rw [List.mem_singleton.mp hNew]
    exact hs

/- An empty segment after inert ones. -/
theorem append_empty
    (h : AllInert ss) :
    AllInert (ss ++ [[]]) := by
  apply h.append_singleton
  intro c hc
  exact absurd hc List.not_mem_nil

/- Segments that are dropped matter no more. -/
theorem shorten
    (h : AllInert ss) :
    AllInert (Url.shorten file ss) := by
  unfold Url.shorten
  split
  · split
    · exact h
    · exact nil
  · intro t ht
    exact h t ((List.dropLast_sublist ss).mem ht)

/- An inert segment is appended to inert ones. -/
theorem appendSegment
    (h : AllInert ss)
    (hs : ∀ c ∈ s, isInert c = true)
    (more : Bool) :
    AllInert (Url.appendSegment file more ss s) := by
  unfold Url.appendSegment
  split
  · dsimp only
    split
    · exact h.shorten
    · exact h.shorten.append_empty
  · split
    · split
      · exact h
      · exact h.append_empty
    · split
      · apply nil.append_singleton
        intro c hc
        rcases List.mem_append.mp hc with hLetter | hColon
        · exact hs c (List.mem_of_mem_take hLetter)
        · rw [List.mem_singleton.mp hColon]
          decide
      · exact h.append_singleton hs

/- Segments that are read are inert. -/
theorem readSegments
    (special file : Bool)
    (cs : List Char) :
    ∀ {ss : List (List Char)} {s : List Char},
      AllInert ss →
        (∀ c ∈ s, isInert c = true) →
          AllInert
            (Url.readSegments special file ss s cs) := by
  induction cs with
  | nil => exact fun h hs => h.appendSegment hs false
  | cons c cs ih =>
      intro ss s h hs
      unfold Url.readSegments
      split
      · apply ih (h.appendSegment hs true)
        intro d hd
        exact absurd hd List.not_mem_nil
      · apply ih h
        intro d hd
        rcases List.mem_append.mp hd with hOld | hNew
        · exact hs d hOld
        · have hEncoded :
              ∀ e ∈ Percent.encodeChars Percent.pathSet [c],
                isInert e = true :=
            Percent.forall_encodeChars isInert_of_escape
              (fun _ _ hKept => isInert_of_pathSet hKept)
          apply hEncoded
          unfold Percent.encodeChars
          rw [List.flatMap_singleton]
          exact hNew

/- A path that is read is inert. -/
theorem readPath
    (special file : Bool)
    (cs : List Char) :
    AllInert (Url.readPath special file cs) := by
  have hRead :=
    fun ds : List Char =>
      readSegments special file ds nil
        (fun c hc => absurd hc List.not_mem_nil)
  unfold Url.readPath
  split
  · split
    · exact append_empty nil
    · exact nil
  · split
    · exact hRead _
    · exact hRead _

/- The path of a file loses empty segments only. -/
theorem singleRoot
    (h : AllInert ss) :
    AllInert (Url.singleRoot ss) := by
  unfold Url.singleRoot
  split
  · exact append_empty nil
  next kept hKept =>
    intro t ht
    exact h t ((List.dropWhile_sublist _).mem ht)

/- The text of inert segments is inert. -/
theorem chars
    (h : AllInert ss) :
    ∀ c ∈ (Path.segments ss).chars, isInert c = true := by
  intro c hc
  rcases List.mem_flatMap.mp hc with ⟨s, hs, hIn⟩
  rcases List.mem_cons.mp hIn with rfl | hLater
  · decide
  · exact h s hs c hLater

end AllInert

/- A path that is not divided is inert. -/
theorem isInert_of_undivided
    {cs : List Char}
    (h : ∀ c ∈ cs, endsPath c = false) :
    ∀ c ∈ (Path.undivided
        (Percent.encodeChars Percent.controlSet cs)).chars,
      isInert c = true := by
  apply Percent.forall_encodeChars isInert_of_escape
  intro c hc hKept
  have hNotPassed : isPassedOver c = false := by
    rw [← Bool.not_eq_true]
    intro hPassed
    simp only [isPassedOver, Bool.or_eq_true,
      decide_eq_true_eq] at hPassed
    rcases hPassed with (rfl | rfl) | rfl <;>
      exact absurd hKept (by decide)
  simp only [isInert, h c hc, hNotPassed, Bool.not_false,
    Bool.and_self]

end Url

end Gatehouse
