import Gatehouse.Proofs.Url.PlainName
import Gatehouse.Url.Parser
import Mathlib.Data.List.TakeWhile

/-
  Where the host of a URL is read.

  After a special scheme and its slashes stands the
  authority.  Its host is what follows the last at sign, up
  to a colon.  A plain name that nothing but a port follows
  is read whole.

  Key definitions include:
    * `Url.hostText`
    * `Url.EndsHost`
    * `Url.endAuthority`
    * `Url.pageSchemes`

  Main results include:
    * `Url.clean_append`
    * `Url.hostText_append`
    * `Url.readAuthority_eq_ok`
    * `Url.ofSpecial_hostText_of_parse`
    * `Url.parse_of_plainName`
-/

namespace Gatehouse

namespace Url

------------------------------------------------------------
-- What Counts
------------------------------------------------------------

/- What is passed over within a text is outer at its ends. -/
theorem isOuter_of_isPassedOver
    {c : Char}
    (h : isPassedOver c = true) :
    isOuter c = true := by
  simp only [isPassedOver, Bool.or_eq_true,
    decide_eq_true_eq] at h
  rcases h with (hTab | hLine) | hReturn
  · rw [hTab]
    rfl
  · rw [hLine]
    rfl
  · rw [hReturn]
    rfl

section Beginnings

variable {cs : List Char}
variable (hInner : ∀ c ∈ cs, ¬isOuter c = true)
include hInner

/- A beginning that is not outer stays at the front. -/
theorem dropWhile_isOuter_append
    (hSome : cs ≠ [])
    (rest : List Char) :
    (cs ++ rest).dropWhile isOuter = cs ++ rest := by
  cases cs with
  | nil => exact absurd rfl hSome
  | cons c cs =>
      rw [List.cons_append,
        List.dropWhile_cons_of_neg
          (hInner c List.mem_cons_self)]

/- From the back, only what follows the beginning goes. -/
theorem reverse_dropWhile_isOuter_append
    (rest : List Char) :
    ((cs ++ rest).reverse.dropWhile isOuter).reverse =
      cs ++ (rest.reverse.dropWhile isOuter).reverse := by
  have hKept :
      cs.reverse.dropWhile isOuter = cs.reverse := by
    rw [List.dropWhile_eq_self_iff]
    intro hPos
    apply hInner
    exact List.mem_reverse.mp (List.getElem_mem hPos)
  rw [List.reverse_append, List.dropWhile_append]
  split
  · rename_i hEmpty
    rw [List.isEmpty_iff.mp hEmpty, hKept]
    simp
  · simp

/- Nothing of the beginning is passed over. -/
theorem filter_isPassedOver_eq_self :
    cs.filter (!isPassedOver ·) = cs := by
  rw [List.filter_eq_self]
  intro c hc
  simp only [Bool.not_eq_true', ← Bool.not_eq_true]
  intro hPassed
  exact hInner c hc (isOuter_of_isPassedOver hPassed)

/- A beginning without blanks and controls stays. -/
theorem clean_append
    (hSome : cs ≠ [])
    (rest : List Char) :
    ∃ rest', clean (cs ++ rest) = cs ++ rest' := by
  refine
    ⟨(rest.reverse.dropWhile isOuter).reverse.filter
      (!isPassedOver ·), ?_⟩
  unfold clean
  rw [dropWhile_isOuter_append hInner hSome]
  simp only [reverse_dropWhile_isOuter_append hInner,
    List.filter_append, filter_isPassedOver_eq_self hInner]

end Beginnings

------------------------------------------------------------
-- The Text of a Host
------------------------------------------------------------

/- The text of the host in a special authority. -/
def hostText
    (cs : List Char) : List Char :=
  let whole := cs.takeWhile (!endsAuthority true ·)
  let place := (splitUser whole).2
  place.take (hostLength false place)

/- Can nothing but a port follow in the authority? -/
def EndsHost
    (rest : List Char) : Prop :=
  let more := rest.takeWhile (!endsAuthority true ·)
  '@' ∉ more ∧ (more = [] ∨ more.head? = some ':')

instance
    (rest : List Char) : Decidable (EndsHost rest) := by
  unfold EndsHost
  exact inferInstance

/- Without an at sign there is no user name. -/
theorem splitUser_of_not_mem
    {cs : List Char}
    (h : '@' ∉ cs) :
    splitUser cs = (none, cs) := by
  have hAll :
      ∀ c ∈ cs.reverse, decide (c ≠ '@') = true := by
    intro c hc
    apply decide_eq_true
    intro hSame
    rw [hSame] at hc
    exact h (List.mem_reverse.mp hc)
  have hTake :
      cs.reverse.takeWhile (· ≠ '@') = cs.reverse :=
    List.takeWhile_eq_self_iff.mpr hAll
  have hDrop :
      cs.reverse.dropWhile (· ≠ '@') = [] :=
    List.dropWhile_eq_nil_iff.mpr hAll
  unfold splitUser
  simp only [hTake, hDrop, List.reverse_reverse]

variable {name : List Char}

/- A plain name has no user name in it. -/
theorem at_not_mem_of_plain
    (h : ∀ c ∈ name, isPlain c = true) :
    '@' ∉ name := by
  intro hMem
  exact absurd (h '@' hMem) (by decide)

/- A plain name does not end the authority. -/
theorem not_endsAuthority_of_plain
    (h : ∀ c ∈ name, isPlain c = true) :
    ∀ c ∈ name, (!endsAuthority true c) = true := by
  intro c hc
  exact
    forall_of_isPlain
      (fun d => (!endsAuthority true d) = true)
      (by decide +kernel) (h c hc)

/- A plain name is part of the host that it begins. -/
theorem hostLength_append
    (h : ∀ c ∈ name, isPlain c = true)
    (rest : List Char) :
    hostLength false (name ++ rest) =
      name.length + hostLength false rest := by
  induction name with
  | nil => simp
  | cons c cs ih =>
      rcases List.forall_mem_cons.mp h with ⟨hFirst, hRest⟩
      have hNoColon : c ≠ ':' :=
        forall_of_isPlain (fun d => d ≠ ':')
          (by decide +kernel) hFirst
      have hNoBracket : c ≠ '[' :=
        forall_of_isPlain (fun d => d ≠ '[')
          (by decide +kernel) hFirst
      rw [List.cons_append, hostLength]
      simp only [hNoColon, hNoBracket, decide_false,
        Bool.false_and, Bool.false_eq_true, if_false,
        Bool.false_or, ih hRest, List.length_cons]
      omega

/- A plain name that nothing but a port follows is read. -/
theorem hostText_append
    {rest : List Char}
    (h : ∀ c ∈ name, isPlain c = true)
    (hEnds : EndsHost rest) :
    hostText (name ++ rest) = name := by
  rcases hEnds with ⟨hNoUser, hPort⟩
  have hLength :
      hostLength false
        (rest.takeWhile (!endsAuthority true ·)) = 0 := by
    rcases hPort with hNone | hColon
    · rw [hNone]
      rfl
    · rcases List.head?_eq_some_iff.mp hColon with
        ⟨digits, hMore⟩
      rw [hMore]
      rfl
  have hNoSign :
      '@' ∉ name ++
        rest.takeWhile (!endsAuthority true ·) := by
    rw [List.mem_append]
    exact not_or_intro (at_not_mem_of_plain h) hNoUser
  unfold hostText
  rw [List.takeWhile_append_of_pos
    (not_endsAuthority_of_plain h)]
  simp only [splitUser_of_not_mem hNoSign,
    hostLength_append h, hLength, Nat.add_zero,
    List.take_left']

------------------------------------------------------------
-- Reading an Authority
------------------------------------------------------------

/-
  An authority whose user, password and host are read, with
  what may be its port and what follows.
-/
def endAuthority
    (scheme : List Char)
    (named : List Char × List Char)
    (host : Host)
    (portPart rest : List Char) :
    Except Fault Authority := do
  if host = .empty && !portPart.isEmpty then
    throw .emptyHost
  let (port, rest) ←
    match portPart with
    | [] => pure (none, rest)
    | _ :: digits => do
        let (n, left) ← readPort 0 (digits ++ rest)
        let written := (digits.head?.map Decimal.isDigit)
        if written = some true &&
            defaultPort? scheme ≠ some n then
          pure (some n, left)
        else
          pure (none, left)
  if host = .empty &&
      !(named.1.isEmpty && named.2.isEmpty) then
    throw .emptyHost
  pure ⟨named.1, named.2, host, port, rest⟩

/- What is read last of an authority is its port. -/
theorem endAuthority_eq_ok
    {scheme : List Char}
    {named : List Char × List Char}
    {host : Host}
    {portPart rest : List Char}
    {a : Authority}
    (h :
      endAuthority scheme named host portPart rest = .ok a) :
    named = (a.user, a.password) ∧
      host = a.host ∧
        (a.rest = rest ∨
          ∃ c digits n,
            portPart = c :: digits ∧
              readPort 0 (digits ++ rest) =
                .ok (n, a.rest)) := by
  unfold endAuthority at h
  simp only [bind, Except.bind, pure, Except.pure, throw,
    throwThe, MonadExceptOf.throw] at h
  split at h
  · cases h
  split at h
  · split at h
    · cases h
    · cases h
      exact ⟨rfl, rfl, Or.inl rfl⟩
  next c digits _ =>
    split at h
    · cases h
    next read hRead =>
      split at h <;> split at h
      · cases h
      · cases h
        exact ⟨rfl, rfl, Or.inr ⟨c, digits, _, rfl, hRead⟩⟩
      · cases h
      · cases h
        exact ⟨rfl, rfl, Or.inr ⟨c, digits, _, rfl, hRead⟩⟩

/- The host is read between the user and the port. -/
theorem readAuthority_eq_ok
    {scheme cs whole place : List Char}
    {a : Authority}
    (hWhole :
      cs.takeWhile (!endsAuthority (isSpecial scheme) ·) =
        whole)
    (hPlace : (splitUser whole).2 = place)
    (h : readAuthority scheme cs = .ok a) :
    ∃ host,
      (if isSpecial scheme then
        Host.ofSpecial (place.take (hostLength false place))
      else
        Host.ofOther (place.take (hostLength false place))) =
          .ok host ∧
        endAuthority scheme
            (readUser ((splitUser whole).1.getD []))
            host (place.drop (hostLength false place))
            (cs.dropWhile
              (!endsAuthority (isSpecial scheme) ·)) =
          .ok a := by
  unfold readAuthority at h
  simp only [bind, Except.bind, pure, Except.pure, throw,
    throwThe, MonadExceptOf.throw, hWhole, hPlace] at h
  split at h
  · cases h
  split at h
  · cases h
  split at h
  next hSpecial =>
    rw [if_pos hSpecial]
    split at h
    · cases h
    next host hHost =>
      refine ⟨host, hHost, ?_⟩
      unfold endAuthority
      simp only [bind, Except.bind, pure, Except.pure, throw,
        throwThe, MonadExceptOf.throw]
      exact h
  next hOther =>
    rw [if_neg hOther]
    split at h
    · cases h
    next host hHost =>
      refine ⟨host, hHost, ?_⟩
      unfold endAuthority
      simp only [bind, Except.bind, pure, Except.pure, throw,
        throwThe, MonadExceptOf.throw]
      exact h

/- The host of an authority is read from its text. -/
theorem ofSpecial_hostText_of_readAuthority
    {scheme cs : List Char}
    {a : Authority}
    (hSpecial : isSpecial scheme = true)
    (h : readAuthority scheme cs = .ok a) :
    Host.ofSpecial (hostText cs) = .ok a.host := by
  rcases readAuthority_eq_ok rfl rfl h with
    ⟨host, hHost, hEnd⟩
  rcases endAuthority_eq_ok hEnd with ⟨_, rfl, _⟩
  rw [hSpecial, if_pos rfl] at hHost
  exact hHost

/- A plain name before a slash is an authority. -/
theorem readAuthority_of_plainName
    {scheme : List Char}
    (hSpecial : isSpecial scheme = true)
    (hSome : name ≠ [])
    (hPlain : ∀ c ∈ name, isPlain c = true)
    (hName :
      Host.endsInNumber (Text.fields '.' name) = false)
    (path : List Char) :
    readAuthority scheme (name ++ '/' :: path) =
      .ok ⟨[], [], .name name, none, '/' :: path⟩ := by
  have hIn := not_endsAuthority_of_plain hPlain
  have hWhole :
      (name ++ '/' :: path).takeWhile
          (!endsAuthority true ·) = name := by
    rw [List.takeWhile_append_of_pos hIn]
    simp [endsAuthority]
  have hRest :
      (name ++ '/' :: path).dropWhile
          (!endsAuthority true ·) = '/' :: path := by
    rw [List.dropWhile_append_of_pos hIn]
    simp [endsAuthority]
  have hUser :=
    splitUser_of_not_mem (at_not_mem_of_plain hPlain)
  have hLength : hostLength false name = name.length := by
    have hAppend := hostLength_append hPlain []
    simpa [hostLength] using hAppend
  have hHost := Host.ofSpecial_of_plain hSome hPlain hName
  unfold readAuthority
  simp [hSpecial, hWhole, hRest, hUser, hLength, hHost,
    hSome, readUser, Percent.encodeChars]

------------------------------------------------------------
-- Reading a Page Address
------------------------------------------------------------

/- The schemes of pages. -/
def pageSchemes : List (List Char) :=
  [['h', 't', 't', 'p'], ['h', 't', 't', 'p', 's']]

/- The schemes of pages are special. -/
theorem isSpecial_of_page
    {scheme : List Char}
    (h : scheme ∈ pageSchemes) :
    isSpecial scheme = true := by
  have hAll : ∀ s ∈ pageSchemes, isSpecial s = true := by
    decide
  exact hAll scheme h

/- A page address has an authority after two slashes. -/
theorem ofChars_eq_withAuthority
    {scheme text cs : List Char}
    {c : Char}
    (hScheme : scheme ∈ pageSchemes)
    (hStart : isSlash true c = false)
    (hText :
      clean text = scheme ++ [':', '/', '/'] ++ c :: cs) :
    ofChars text = withAuthority scheme (c :: cs) := by
  have hRead :
      scheme? (clean text) =
        some (scheme, '/' :: '/' :: c :: cs) := by
    rw [hText]
    simp only [pageSchemes, List.mem_cons, List.not_mem_nil,
      or_false] at hScheme
    rcases hScheme with rfl | rfl
    · rfl
    · rfl
  have hSlashes :
      ('/' :: '/' :: c :: cs).dropWhile (isSlash true ·) =
        c :: cs := by
    have hSlash : isSlash true '/' = true := rfl
    simp [List.dropWhile, hStart, hSlash]
  have hNoFile : scheme ≠ fileScheme := by
    have hAll : ∀ s ∈ pageSchemes, s ≠ fileScheme := by
      decide
    exact hAll scheme hScheme
  unfold ofChars
  simp only [hRead]
  rw [if_neg hNoFile, if_pos (isSpecial_of_page hScheme),
    hSlashes]

/- The host of a page address is read from its text. -/
theorem ofSpecial_hostText_of_parse
    {address : String}
    {u : Url}
    {scheme cs : List Char}
    {c : Char}
    (hScheme : scheme ∈ pageSchemes)
    (hStart : isSlash true c = false)
    (hText :
      clean address.toList =
        scheme ++ [':', '/', '/'] ++ c :: cs)
    (h : parse address = .ok u) :
    ∃ host,
      u.host = some host ∧
        Host.ofSpecial (hostText (c :: cs)) = .ok host := by
  unfold parse at h
  rw [ofChars_eq_withAuthority hScheme hStart hText] at h
  unfold withAuthority at h
  cases hRead : readAuthority scheme (c :: cs) with
  | error f =>
      rw [hRead] at h
      cases h
  | ok a =>
      rw [hRead] at h
      cases h
      have hSpecial := isSpecial_of_page hScheme
      exact
        ⟨a.host, rfl,
          ofSpecial_hostText_of_readAuthority hSpecial
            hRead⟩

/- An address that begins plainly still does when cleaned. -/
theorem exists_clean_of_plainName
    {address : String}
    {scheme path : List Char}
    (hScheme : scheme ∈ pageSchemes)
    (hPlain : ∀ c ∈ name, isPlain c = true)
    (hText :
      address.toList =
        scheme ++ [':', '/', '/'] ++ name ++ '/' :: path) :
    ∃ path',
      clean address.toList =
        scheme ++ [':', '/', '/'] ++ name ++
          '/' :: path' := by
  let start := scheme ++ [':', '/', '/'] ++ name ++ ['/']
  have hSome : start ≠ [] := by simp [start]
  have hInner : ∀ c ∈ start, ¬isOuter c = true := by
    have hSchemes :
        ∀ s ∈ pageSchemes, s.any isOuter = false := by
      decide
    have hMarks : [':', '/', '/'].any isOuter = false := by
      decide
    intro c hc
    simp only [start, List.mem_append] at hc
    rcases hc with ((hIn | hIn) | hIn) | hIn
    · have hAny := hSchemes scheme hScheme
      exact List.any_eq_false.mp hAny c hIn
    · exact List.any_eq_false.mp hMarks c hIn
    · exact
        forall_of_isPlain (fun d => ¬isOuter d = true)
          (by decide +kernel) (hPlain c hIn)
    · rw [List.mem_singleton.mp hIn]
      decide
  rcases clean_append hInner hSome path with ⟨path', hClean⟩
  refine ⟨path', ?_⟩
  rw [hText]
  simpa [start] using hClean

/- A page address with a plain name has it as its host. -/
theorem parse_of_plainName
    {address : String}
    {scheme path : List Char}
    (hScheme : scheme ∈ pageSchemes)
    (hSome : name ≠ [])
    (hPlain : ∀ c ∈ name, isPlain c = true)
    (hName :
      Host.endsInNumber (Text.fields '.' name) = false)
    (hText :
      address.toList =
        scheme ++ [':', '/', '/'] ++ name ++ '/' :: path) :
    ∃ u, parse address = .ok u ∧
      u.host = some (.name name) := by
  rcases exists_clean_of_plainName hScheme hPlain hText with
    ⟨path', hClean⟩
  have hRead :=
    readAuthority_of_plainName (isSpecial_of_page hScheme)
      hSome hPlain hName path'
  cases name with
  | nil => exact absurd rfl hSome
  | cons c cs =>
      have hNoSlash : isSlash true c = false :=
        forall_of_isPlain (fun d => isSlash true d = false)
          (by decide +kernel) (hPlain c List.mem_cons_self)
      rw [List.append_assoc, List.cons_append] at hClean
      rw [List.cons_append] at hRead
      unfold parse
      rw [ofChars_eq_withAuthority hScheme hNoSlash hClean]
      unfold withAuthority
      rw [hRead]
      exact ⟨_, rfl, rfl⟩

end Url

end Gatehouse
