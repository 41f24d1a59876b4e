import Gatehouse.Proofs.Text.Pieces
import Gatehouse.Proofs.Url.Authority
import Gatehouse.Redirect

/-
  Returning to the local machine.

  Without entries, a policy accepts what begins like an
  address of the local machine.  The address is one of the
  local machine if nothing but a port follows the name in
  the authority.  Where the name goes on, as in
  `localhost.evil.example`, the address is accepted too, and
  belongs to another host.

  Key definitions include:
    * `Redirect.localNames`
    * `Redirect.IsLocal`

  Main results include:
    * `Redirect.Policy.host_of_check`
    * `Redirect.Policy.check_of_longer_name`
    * `Redirect.Policy.check_accepts_other_hosts`
-/

namespace Gatehouse

namespace Redirect

/- The names of the local machine. -/
def localNames : List (List Char) :=
  ["localhost".toList, "127.0.0.1".toList]

/- Is the host of the URL the local machine? -/
def IsLocal
    (u : Url) : Prop :=
  ∃ host, u.host = some host ∧ host.chars ∈ localNames

------------------------------------------------------------
-- Local Names
------------------------------------------------------------

/- A local beginning is a scheme with a local name. -/
theorem exists_of_mem_localBeginnings
    {b : String}
    (h : b ∈ localBeginnings) :
    ∃ scheme ∈ Url.pageSchemes, ∃ name ∈ localNames,
      b.toList = scheme ++ [':', '/', '/'] ++ name := by
  have hAll :
      ∀ b ∈ localBeginnings,
        ∃ scheme ∈ Url.pageSchemes, ∃ name ∈ localNames,
          b.toList = scheme ++ [':', '/', '/'] ++ name := by
    decide
  exact hAll b h

/- A scheme with a local name is a local beginning. -/
theorem ofList_mem_localBeginnings
    {scheme name : List Char}
    (hScheme : scheme ∈ Url.pageSchemes)
    (hName : name ∈ localNames) :
    String.ofList (scheme ++ [':', '/', '/'] ++ name) ∈
      localBeginnings := by
  have hAll :
      ∀ scheme ∈ Url.pageSchemes, ∀ name ∈ localNames,
        String.ofList (scheme ++ [':', '/', '/'] ++ name) ∈
          localBeginnings := by
    decide
  exact hAll scheme hScheme name hName

/- The names of the local machine are plain. -/
theorem plain_of_mem_localNames
    {name : List Char}
    (h : name ∈ localNames) :
    ∀ c ∈ name, Url.isPlain c = true := by
  have hAll :
      ∀ name ∈ localNames, name.all Url.isPlain = true := by
    decide
  exact List.all_eq_true.mp (hAll name h)

/- The host of a local name has that name for its text. -/
theorem chars_of_ofSpecial
    {name : List Char}
    {host : Url.Host}
    (h : name ∈ localNames)
    (hHost : Url.Host.ofSpecial name = .ok host) :
    host.chars = name := by
  have hPlain := plain_of_mem_localNames h
  simp only [localNames, List.mem_cons, List.not_mem_nil,
    or_false] at h
  rcases h with rfl | rfl
  · rw [Url.Host.ofSpecial_of_plain (by decide) hPlain
      (by decide)] at hHost
    cases hHost
    rfl
  · have hAddress :
        Url.Host.ofSpecial "127.0.0.1".toList =
          .ok (.addressV4 0x7F000001) := by
      unfold Url.Host.ofSpecial
      simp only [Url.Host.nameOf?_of_plain hPlain]
      rfl
    rw [hAddress] at hHost
    cases hHost
    decide

/- What begins locally still does when it is cleaned. -/
theorem exists_rest_of_beginning
    {b : String}
    {text : List Char}
    (h : b ∈ localBeginnings)
    (hBegins : b.toList <+: text) :
    ∃ rest, Url.clean text = b.toList ++ rest := by
  have hSome : b.toList ≠ [] := by
    rcases exists_of_mem_localBeginnings h with
      ⟨scheme, _, name, _, hText⟩
    simp [hText]
  have hInner : b.toList.any Url.isOuter = false := by
    have hAll :
        ∀ b ∈ localBeginnings,
          b.toList.any Url.isOuter = false := by
      decide
    exact hAll b h
  rcases hBegins with ⟨tail, hTail⟩
  rw [← hTail]
  exact
    Url.clean_append (List.any_eq_false.mp hInner) hSome tail

/- The host is read from the text that a name begins. -/
theorem ofSpecial_of_localName
    {address : String}
    {u : Url}
    {scheme name rest : List Char}
    (hScheme : scheme ∈ Url.pageSchemes)
    (hName : name ∈ localNames)
    (hClean :
      Url.clean address.toList =
        scheme ++ [':', '/', '/'] ++ name ++ rest)
    (hParse : Url.parse address = .ok u) :
    ∃ host, u.host = some host ∧
      Url.Host.ofSpecial (Url.hostText (name ++ rest)) =
        .ok host := by
  cases name with
  | nil => exact absurd hName (by decide)
  | cons c cs =>
      have hPlain := plain_of_mem_localNames hName
      have hNoSlash : Url.isSlash true c = false :=
        Url.forall_of_isPlain
          (fun d => Url.isSlash true d = false)
          (by decide +kernel) (hPlain c List.mem_cons_self)
      rw [List.append_assoc, List.cons_append] at hClean
      exact
        Url.ofSpecial_hostText_of_parse hScheme hNoSlash
          hClean hParse

/- The host is local if its text ends after the name. -/
theorem isLocal_of_endsHost
    {u : Url}
    {host : Url.Host}
    {name rest : List Char}
    (hName : name ∈ localNames)
    (hHost : u.host = some host)
    (hRead :
      Url.Host.ofSpecial (Url.hostText (name ++ rest)) =
        .ok host)
    (hEnds : Url.EndsHost rest) :
    IsLocal u := by
  have hPlain := plain_of_mem_localNames hName
  rw [Url.hostText_append hPlain hEnds] at hRead
  have hChars := chars_of_ofSpecial hName hRead
  rw [← hChars] at hName
  exact ⟨host, hHost, hName⟩

------------------------------------------------------------
-- Policies without Entries
------------------------------------------------------------

/- Nothing is kept of blank entries, and only of them. -/
theorem kept_eq_nil_iff
    {entries : List String} :
    kept entries = [] ↔
      ∀ e ∈ entries, Text.isBlankText e = true := by
  unfold kept
  rw [List.filter_eq_nil_iff, List.forall_mem_map]
  simp only [Bool.not_eq_true', Bool.not_eq_false,
    String.isEmpty_iff, Text.trim_eq_empty_iff,
    Text.isBlankText, List.all_eq_true]

namespace Policy

/- Without entries, local beginnings are accepted. -/
theorem beginnings_of_blank
    {entries : List String}
    (h : ∀ e ∈ entries, Text.isBlankText e = true) :
    (ofEntries entries).beginnings = localBeginnings := by
  simp [beginnings, ofEntries, kept_eq_nil_iff.mpr h]

/- An address is admitted if it begins as is wanted. -/
theorem admits_iff
    {p : Policy}
    {address : String} :
    p.admits address = true ↔
      ∃ b ∈ p.beginnings, b.toList <+: address.toList := by
  simp only [admits, List.any_eq_true,
    List.isPrefixOf_iff_prefix]

/- What is accepted has a host, and begins as is wanted. -/
theorem check_eq_ok_iff
    {p : Policy}
    {address : String} :
    p.check address = .ok () ↔
      (∃ u, Url.parse address = .ok u ∧ u.hasHost = true) ∧
        ∃ b ∈ p.beginnings,
          b.toList <+: address.toList := by
  have hAbsolute :
      isAbsolute address = true ↔
        ∃ u, Url.parse address = .ok u ∧
          u.hasHost = true := by
    unfold isAbsolute
    cases Url.parse address with
    | error f => simp
    | ok u => simp
  have hNotEmpty :
      isAbsolute address = true →
        address.isEmpty = false := by
    intro h
    rw [Bool.eq_false_iff]
    intro hEmpty
    rw [String.isEmpty_iff.mp hEmpty] at h
    exact absurd h (by decide)
  rw [← hAbsolute, ← admits_iff]
  constructor
  · intro h
    refine ⟨?_, p.admits_of_check address h⟩
    unfold check at h
    cases hParsed : isAbsolute address with
    | true => rfl
    | false =>
        rw [hParsed] at h
        split at h
        · cases h
        · cases h
  · rintro ⟨hParsed, hAdmits⟩
    simp [check, hNotEmpty hParsed, hParsed, hAdmits]

/-
  What a policy without entries accepts begins with a scheme
  and a local name.  Its host is read from the text that the
  name begins, and is the local machine if nothing but a
  port follows the name.
-/
theorem host_of_check
    {entries : List String}
    {address : String}
    (hBlank : ∀ e ∈ entries, Text.isBlankText e = true)
    (hCheck : (ofEntries entries).check address = .ok ()) :
    ∃ u host,
      Url.parse address = .ok u ∧ u.host = some host ∧
        ∃ scheme ∈ Url.pageSchemes, ∃ name ∈ localNames,
          ∃ rest,
            Url.clean address.toList =
                scheme ++ [':', '/', '/'] ++ name ++ rest ∧
              Url.Host.ofSpecial
                  (Url.hostText (name ++ rest)) =
                .ok host ∧
              (Url.EndsHost rest → IsLocal u) := by
  rcases check_eq_ok_iff.mp hCheck with
    ⟨⟨u, hParse, _⟩, b, hBeginning, hBegins⟩
  rw [beginnings_of_blank hBlank] at hBeginning
  rcases exists_of_mem_localBeginnings hBeginning with
    ⟨scheme, hScheme, name, hName, hText⟩
  rcases exists_rest_of_beginning hBeginning hBegins with
    ⟨rest, hClean⟩
  rw [hText] at hClean
  rcases ofSpecial_of_localName hScheme hName hClean
      hParse with
    ⟨host, hHost, hRead⟩
  refine
    ⟨u, host, hParse, hHost, scheme, hScheme, name, hName,
      rest, hClean, hRead, ?_⟩
  intro hEnds
  exact isLocal_of_endsHost hName hHost hRead hEnds

/- A port after the local name leads to a local address. -/
theorem isLocal_of_port :
    (ofEntries [" ", ""]).check "http://localhost:3000/cb" =
        .ok () ∧
      ∃ u,
        Url.parse "http://localhost:3000/cb" = .ok u ∧
          IsLocal u := by
  have hBlank :
      ∀ e ∈ [" ", ""], Text.isBlankText e = true := by
    decide
  have hCheck :
      (ofEntries [" ", ""]).check "http://localhost:3000/cb" =
        .ok () := by
    rfl
  rcases host_of_check hBlank hCheck with
    ⟨u, host, hParse, hHost, scheme, hScheme, name, hName,
      rest, hClean, hRead, hLocal⟩
  have hRest : rest = ":3000/cb".toList := by
    have hWhole :
        Url.clean "http://localhost:3000/cb".toList =
          "http://localhost:3000/cb".toList := by
      decide
    rw [hWhole] at hClean
    simp only [Url.pageSchemes, localNames, List.mem_cons,
      List.not_mem_nil, or_false] at hScheme hName
    rcases hScheme with rfl | rfl
    · rcases hName with rfl | rfl
      · simpa using hClean.symm
      · simp at hClean
    · rcases hName with rfl | rfl
      · simp at hClean
      · simp at hClean
  rw [hRest] at hLocal
  exact ⟨hCheck, u, hParse, hLocal (by decide)⟩

/-
  A policy without entries also accepts what goes on after
  the local name, and the host is then what the longer name
  spells.
-/
theorem check_of_longer_name
    {entries : List String}
    {address : String}
    {scheme name more path : List Char}
    (hBlank : ∀ e ∈ entries, Text.isBlankText e = true)
    (hScheme : scheme ∈ Url.pageSchemes)
    (hLocal : name ∈ localNames)
    (hPlain : ∀ c ∈ more, Url.isPlain c = true)
    (hName :
      Url.Host.endsInNumber (Text.fields '.' (name ++ more)) =
        false)
    (hText :
      address.toList =
        scheme ++ [':', '/', '/'] ++ (name ++ more) ++
          '/' :: path) :
    (ofEntries entries).check address = .ok () ∧
      ∃ u, Url.parse address = .ok u ∧
        u.host = some (.name (name ++ more)) := by
  have hLongPlain :
      ∀ c ∈ name ++ more, Url.isPlain c = true := by
    intro c hc
    rcases List.mem_append.mp hc with hIn | hIn
    · exact plain_of_mem_localNames hLocal c hIn
    · exact hPlain c hIn
  have hSome : name ++ more ≠ [] := by
    intro hNil
    rw [(List.append_eq_nil_iff.mp hNil).1] at hLocal
    exact absurd hLocal (by decide)
  rcases Url.parse_of_plainName hScheme hSome hLongPlain
      hName hText with
    ⟨u, hParse, hHost⟩
  refine ⟨?_, u, hParse, hHost⟩
  rw [check_eq_ok_iff, beginnings_of_blank hBlank]
  refine ⟨⟨u, hParse, ?_⟩, ?_⟩
  · simp [Url.hasHost, hHost]
  · refine
      ⟨_, ofList_mem_localBeginnings hScheme hLocal,
        more ++ '/' :: path, ?_⟩
    simp [hText]

/-
  Not all that a policy without entries accepts belongs to
  the local machine.
-/
theorem check_accepts_other_hosts :
    ¬∀ (entries : List String) (address : String),
      (∀ e ∈ entries, Text.isBlankText e = true) →
        (ofEntries entries).check address = .ok () →
          ∃ u, Url.parse address = .ok u ∧ IsLocal u := by
  intro hAll
  have hText :
      "http://localhost.evil.example/cb".toList =
        "http".toList ++ [':', '/', '/'] ++
          ("localhost".toList ++ ".evil.example".toList) ++
          '/' :: "cb".toList := by
    decide
  have hBlank :
      ∀ e ∈ ([] : List String), Text.isBlankText e = true := by
    simp
  have hPlain :
      ∀ c ∈ ".evil.example".toList, Url.isPlain c = true :=
    List.all_eq_true.mp (by decide)
  rcases check_of_longer_name hBlank (by decide) (by decide)
      hPlain (by decide) hText with
    ⟨hCheck, u, hParse, hHost⟩
  rcases hAll [] _ hBlank hCheck with
    ⟨u', hParse', host, hHost', hLocal⟩
  rw [hParse] at hParse'
  cases hParse'
  rw [hHost] at hHost'
  cases hHost'
  exact absurd hLocal (by decide)

end Policy

end Redirect

end Gatehouse
