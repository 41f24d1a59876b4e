import Gatehouse.Proofs.Text.Pieces
import Gatehouse.Proofs.Url.Percent
import Gatehouse.Url.Host

/-
  Plain host names.

  A name of lower-case letters, digits and dots is its own
  ASCII form: nothing in it is decoded, mapped, composed or
  encoded.  Unless its last label is a number, it is the
  host that it spells.

  Key definitions include:
    * `Url.isPlain`

  Main results include:
    * `HostName.toAscii?_of_plain`
    * `Url.Host.nameOf?_of_plain`
    * `Url.Host.ofSpecial_of_plain`
-/

namespace Gatehouse

------------------------------------------------------------
-- Fields
------------------------------------------------------------

namespace HostName

/- Fields with dots between them are what was divided. -/
theorem joinLabels_fields
    (cs : List Char) :
    joinLabels (Text.fields '.' cs) = cs := by
  induction cs with
  | nil => rfl
  | cons c cs ih =>
      by_cases hDot : c = '.'
      · rcases List.exists_cons_of_ne_nil
            (Text.fields_ne_nil '.' cs) with
          ⟨f, fs, hRest⟩
        rw [hRest] at ih
        rw [Text.fields, if_pos hDot, hRest]
        simp [joinLabels, ih, hDot]
      · rcases Text.exists_fields_cons hDot cs with
          ⟨f, fs, hRest, hFields⟩
        rw [hRest] at ih
        rw [hFields]
        cases fs with
        | nil =>
            simp only [joinLabels] at ih
            simp [joinLabels, ih]
        | cons g gs =>
            simp only [joinLabels] at ih
            simp [joinLabels, ih]

end HostName

------------------------------------------------------------
-- Plain Characters
------------------------------------------------------------

namespace Url

/- Is the character a lower-case letter, a digit or a dot? -/
def isPlain
    (c : Char) : Bool :=
  let n := c.toNat
  (97 ≤ n && n ≤ 122) || (48 ≤ n && n ≤ 57) || n = 46

/- Plain characters are in ASCII. -/
theorem lt_of_isPlain
    {c : Char}
    (h : isPlain c = true) :
    c.toNat < 0x80 := by
  simp only [isPlain, Bool.or_eq_true, Bool.and_eq_true,
    decide_eq_true_eq] at h
  omega

/- What holds of each plain character can be tested. -/
theorem forall_of_isPlain
    (P : Char → Prop)
    (hAll :
      ∀ n < 0x80,
        isPlain (Char.ofNat n) = true → P (Char.ofNat n))
    {c : Char}
    (h : isPlain c = true) :
    P c := by
  have hNamed := hAll c.toNat (lt_of_isPlain h)
  rw [Char.ofNat_toNat] at hNamed
  exact hNamed h

/- A plain character is in lower case. -/
theorem toLower_of_isPlain
    {c : Char}
    (h : isPlain c = true) :
    c.toLower = c :=
  forall_of_isPlain (fun d => d.toLower = d)
    (by decide +kernel) h

/- A plain character may stand in a name. -/
theorem isForbidden_of_isPlain
    {c : Char}
    (h : isPlain c = true) :
    Host.isForbidden c = false :=
  forall_of_isPlain (fun d => Host.isForbidden d = false)
    (by decide +kernel) h

end Url

namespace HostName

open Unicode

variable {cs : List Char}

/- No plain character is mapped. -/
theorem mapChars?_of_plain
    (h : ∀ c ∈ cs, Url.isPlain c = true) :
    mapChars? cs = some cs := by
  induction cs with
  | nil => rfl
  | cons c cs ih =>
      rcases List.forall_mem_cons.mp h with ⟨hFirst, hRest⟩
      have hChar : mapChar? c = some [c] := by
        unfold mapChar?
        rw [if_pos (Url.lt_of_isPlain hFirst),
          Url.toLower_of_isPlain hFirst]
      simp [mapChars?, hChar, ih hRest]

/- Plain characters are in composed form. -/
theorem normalize_of_plain
    (h : ∀ c ∈ cs, Url.isPlain c = true) :
    Unicode.normalize cs = cs := by
  have hLow : cs.all (fun c => c.toNat < 0x300) = true := by
    rw [List.all_eq_true]
    intro c hc
    have hLt := Url.lt_of_isPlain (h c hc)
    exact decide_eq_true (by omega)
  unfold Unicode.normalize
  rw [if_pos hLow]

/- There are no joiners among plain characters. -/
theorem joinersFrom_of_plain
    (before : List Char)
    (h : ∀ c ∈ cs, Url.isPlain c = true) :
    joinersFrom before cs = true := by
  induction cs generalizing before with
  | nil => rfl
  | cons c cs ih =>
      rcases List.forall_mem_cons.mp h with ⟨hFirst, hRest⟩
      have hLt := Url.lt_of_isPlain hFirst
      unfold joinersFrom
      rw [if_neg (by omega), if_neg (by omega)]
      exact ih (c :: before) hRest

/- Plain characters may stand as a label. -/
theorem labelChars?_of_plain
    (h : ∀ c ∈ cs, Url.isPlain c = true) :
    labelChars? cs = some cs := by
  have hMark : encodedMark.isPrefixOf cs = false := by
    rw [Bool.eq_false_iff]
    intro hPrefix
    have hIn : '-' ∈ cs :=
      (List.isPrefixOf_iff_prefix.mp hPrefix).subset
        (by decide)
    exact absurd (h '-' hIn) (by decide)
  have hValid : isValidLabel cs = true := by
    unfold isValidLabel
    cases cs with
    | nil => rfl
    | cons c cs =>
        have hLt :=
          Url.lt_of_isPlain (h c List.mem_cons_self)
        have hNoMark : isMark c = false := by
          unfold isMark
          rw [if_pos (by omega)]
        simp [hNoMark, joinersFrom_of_plain [] h]
  unfold labelChars?
  rw [if_neg (by simp [hMark]), if_pos hValid]

/- Plain labels are what they encode. -/
theorem allLabels?_of_plain
    {ls : List (List Char)}
    (h : ∀ l ∈ ls, ∀ c ∈ l, Url.isPlain c = true) :
    allLabels? ls = some ls := by
  induction ls with
  | nil => rfl
  | cons l ls ih =>
      rcases List.forall_mem_cons.mp h with ⟨hFirst, hRest⟩
      have hLabel := labelChars?_of_plain hFirst
      simp [allLabels?, hLabel, ih hRest]

/- Plain characters are all in ASCII. -/
theorem all_isAscii_of_plain
    (h : ∀ c ∈ cs, Url.isPlain c = true) :
    cs.all isAscii = true := by
  rw [List.all_eq_true]
  intro c hc
  exact decide_eq_true (Url.lt_of_isPlain (h c hc))

/- A plain name is its own ASCII form. -/
theorem toAscii?_of_plain
    (h : ∀ c ∈ cs, Url.isPlain c = true) :
    toAscii? cs = some cs := by
  have hLabels :
      ∀ l ∈ Text.fields '.' cs,
        ∀ c ∈ l, Url.isPlain c = true := by
    intro l hl c hc
    exact h c (Text.mem_of_mem_fields hl hc)
  have hAscii :
      (Text.fields '.' cs).all (·.all isAscii) = true := by
    rw [List.all_eq_true]
    intro l hl
    exact all_isAscii_of_plain (hLabels l hl)
  have hSame :
      (Text.fields '.' cs).map asciiLabel =
        Text.fields '.' cs := by
    rw [List.map_congr_left, List.map_id]
    intro l hl
    unfold asciiLabel
    rw [if_pos (all_isAscii_of_plain (hLabels l hl))]
    rfl
  unfold toAscii?
  simp only [mapChars?_of_plain h, normalize_of_plain h,
    allLabels?_of_plain hLabels, hAscii, Bool.true_or,
    if_true, hSame, joinLabels_fields]

end HostName

namespace Url

namespace Host

variable {cs : List Char}

/- Plain characters are read as they are written. -/
theorem decode?_decodeChars_of_plain
    (h : ∀ c ∈ cs, isPlain c = true) :
    Utf8.decode? (Percent.decodeChars cs) =
      some (String.ofList cs) := by
  have hNoSign :
      ∀ b ∈ cs.flatMap String.utf8EncodeChar,
        b.toNat ≠ 0x25 := by
    intro b hb
    rcases List.mem_flatMap.mp hb with ⟨c, hc, hOctet⟩
    have hLt := lt_of_isPlain (h c hc)
    rw [Utf8.encodeChar_of_lt hLt] at hOctet
    rw [List.mem_singleton.mp hOctet,
      UInt8.toNat_ofNat_of_lt' (Nat.lt_trans hLt (by decide))]
    exact
      forall_of_isPlain (fun d => d.toNat ≠ 0x25)
        (by decide +kernel) (h c hc)
  have hOctets :
      Percent.decodeChars cs =
        Utf8.encode (String.ofList cs) := by
    unfold Percent.decodeChars Utf8.encode
    rw [Percent.decodeOctets_of_forall_ne hNoSign,
      String.toList_ofList]
  rw [hOctets, Utf8.decode?_encode]

/- A plain name is the name that it spells. -/
theorem nameOf?_of_plain
    (h : ∀ c ∈ cs, isPlain c = true) :
    nameOf? cs = some cs := by
  have hAllowed : cs.any isForbidden = false := by
    rw [List.any_eq_false]
    intro c hc
    simp [isForbidden_of_isPlain (h c hc)]
  unfold nameOf?
  simp only [decode?_decodeChars_of_plain h,
    String.toList_ofList, HostName.toAscii?_of_plain h,
    hAllowed, Bool.false_eq_true, if_false]

/- A plain name that is no address is a host. -/
theorem ofSpecial_of_plain
    (hSome : cs ≠ [])
    (h : ∀ c ∈ cs, isPlain c = true)
    (hName : endsInNumber (Text.fields '.' cs) = false) :
    ofSpecial cs = .ok (.name cs) := by
  unfold ofSpecial
  split
  · have hBracket := h '[' List.mem_cons_self
    exact absurd hBracket (by decide)
  · simp only [nameOf?_of_plain h, hName,
      Bool.false_eq_true, if_false]

end Host

end Url

end Gatehouse
