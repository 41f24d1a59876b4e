import Gatehouse.Text.Blank
import Mathlib.Data.List.TakeWhile

/-
  Texts in pieces.

  A text is divided at a separator, and the blanks around a
  piece are dropped.  The fields hold exactly the characters
  that are no separators, and what is trimmed lies within
  the blanks around it.

  Key definitions include:
    * `Text.IsTrimmed`
    * `Text.Trims`

  Main results include:
    * `Text.forall_mem_fields_iff`
    * `Text.fields_append`
    * `Text.trim_eq_iff`
    * `Text.trim_eq_self`
-/

namespace Gatehouse

namespace Text

------------------------------------------------------------
-- Fields
------------------------------------------------------------

section Fields

variable {sep : Char} {cs : List Char}

/- A character that is no separator goes on a field. -/
theorem exists_fields_cons
    {c : Char}
    (hc : c ≠ sep)
    (cs : List Char) :
    ∃ f fs,
      fields sep cs = f :: fs ∧
        fields sep (c :: cs) = (c :: f) :: fs := by
  cases hRest : fields sep cs with
  | nil => exact absurd hRest (fields_ne_nil sep cs)
  | cons f fs =>
      refine ⟨f, fs, rfl, ?_⟩
      rw [fields, if_neg hc, hRest]

/-
  What holds of the characters of all fields holds of those
  that are no separators.
-/
theorem forall_mem_fields_iff
    {P : Char → Prop} :
    (∀ f ∈ fields sep cs, ∀ c ∈ f, P c) ↔
      ∀ c ∈ cs, c = sep ∨ P c := by
  induction cs with
  | nil => simp [fields]
  | cons c cs ih =>
      rw [List.forall_mem_cons, ← ih]
      by_cases hc : c = sep
      · rw [fields, if_pos hc, List.forall_mem_cons]
        simp [hc]
      · rcases exists_fields_cons hc cs with
          ⟨f, fs, hRest, hFields⟩
        rw [hFields, hRest]
        simp only [List.forall_mem_cons, hc, false_or,
          and_assoc]

/- The characters of a field are among those divided. -/
theorem mem_of_mem_fields
    {f : List Char}
    {c : Char}
    (hField : f ∈ fields sep cs)
    (hMem : c ∈ f) :
    c ∈ cs :=
  forall_mem_fields_iff.mpr (fun _ hc => Or.inr hc)
    f hField c hMem

/- No field holds the separator. -/
theorem ne_of_mem_fields
    {f : List Char}
    {c : Char}
    (hField : f ∈ fields sep cs)
    (hMem : c ∈ f) :
    c ≠ sep :=
  forall_mem_fields_iff.mpr (fun c _ => eq_or_ne c sep)
    f hField c hMem

/- A text without separators is one field. -/
theorem fields_eq_singleton
    (h : ∀ c ∈ cs, c ≠ sep) :
    fields sep cs = [cs] := by
  induction cs with
  | nil => rfl
  | cons c cs ih =>
      rcases List.forall_mem_cons.mp h with ⟨hc, hRest⟩
      rw [fields, if_neg hc, ih hRest]

/- Fields end at a separator, and others begin after it. -/
theorem fields_append
    (sep : Char)
    (cs ds : List Char) :
    fields sep (cs ++ sep :: ds) =
      fields sep cs ++ fields sep ds := by
  induction cs with
  | nil => simp [fields]
  | cons c cs ih =>
      rw [List.cons_append, fields, ih]
      by_cases hc : c = sep
      · rw [if_pos hc, fields, if_pos hc, List.cons_append]
      · rcases exists_fields_cons hc cs with
          ⟨f, fs, hRest, hFields⟩
        rw [if_neg hc, hFields, hRest]
        rfl

end Fields

------------------------------------------------------------
-- Trimmed Texts
------------------------------------------------------------

/- Do characters neither begin nor end with a blank? -/
def IsTrimmed
    (cs : List Char) : Prop :=
  (∀ c ∈ cs.head?, isBlank c = false) ∧
    ∀ c ∈ cs.getLast?, isBlank c = false

/- Is a text another one without the blanks around it? -/
def Trims
    (s t : String) : Prop :=
  ∃ before after,
    s.toList = before ++ t.toList ++ after ∧
      (∀ c ∈ before, isBlank c = true) ∧
        (∀ c ∈ after, isBlank c = true) ∧
          IsTrimmed t.toList

variable {cs : List Char}

/- What is dropped is blank, and what begins then is not. -/
theorem exists_blank_append
    (cs : List Char) :
    ∃ before,
      cs = before ++ cs.dropWhile isBlank ∧
        (∀ c ∈ before, isBlank c = true) ∧
          ∀ c ∈ (cs.dropWhile isBlank).head?,
            isBlank c = false := by
  refine ⟨cs.takeWhile isBlank, ?_, ?_, ?_⟩
  · exact List.takeWhile_append_dropWhile.symm
  · intro c hc
    exact List.mem_takeWhile_imp hc
  · intro c hc
    have hHead := List.head?_dropWhile_not isBlank cs
    rw [Option.mem_def.mp hc] at hHead
    exact hHead

/- Nothing is dropped if the beginning is not blank. -/
theorem dropWhile_isBlank_of_head?
    (h : ∀ c ∈ cs.head?, isBlank c = false) :
    cs.dropWhile isBlank = cs := by
  cases cs with
  | nil => rfl
  | cons c cs =>
      rw [List.dropWhile_cons, h c rfl]
      rfl

/- What is trimmed is left within the blanks around it. -/
theorem trims_trim
    (s : String) :
    Trims s (trim s) := by
  rcases exists_blank_append s.toList with
    ⟨before, hFront, hBefore, hHead⟩
  rcases exists_blank_append
      (s.toList.dropWhile isBlank).reverse with
    ⟨after, hBack, hAfter, hLast⟩
  have hRest :
      s.toList.dropWhile isBlank =
        trimChars s.toList ++ after.reverse := by
    unfold trimChars
    rw [← List.reverse_append, ← hBack,
      List.reverse_reverse]
  unfold Trims trim
  rw [String.toList_ofList]
  refine ⟨before, after.reverse, ?_, hBefore, ?_, ?_, ?_⟩
  · rw [List.append_assoc, ← hRest, ← hFront]
  · intro c hc
    exact hAfter c (List.mem_reverse.mp hc)
  · -- The first of what is left was first before as well.
    intro c hc
    apply hHead c
    rw [hRest, List.head?_append, Option.mem_def.mp hc]
    rfl
  · intro c hc
    apply hLast c
    unfold trimChars at hc
    rwa [List.getLast?_reverse] at hc

/- Blanks around a text are dropped, and nothing else. -/
theorem Trims.trim_eq
    {s t : String}
    (h : Trims s t) :
    trim s = t := by
  rcases h with
    ⟨before, after, hText, hBefore, hAfter, hHead, hLast⟩
  have hBack : ∀ c ∈ after.reverse, isBlank c = true := by
    intro c hc
    exact hAfter c (List.mem_reverse.mp hc)
  have hEnd :
      t.toList.reverse.dropWhile isBlank =
        t.toList.reverse := by
    apply dropWhile_isBlank_of_head?
    rw [List.head?_reverse]
    exact hLast
  unfold trim trimChars
  rw [hText, List.append_assoc,
    List.dropWhile_append_of_pos hBefore]
  cases hChars : t.toList with
  | nil =>
      have hNone : after.dropWhile isBlank = [] :=
        List.dropWhile_eq_nil_iff.mpr hAfter
      rw [List.nil_append, hNone, List.reverse_nil,
        List.dropWhile_nil, List.reverse_nil, ← hChars,
        String.ofList_toList]
  | cons c cs =>
      have hFront :
          (t.toList ++ after).dropWhile isBlank =
            t.toList ++ after := by
        apply dropWhile_isBlank_of_head?
        rw [hChars] at hHead ⊢
        exact hHead
      rw [← hChars, hFront, List.reverse_append,
        List.dropWhile_append_of_pos hBack, hEnd,
        List.reverse_reverse, String.ofList_toList]

/- To trim is to drop exactly the blanks around a text. -/
theorem trim_eq_iff
    (s t : String) :
    trim s = t ↔ Trims s t := by
  constructor
  · rintro rfl
    exact trims_trim s
  · exact Trims.trim_eq

/- What is trimmed has no blanks around it. -/
theorem isTrimmed_trim
    (s : String) :
    IsTrimmed (trim s).toList := by
  rcases trims_trim s with ⟨_, _, _, _, _, hTrimmed⟩
  exact hTrimmed

/- A text without blanks around it is not trimmed further. -/
theorem trim_eq_self
    {s : String}
    (h : IsTrimmed s.toList) :
    trim s = s :=
  (trim_eq_iff s s).mpr
    ⟨[], [], by simp, by simp, by simp, h⟩

/- Trimming leaves no characters that were not there. -/
theorem mem_of_mem_trim
    {s : String}
    {c : Char}
    (h : c ∈ (trim s).toList) :
    c ∈ s.toList := by
  rcases trims_trim s with ⟨before, after, hText, _⟩
  rw [hText]
  exact
    List.mem_append_left _ (List.mem_append_right before h)

/- Nothing is left of a text exactly if it is blank. -/
theorem trim_eq_empty_iff
    (s : String) :
    trim s = "" ↔ ∀ c ∈ s.toList, isBlank c = true := by
  rw [trim_eq_iff]
  constructor
  · rintro ⟨before, after, hText, hBefore, hAfter, _⟩
    rw [hText]
    intro c hc
    simp only [String.toList_empty, List.append_nil,
      List.mem_append] at hc
    exact hc.elim (hBefore c) (hAfter c)
  · intro h
    refine ⟨s.toList, [], ?_, h, ?_, ?_, ?_⟩ <;> simp

end Text

end Gatehouse
