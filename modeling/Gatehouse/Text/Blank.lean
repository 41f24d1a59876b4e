/-
  White space and trimming.

  A blank character is one with the Unicode property
  White_Space.  Trimming removes the blank characters at
  both ends of a text and leaves the middle alone.

  Key definitions include:
    * `Text.isBlank`
    * `Text.trimChars`
    * `Text.trim`
    * `Text.fields`
-/

namespace Gatehouse

namespace Text

------------------------------------------------------------
-- Blank Characters
------------------------------------------------------------

/- The characters with the property White_Space. -/
def isBlank
    (c : Char) : Bool :=
  let n := c.toNat
  (9 ≤ n && n ≤ 13) || n == 0x20 || n == 0x85 ||
    n == 0xA0 || n == 0x1680 ||
    (0x2000 ≤ n && n ≤ 0x200A) ||
    n == 0x2028 || n == 0x2029 || n == 0x202F ||
    n == 0x205F || n == 0x3000

/- Drop the blank characters at both ends. -/
def trimChars
    (cs : List Char) : List Char :=
  ((cs.dropWhile isBlank).reverse.dropWhile isBlank).reverse

/- Drop the blank characters at both ends of a text. -/
def trim
    (s : String) : String :=
  String.ofList (trimChars s.toList)

/- A text is blank when nothing is left after trimming. -/
def isBlankText
    (s : String) : Bool :=
  s.toList.all isBlank

/- Nothing is dropped from the front of a text without blanks. -/
theorem dropWhile_isBlank_eq_self
    {cs : List Char}
    (h : ∀ c ∈ cs, isBlank c = false) :
    cs.dropWhile isBlank = cs := by
  cases cs with
  | nil => rfl
  | cons c cs =>
      rw [List.dropWhile_cons, h c List.mem_cons_self]
      rfl

/- Trimming leaves a text without blanks as it is. -/
theorem trimChars_eq_self
    {cs : List Char}
    (h : ∀ c ∈ cs, isBlank c = false) :
    trimChars cs = cs := by
  have hBack : ∀ c ∈ cs.reverse, isBlank c = false := by
    intro c hc
    exact h c (List.mem_reverse.mp hc)
  rw [trimChars, dropWhile_isBlank_eq_self h,
    dropWhile_isBlank_eq_self hBack, List.reverse_reverse]

------------------------------------------------------------
-- Separated Fields
------------------------------------------------------------

/-
  The fields of a list of characters between the
  occurrences of a separator.  There is always one field
  more than there are separators.
-/
def fields
    (sep : Char) :
    List Char → List (List Char)
  | [] => [[]]
  | c :: cs =>
      if c = sep then
        [] :: fields sep cs
      else
        match fields sep cs with
        | [] => [[c]]
        | f :: fs => (c :: f) :: fs

/- There is at least one field. -/
theorem fields_ne_nil
    (sep : Char)
    (cs : List Char) :
    fields sep cs ≠ [] := by
  cases cs with
  | nil => simp [fields]
  | cons c cs =>
      by_cases h : c = sep
      · simp [fields, h]
      · simp only [fields, h, if_false]
        split <;> simp

end Text

end Gatehouse
