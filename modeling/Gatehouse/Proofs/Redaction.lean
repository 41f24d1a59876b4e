import Gatehouse.Secret

/-
  What a shortened token tells.

  A token is cut after eight characters, and octets decide
  whether anything was cut off.  The two measures agree for
  characters of every width.  So a longer token tells its
  first eight characters, and a shorter one tells nothing:
  it looks like every other short one and like no long one.

  Main results include:
    * `utf8ByteSize_take_lt_iff`
    * `redact_of_length_le`
    * `redact_of_lt_length`
    * `redact_eq_iff`
-/

namespace Gatehouse

------------------------------------------------------------
-- Characters and Octets
------------------------------------------------------------

/-
  The first characters of a text take fewer octets than the
  text exactly if it has further characters: each of these
  takes an octet at least.
-/
theorem utf8ByteSize_take_lt_iff
    (s : String)
    (n : Nat) :
    (String.ofList (s.toList.take n)).utf8ByteSize <
        s.utf8ByteSize ↔
      n < s.length := by
  have hSplit :
      String.ofList (s.toList.take n) ++
          String.ofList (s.toList.drop n) =
        s := by
    rw [← String.ofList_append, List.take_append_drop,
      String.ofList_toList]
  have hSize :
      s.utf8ByteSize =
        (String.ofList (s.toList.take n)).utf8ByteSize +
          (String.ofList (s.toList.drop n)).utf8ByteSize := by
    rw [← String.utf8ByteSize_append, hSplit]
  rw [hSize, Nat.lt_add_right_iff_pos, Nat.pos_iff_ne_zero,
    ne_eq, String.utf8ByteSize_eq_zero_iff,
    String.ofList_eq_empty_iff, List.drop_eq_nil_iff,
    String.length_toList, Nat.not_le]

------------------------------------------------------------
-- Short and Long Tokens
------------------------------------------------------------

variable {a b token : String}

/- A token of up to eight characters is not shown at all. -/
theorem redact_of_length_le
    (hShort : token.length ≤ redactedLength) :
    redact token = shortToken := by
  unfold redact
  dsimp only
  rw [if_neg]
  rw [utf8ByteSize_take_lt_iff]
  exact Nat.not_lt.mpr hShort

/- A longer token is shown by its first characters. -/
theorem redact_of_lt_length
    (hLong : redactedLength < token.length) :
    redact token =
      String.ofList (token.toList.take redactedLength) ++
        "…" := by
  unfold redact
  dsimp only
  rw [if_pos]
  rw [utf8ByteSize_take_lt_iff]
  exact hLong

/- What is shown of a longer token is one character more. -/
theorem length_redact_of_lt_length
    (hLong : redactedLength < token.length) :
    (redact token).length = redactedLength + 1 := by
  have hTaken :
      (token.toList.take redactedLength).length =
        redactedLength := by
    rw [List.length_take, String.length_toList]
    exact Nat.min_eq_left (Nat.le_of_lt hLong)
  have hMark : "…".length = 1 := by
    decide
  rw [redact_of_lt_length hLong, String.length_append,
    String.length_ofList, hTaken, hMark]

/- A longer token never looks like a short one. -/
theorem redact_ne_shortToken_of_lt_length
    (hLong : redactedLength < token.length) :
    redact token ≠ shortToken := by
  intro hSame
  have hLength := length_redact_of_lt_length hLong
  rw [hSame] at hLength
  revert hLength
  decide

/- Longer tokens look the same if they begin the same. -/
theorem redact_eq_iff_of_lt_length
    (hLongA : redactedLength < a.length)
    (hLongB : redactedLength < b.length) :
    redact a = redact b ↔
      a.toList.take redactedLength =
        b.toList.take redactedLength := by
  rw [redact_of_lt_length hLongA, redact_of_lt_length hLongB,
    String.append_left_inj, String.ofList_inj]

/-
  A token of up to eight characters is told by a mark, and a
  longer one by its first eight characters.  Two tokens look
  the same exactly if both are short, or both are longer and
  begin with the same eight characters.
-/
theorem redact_eq_iff
    (a b : String) :
    redact a =
        (if a.length ≤ 8 then
          "[short]"
        else
          String.ofList (a.toList.take 8) ++ "…") ∧
      (redact a = redact b ↔
        a.length ≤ 8 ∧ b.length ≤ 8 ∨
          8 < a.length ∧ 8 < b.length ∧
            a.toList.take 8 = b.toList.take 8) := by
  refine ⟨?_, ?_, ?_⟩
  · split
    · exact redact_of_length_le ‹a.length ≤ 8›
    · exact redact_of_lt_length (Nat.not_le.mp ‹¬_›)
  · intro hSame
    rcases Nat.lt_or_ge 8 a.length with hLongA | hShortA
    · rcases Nat.lt_or_ge 8 b.length with hLongB | hShortB
      · have hBegin :=
          (redact_eq_iff_of_lt_length hLongA hLongB).mp hSame
        exact Or.inr ⟨hLongA, hLongB, hBegin⟩
      · rw [redact_of_length_le hShortB] at hSame
        exact
          absurd hSame
            (redact_ne_shortToken_of_lt_length hLongA)
    · rcases Nat.lt_or_ge 8 b.length with hLongB | hShortB
      · rw [redact_of_length_le hShortA] at hSame
        exact
          absurd hSame.symm
            (redact_ne_shortToken_of_lt_length hLongB)
      · exact Or.inl ⟨hShortA, hShortB⟩
  · rintro (⟨hShortA, hShortB⟩ | ⟨hLongA, hLongB, hBegin⟩)
    · rw [redact_of_length_le hShortA,
        redact_of_length_le hShortB]
    · exact
        (redact_eq_iff_of_lt_length hLongA hLongB).mpr hBegin

/- Characters count, not octets: here each takes two. -/
example :
    redact "éééééééé" = "[short]" ∧
      redact "ééééééééé" = "éééééééé…" := by
  decide

end Gatehouse
