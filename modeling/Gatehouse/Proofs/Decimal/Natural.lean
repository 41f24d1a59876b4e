import Gatehouse.Decimal.Natural
import Gatehouse.Text.Blank
import Mathlib.Data.List.Basic

/-
  Decimal text reads back.

  The digits of a number denote that number.  They have no
  zero in front, unless zero is all there is, and nothing
  around them that a reader would trim.

  Main results include:
    * `Decimal.ofDigits_digits`
    * `Decimal.head?_digits_ne_zero`
    * `Decimal.bounded?_digits`
    * `Decimal.word64?_digits`
    * `Decimal.le_of_word64?`
-/

namespace Gatehouse

namespace Decimal

------------------------------------------------------------
-- Digits
------------------------------------------------------------

/- The digits of ASCII are those of the standard library. -/
theorem isDigit_eq
    (c : Char) :
    isDigit c = c.isDigit := by
  rw [Bool.eq_iff_iff]
  simp only [isDigit, Char.isDigit, Bool.and_eq_true,
    decide_eq_true_iff, UInt32.le_iff_toNat_le]
  rfl

/- There is at least one digit. -/
theorem digits_ne_nil
    (n : Nat) :
    digits n ≠ [] :=
  Nat.toDigits_ne_nil

/- A number is written in digits alone. -/
theorem isDigit_of_mem_digits
    {n : Nat}
    {c : Char}
    (h : c ∈ digits n) :
    isDigit c = true := by
  rw [isDigit_eq]
  exact
    Nat.isDigit_of_mem_toDigits (by decide) (by decide) h

/- The digits of a number denote it. -/
theorem ofDigits_digits
    (n : Nat) :
    ofDigits (digits n) = n := by
  have hValue :
      ofDigits (digits n) =
        Nat.ofDigitChars 10 (digits n) 0 := by
    rw [Nat.ofDigitChars_eq_foldl, ofDigits]
    congr 1
    funext m c
    rw [Nat.mul_comm]
    rfl
  rw [hValue]
  exact Nat.ofDigitChars_ten_toDigits

/- No digit of a positive number is a zero in front. -/
theorem head?_digits_ne_zero
    {n : Nat}
    (h : 0 < n) :
    (digits n).head? ≠ some '0' := by
  induction n using Nat.strongRecOn with
  | ind n ih =>
      rw [digits, Nat.toDigits_eq_if (by decide)]
      by_cases hSmall : n < 10
      · have hDigits :
            ∀ m < 10, 0 < m →
              [Nat.digitChar m].head? ≠ some '0' := by
          decide
        rw [if_pos hSmall]
        exact hDigits n hSmall h
      · have hRest := ih (n / 10) (by omega) (by omega)
        rw [if_neg hSmall,
          List.head?_append_of_ne_nil _ Nat.toDigits_ne_nil]
        exact hRest

/- A zero stands in front of no other digit. -/
theorem not_zero_before_digit
    (n : Nat) :
    ¬(1 < (digits n).length ∧
      (digits n).head? = some '0') := by
  rintro ⟨hLong, hZero⟩
  rcases Nat.eq_zero_or_pos n with rfl | hPos
  · exact absurd hLong (by decide)
  · exact head?_digits_ne_zero hPos hZero

/- No digit is blank. -/
theorem isBlank_of_isDigit
    {c : Char}
    (h : isDigit c = true) :
    Text.isBlank c = false := by
  simp only [isDigit, Bool.and_eq_true, decide_eq_true_iff]
    at h
  simp only [Text.isBlank, Bool.or_eq_false_iff,
    Bool.and_eq_false_imp, beq_eq_false_iff_ne,
    decide_eq_true_iff, decide_eq_false_iff_not]
  omega

/- Trimming leaves the digits of a number as they are. -/
theorem trimChars_digits
    (n : Nat) :
    Text.trimChars (digits n) = digits n := by
  apply Text.trimChars_eq_self
  intro c hc
  exact isBlank_of_isDigit (isDigit_of_mem_digits hc)

------------------------------------------------------------
-- Numbers That Read Back
------------------------------------------------------------

/- The digits of a number read back as it. -/
theorem natural?_digits
    (n : Nat) :
    natural? (digits n) = some n := by
  have hAll : (digits n).all isDigit = true :=
    List.all_eq_true.mpr fun _ hc =>
      isDigit_of_mem_digits hc
  simp [natural?, hAll, digits_ne_nil, ofDigits_digits]

/- The digits of a number read back as it, up to a bound. -/
theorem bounded?_digits
    {greatest n : Nat}
    (h : n ≤ greatest) :
    bounded? greatest (digits n) = some n := by
  simp [bounded?, natural?_digits, h]

/- A number that is read does not exceed the bound. -/
theorem le_of_bounded?
    {greatest n : Nat}
    {cs : List Char}
    (h : bounded? greatest cs = some n) :
    n ≤ greatest := by
  rw [bounded?, Option.filter_eq_some_iff] at h
  exact of_decide_eq_true h.2

/- The digits of a word read back as it. -/
theorem word64?_digits
    {n : Nat}
    (h : n ≤ greatestWord64) :
    word64? (digits n) = some n := by
  unfold word64?
  split
  next rest hSign =>
    have hPlus : isDigit '+' = true := by
      apply isDigit_of_mem_digits
      rw [hSign]
      exact List.mem_cons_self
    exact absurd hPlus (by decide)
  next => exact bounded?_digits h

/- What is read as a word fits in one. -/
theorem le_of_word64?
    {n : Nat}
    {cs : List Char}
    (h : word64? cs = some n) :
    n ≤ greatestWord64 := by
  unfold word64? at h
  split at h
  next => exact le_of_bounded? h
  next => exact le_of_bounded? h

end Decimal

end Gatehouse
