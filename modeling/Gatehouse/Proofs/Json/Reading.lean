import Gatehouse.Json.Number
import Gatehouse.Proofs.Decimal.Natural
import Mathlib.Data.List.Forall2

/-
  What is read from parts of a document.

  A field that may be absent holds a text or nothing, and
  any other value in it is at fault.  A list is read if all
  of its items are, in their order.  A number is always
  written as some text, and an integer of sixty-four bits as
  its decimal text.

  Key definitions include:
    * `Json.Node.IsAbsent`
    * `Json.Node.HoldsText`
    * `Json.Node.Lists`
    * `Json.Numeral.integer`
    * `Json.Numeral.IsWord`

  Main results include:
    * `Json.Node.optional_text?_eq_some_iff`
    * `Json.Node.list?_eq_some_iff`
    * `Json.Number.write_ne_empty`
    * `Json.Numeral.write_value_of_isWord`
-/

namespace Gatehouse

/- All readings are had if each of them is. -/
theorem Reading.all?_map_eq_some_iff
    {ρ α : Type}
    (read : ρ → Option α)
    (parts : List ρ)
    (as : List α) :
    all? (parts.map read) = some as ↔
      List.Forall₂ (fun part a => read part = some a) parts
        as := by
  induction parts generalizing as with
  | nil => simp [all?, eq_comm]
  | cons part parts ih =>
      rw [List.map_cons, List.forall₂_cons_left_iff]
      cases hRead : read part with
      | none => simp [all?]
      | some a =>
          simp only [all?, Option.map_eq_some_iff, ih]
          constructor
          · rintro ⟨rest, hRest, rfl⟩
            exact ⟨a, rest, rfl, hRest, rfl⟩
          · rintro ⟨b, rest, hSame, hRest, rfl⟩
            cases hSame
            exact ⟨rest, hRest, rfl⟩

namespace Json

namespace Node

------------------------------------------------------------
-- Fields
------------------------------------------------------------

/- Is a field left out, or null? -/
def IsAbsent
    (field : Option Node) : Prop :=
  field = none ∨ field = some .null

/- What a field holds that may be left out. -/
inductive HoldsText :
    Option Node → Option String → Prop where
  | absent {field : Option Node}
      (hAbsent : IsAbsent field) :
      HoldsText field none
  | text (s : String) :
      HoldsText (some (.text (some s))) (some s)

/- A text is read from a text alone. -/
theorem text?_eq_some_iff
    {n : Node}
    {s : String} :
    n.text? = some s ↔ n = .text (some s) := by
  cases n <;> simp [text?]

/- An optional field is absent, or it reads. -/
theorem optional_eq_some_iff
    {α : Type}
    {read : Node → Option α}
    {field : Option Node}
    {a : Option α} :
    optional read field = some a ↔
      (IsAbsent field ∧ a = none) ∨
        ∃ n b, field = some n ∧ n ≠ .null ∧
          read n = some b ∧ a = some b := by
  unfold optional IsAbsent
  split
  · simp [eq_comm]
  · simp [eq_comm]
  · rename_i n hNotNull
    have hNotNull : n ≠ .null := hNotNull
    simp [hNotNull, eq_comm]

/- An optional text is read from what holds it. -/
theorem optional_text?_eq_some_iff
    {field : Option Node}
    {s : Option String} :
    optional text? field = some s ↔ HoldsText field s := by
  rw [optional_eq_some_iff]
  constructor
  · rintro (⟨hAbsent, rfl⟩ | ⟨n, t, rfl, _, hText, rfl⟩)
    · exact .absent hAbsent
    · rw [text?_eq_some_iff.mp hText]
      exact .text t
  · intro hHolds
    cases hHolds with
    | absent hAbsent => exact .inl ⟨hAbsent, rfl⟩
    | text t => exact .inr ⟨_, t, rfl, by simp, rfl, rfl⟩

------------------------------------------------------------
-- Lists
------------------------------------------------------------

/- Does a node list what its items are, all in order? -/
def Lists
    {α : Type}
    (IsItem : Node → α → Prop)
    (n : Node)
    (as : List α) : Prop :=
  ∃ items, n = .array items ∧ List.Forall₂ IsItem items as

/- A list is read if each of its items is. -/
theorem list?_eq_some_iff
    {α : Type}
    {read : Node → Option α}
    {IsItem : Node → α → Prop}
    (hItem : ∀ n a, read n = some a ↔ IsItem n a)
    {n : Node}
    {as : List α} :
    n.list? read = some as ↔ n.Lists IsItem as := by
  unfold Lists
  cases n with
  | array items =>
      simp only [list?, Reading.all?_map_eq_some_iff, hItem,
        array.injEq, exists_eq_left']
  | null => simp [list?]
  | boolean b => simp [list?]
  | number m => simp [list?]
  | text s => simp [list?]
  | object ms => simp [list?]

end Node

------------------------------------------------------------
-- Numbers
------------------------------------------------------------

/- A natural number is written as some text. -/
theorem decimalText_ne_empty
    (n : Nat) :
    Decimal.text n ≠ "" := by
  unfold Decimal.text
  rw [ne_eq, String.ofList_eq_empty_iff]
  exact Decimal.digits_ne_nil n

/- A magnitude is written in some characters. -/
theorem writeDigits_floatLayout_ne_nil
    (d : Decimal.Digits) :
    floatLayout.writeDigits d ≠ [] := by
  unfold Decimal.Layout.writeDigits
  split
  · simp
  · dsimp only
    split
    · simp [Decimal.Layout.exponential]
    · unfold Decimal.Layout.positional
      split
      · simp
      · dsimp only
        split
        · simp [floatLayout]
        · simp

/- A number is written as some text. -/
theorem Number.write_ne_empty
    (v : Number) :
    v.write ≠ "" := by
  cases v with
  | natural n => exact decimalText_ne_empty n
  | negative n =>
      dsimp only [write]
      unfold Decimal.signedText
      split
      · simp
      · exact decimalText_ne_empty _
  | float x =>
      dsimp only [write]
      unfold Decimal.Layout.write
      rw [ne_eq, String.ofList_eq_empty_iff]
      split
      · simp
      · exact writeDigits_floatLayout_ne_nil _

namespace Numeral

/- The integer before the point of a number. -/
def integer
    (m : Numeral) : Int :=
  if m.negative then
    -(Decimal.ofDigits m.whole : Int)
  else
    Decimal.ofDigits m.whole

/-
  Is the number an integer of sixty-four bits, of either
  sign?  Zero with a minus sign is none: it is a float.
-/
structure IsWord
    (m : Numeral) : Prop where
  isInteger : m.isInteger = true
  least : -9223372036854775808 ≤ m.integer
  greatest : m.integer ≤ 18446744073709551615
  notMinusZero : m.negative = true → m.integer ≠ 0

/- An integer of sixty-four bits keeps its decimal text. -/
theorem write_value_of_isWord
    {m : Numeral}
    (h : m.IsWord) :
    ∃ v, m.value? = some v ∧
      v.write = Decimal.signedText m.integer := by
  have hLeast := h.least
  have hGreatest := h.greatest
  cases hSign : m.negative with
  | false =>
      have hSame : m.integer = Decimal.ofDigits m.whole := by
        simp [integer, hSign]
      have hWord :
          Decimal.ofDigits m.whole ≤
            Decimal.greatestWord64 := by
        unfold Decimal.greatestWord64
        omega
      refine ⟨.natural (Decimal.ofDigits m.whole), ?_, ?_⟩
      · simp [value?, h.isInteger, hSign, hWord]
      · rw [hSame, Decimal.signedText, if_neg (by omega),
          Int.natAbs_natCast]
        rfl
  | true =>
      have hSame :
          m.integer = -(Decimal.ofDigits m.whole : Int) := by
        simp [integer, hSign]
      have hNotZero := h.notMinusZero hSign
      have hPositive : 0 < Decimal.ofDigits m.whole := by
        omega
      have hWord :
          Decimal.ofDigits m.whole ≤ 9223372036854775808 := by
        omega
      refine ⟨.negative m.integer, ?_, rfl⟩
      simp [value?, h.isInteger, hSign, hPositive, hWord,
        hSame]

end Numeral

end Json

end Gatehouse
