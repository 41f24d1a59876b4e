/-
  Points in time.

  An instant counts nanoseconds since the start of 1970 in
  UTC, and a span counts nanoseconds.  Instants that a date
  can express lie between two bounds; moving an instant
  either stays within them or is refused.

  Key definitions include:
    * `Span`
    * `Instant`
    * `Instant.earliest`
    * `Instant.latest`
    * `Instant.move?`
    * `Instant.moveOrLatest`
-/

namespace Gatehouse

/- A length of time in nanoseconds, of either sign. -/
abbrev Span :=
  Int

namespace Span

/- The nanoseconds in a second. -/
def second : Nat :=
  1000000000

/- A span of whole seconds. -/
def ofSeconds
    (n : Nat) : Span :=
  (n * second : Nat)

/-
  The longest span: the greatest signed number of
  sixty-four bits, in milliseconds.
-/
def longest : Span :=
  9223372036854775807000000

end Span

/- A point in time. -/
structure Instant where
  nanos : Int
  deriving DecidableEq, Repr

namespace Instant

instance : LT Instant :=
  ⟨fun s t => s.nanos < t.nanos⟩

instance : LE Instant :=
  ⟨fun s t => s.nanos ≤ t.nanos⟩

instance
    (s t : Instant) :
    Decidable (s < t) :=
  inferInstanceAs (Decidable (s.nanos < t.nanos))

instance
    (s t : Instant) :
    Decidable (s ≤ t) :=
  inferInstanceAs (Decidable (s.nanos ≤ t.nanos))

/- The first instant that a date can express. -/
def earliest : Instant :=
  ⟨-8334601228800000000000⟩

/- The last instant that a date can express. -/
def latest : Instant :=
  ⟨8210266876799999999999⟩

/- Move an instant, unless no date expresses the result. -/
def move?
    (t : Instant)
    (d : Span) : Option Instant :=
  let t' : Instant := ⟨t.nanos + d⟩
  if earliest ≤ t' ∧ t' ≤ latest then some t' else none

/- Move an instant forward, at most to the last one. -/
def moveOrLatest
    (t : Instant)
    (d : Nat) : Instant :=
  (t.move? d).getD latest

------------------------------------------------------------
-- Order
------------------------------------------------------------

/- Instants are ordered as their nanoseconds. -/
theorem le_iff
    (s t : Instant) :
    s ≤ t ↔ s.nanos ≤ t.nanos := Iff.rfl

/- What is not before an instant is at it or after it. -/
@[simp]
theorem not_lt
    (s t : Instant) :
    ¬s < t ↔ t ≤ s :=
  Int.not_lt

/- From an earlier instant to a later one. -/
theorem le_trans
    {s t u : Instant}
    (hst : s ≤ t)
    (htu : t ≤ u) :
    s ≤ u :=
  Int.le_trans hst htu

/- What ends before an instant ends before later ones. -/
theorem lt_of_lt_of_le
    {s t u : Instant}
    (hst : s < t)
    (htu : t ≤ u) :
    s < u :=
  Int.lt_of_lt_of_le hst htu

/- A move forward from a date is exact up to the last one. -/
theorem move?_of_le
    {t : Instant}
    {d : Nat}
    (hDate : earliest ≤ t)
    (hLast : t.nanos + d ≤ latest.nanos) :
    t.move? d = some ⟨t.nanos + d⟩ := by
  rw [le_iff] at hDate
  have hBounds :
      earliest ≤ (⟨t.nanos + d⟩ : Instant) ∧
        (⟨t.nanos + d⟩ : Instant) ≤ latest := by
    rw [le_iff, le_iff]
    dsimp only
    omega
  unfold move?
  simp only [hBounds, and_self, if_true]

/- A move beyond the last date is refused. -/
theorem move?_of_lt
    {t : Instant}
    {d : Span}
    (hBeyond : latest.nanos < t.nanos + d) :
    t.move? d = none := by
  have hNotLast : ¬(⟨t.nanos + d⟩ : Instant) ≤ latest := by
    rw [le_iff]
    exact Int.not_le.mpr hBeyond
  unfold move?
  simp only [hNotLast, and_false, if_false]

/-
  From a date on, an instant moves forward by the whole span
  or else to the last date.
-/
theorem nanos_moveOrLatest
    (t : Instant)
    (d : Nat)
    (hDate : earliest ≤ t) :
    (t.moveOrLatest d).nanos =
      min (t.nanos + d) latest.nanos := by
  unfold moveOrLatest
  by_cases hLatest : t.nanos + d ≤ latest.nanos
  · rw [move?_of_le hDate hLatest, Option.getD_some]
    exact (Int.min_eq_left hLatest).symm
  · have hBeyond := Int.not_le.mp hLatest
    rw [move?_of_lt hBeyond, Option.getD_none]
    exact (Int.min_eq_right (Int.le_of_lt hBeyond)).symm

end Instant

end Gatehouse
