import Gatehouse.Time.Instant

/-
  Clocks.

  A clock shows the time of the calendar, which may be set
  back, and a steady time, which never goes back.  Both move
  forward together.

  Key definitions include:
    * `Clock`
    * `Clock.startAt`
    * `Clock.advance`
-/

namespace Gatehouse

/- The two times that are shown together. -/
structure Clock where
  /- The time of the calendar. -/
  now : Instant
  /- The steady time, in nanoseconds. -/
  steady : Nat
  deriving DecidableEq, Repr

namespace Clock

/- A clock that has just been started. -/
def startAt
    (now : Instant) : Clock :=
  ⟨now, 0⟩

/-
  Move a clock.  A move back concerns the time of the
  calendar only.
-/
def advance
    (c : Clock)
    (d : Span) : Clock :=
  ⟨⟨c.now.nanos + d⟩, c.steady + d.toNat⟩

/- The steady time never goes back. -/
theorem le_steady_advance
    (c : Clock)
    (d : Span) :
    c.steady ≤ (c.advance d).steady :=
  Nat.le_add_right _ _

/- A move back leaves the steady time alone. -/
theorem steady_advance_of_neg
    (c : Clock)
    (d : Span)
    (h : d < 0) :
    (c.advance d).steady = c.steady := by
  have hd : d.toNat = 0 :=
    Int.toNat_of_nonpos (Int.le_of_lt h)
  simp [advance, hd]

end Clock

end Gatehouse
