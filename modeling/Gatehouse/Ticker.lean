import Gatehouse.Time.Clock

/-
  Periodic tasks.

  A ticker rings at its start plus one interval, plus two,
  and so on.  When the time moves over several of these
  instants at once, the task runs once.

  Key definitions include:
    * `Ticker`
    * `Ticker.rings`
    * `Ticker.attend`
-/

namespace Gatehouse

/- A task that was started, on a clock that never goes back. -/
structure Ticker where
  start : Nat
  interval : Nat
  deriving DecidableEq, Repr

namespace Ticker

/- How many times the ticker has rung. -/
def count
    (t : Ticker)
    (now : Nat) : Nat :=
  (now - t.start) / t.interval

/- Does the ticker ring after one instant, up to another? -/
def rings
    (t : Ticker)
    (after upTo : Nat) : Bool :=
  t.count after < t.count upTo

/- A ticker that is started at the time of a clock. -/
def startAt
    (c : Clock)
    (interval : Nat) : Ticker :=
  ⟨c.steady, interval⟩

/-
  Attend to a task while a clock moves.  The task runs, and
  sees the new time, if its ticker runs and rings.
-/
def attend {α : Type}
    (ticker : Option Ticker)
    (before after : Clock)
    (task : Instant → α → α)
    (a : α) : α :=
  match ticker with
  | none => a
  | some t =>
      if t.rings before.steady after.steady then
        task after.now a
      else
        a

/- A clock that stands still rings no ticker. -/
@[simp]
theorem rings_self
    (t : Ticker)
    (now : Nat) :
    t.rings now now = false := by
  simp [rings]

/- A task without ticker never runs. -/
@[simp]
theorem attend_none {α : Type}
    (before after : Clock)
    (task : Instant → α → α)
    (a : α) :
    attend none before after task a = a := rfl

end Ticker

end Gatehouse
