import Gatehouse.Login.Provider
import Gatehouse.Table
import Gatehouse.Time.Instant

/-
  Logins that wait for their callback.

  A started login is remembered under its state for ten
  minutes, on a clock that never goes back, and is used up
  by the first callback that names it.

  Key definitions include:
    * `Login.Pending`
    * `Login.Waiting`
    * `Login.Waiting.prune`
    * `Login.Waiting.take`
-/

namespace Gatehouse

namespace Login

/- What is remembered of a started login. -/
structure Pending where
  verifier : String
  address : String
  /- When the login was started. -/
  startedAt : Nat
  deriving DecidableEq, Repr

namespace Pending

/- How long a login is remembered, in nanoseconds. -/
def lifetime : Nat :=
  600 * Span.second

/- How long ago the login was started. -/
def age
    (p : Pending)
    (now : Nat) : Nat :=
  now - p.startedAt

/- Is the login too old for a callback? -/
def isExpired
    (p : Pending)
    (now : Nat) : Bool :=
  lifetime < p.age now

/- Is the login young enough to be kept? -/
def isFresh
    (p : Pending)
    (now : Nat) : Bool :=
  p.age now < lifetime

end Pending

/- The waiting logins by state. -/
abbrev Waiting :=
  Table String Pending

namespace Waiting

/- Keep the logins that are fresh. -/
def prune
    (w : Waiting)
    (now : Nat) : Waiting :=
  w.retain (fun _ p => p.isFresh now)

/- Remember a login under its state. -/
def add
    (w : Waiting)
    (now : Nat)
    (state : String)
    (p : Pending) : Waiting :=
  (w.prune now).insert state p

/- Use up the login of a state. -/
def take
    (w : Waiting)
    (now : Nat)
    (state : String) : Except Fault Pending × Waiting :=
  match w.get? state with
  | none =>
      (.error (.invalidState
        "unknown or already used state"), w)
  | some p =>
      let w' := w.erase state
      if p.isExpired now then
        (.error (.invalidState "state expired"), w')
      else
        (.ok p, w')

end Waiting

end Login

end Gatehouse
