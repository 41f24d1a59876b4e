import Gatehouse.Decimal.Natural

/-
  The fewest decimal digits that read back.

  A finite binary number is a mantissa times a power of two.
  All reals between the midpoints to its neighbours read
  back as it, the midpoints themselves when the mantissa is
  even.  For one digit, two digits, and so on, the two
  points of the decimal grid next to the number are tried;
  the first grid with a point that reads back is taken, the
  nearer point of two, and the even one of a tie.

  Key definitions include:
    * `Decimal.Binary`
    * `Decimal.Binary.ofFloat`
    * `Decimal.Digits`
    * `Decimal.shortest`
-/

namespace Gatehouse

namespace Decimal

------------------------------------------------------------
-- Binary Numbers
------------------------------------------------------------

/- A magnitude `mantissa * 2 ^ exponent`. -/
structure Binary where
  mantissa : Nat
  exponent : Int
  /- Is the neighbour below nearer than the one above? -/
  narrowBelow : Bool
  deriving DecidableEq, Repr

/- The magnitude of a finite float of sixty-four bits. -/
def Binary.ofFloat
    (x : Float) : Binary :=
  let bits : Nat := x.toBits.toNat
  let fraction : Nat := bits % Nat.pow 2 52
  let biased : Nat := bits / Nat.pow 2 52 % Nat.pow 2 11
  if biased = 0 then
    ⟨fraction, -1074, false⟩
  else
    ⟨Nat.pow 2 52 + fraction, (biased : Int) - 1075,
      fraction = 0 && 1 < biased⟩

/- Does the float carry a minus sign? -/
def isNegative
    (x : Float) : Bool :=
  x.toBits.toNat / Nat.pow 2 63 = 1

------------------------------------------------------------
-- Decimal Digits
------------------------------------------------------------

/- A magnitude `significand * 10 ^ exponent`. -/
structure Digits where
  significand : Nat
  exponent : Int
  deriving DecidableEq, Repr

/- A positive fraction. -/
structure Ratio where
  num : Nat
  den : Nat
  deriving DecidableEq, Repr

/- The fraction `n * 2 ^ e`. -/
def Ratio.scaled
    (n : Nat)
    (e : Int) : Ratio :=
  if 0 ≤ e then
    ⟨n * Nat.pow 2 e.toNat, 1⟩
  else
    ⟨n, Nat.pow 2 (-e).toNat⟩

/- The fraction divided by `10 ^ e`. -/
def Ratio.perTen
    (r : Ratio)
    (e : Int) : Ratio :=
  if 0 ≤ e then
    ⟨r.num, r.den * Nat.pow 10 e.toNat⟩
  else
    ⟨r.num * Nat.pow 10 (-e).toNat, r.den⟩

/- The greatest `e` with `10 ^ e` at most the fraction. -/
def Ratio.magnitude
    (r : Ratio) : Int :=
  let guess : Int :=
    (digits r.num).length - (digits r.den).length
  let q := r.perTen guess
  if q.den ≤ q.num then guess else guess - 1

/- The bounds between which all reals read back. -/
structure Interval where
  low : Ratio
  high : Ratio
  closed : Bool
  deriving DecidableEq, Repr

/- The reals that read back as a binary number. -/
def Binary.interval
    (b : Binary) : Interval :=
  let below := if b.narrowBelow then 1 else 2
  { low := Ratio.scaled (4 * b.mantissa - below)
      (b.exponent - 2)
    high := Ratio.scaled (4 * b.mantissa + 2)
      (b.exponent - 2)
    closed := b.mantissa % 2 = 0 }

/- Is `n * 10 ^ e` in the interval? -/
def Interval.holds
    (i : Interval)
    (n : Nat)
    (e : Int) : Bool :=
  let low := i.low.perTen e
  let high := i.high.perTen e
  if i.closed then
    decide (low.num ≤ n * low.den) &&
      decide (n * high.den ≤ high.num)
  else
    decide (low.num < n * low.den) &&
      decide (n * high.den < high.num)

/- The nearer of two neighbours on a grid that holds both. -/
def nearer
    (value : Ratio)
    (below : Nat) : Nat :=
  let twice := 2 * value.num
  let middle := (2 * below + 1) * value.den
  if twice < middle then
    below
  else if middle < twice then
    below + 1
  else if below % 2 = 0 then
    below
  else
    below + 1

/- The point of a grid that reads back, if there is one. -/
def gridPoint?
    (value : Ratio)
    (i : Interval)
    (e : Int) : Option Nat :=
  let q := value.perTen e
  let below := q.num / q.den
  match i.holds below e, i.holds (below + 1) e with
  | true, true => some (nearer q below)
  | true, false => some below
  | false, true => some (below + 1)
  | false, false => none

/- Try finer and finer grids. -/
def refine
    (value : Ratio)
    (i : Interval) :
    Nat → Int → Digits
  | 0, e =>
      let q := value.perTen e
      ⟨q.num / q.den, e⟩
  | more + 1, e =>
      match gridPoint? value i e with
      | some n => ⟨n, e⟩
      | none => refine value i more (e - 1)

/- The fewest digits that read back as the number. -/
def shortest
    (b : Binary) : Digits :=
  if b.mantissa = 0 then
    ⟨0, 0⟩
  else
    let value := Ratio.scaled b.mantissa b.exponent
    refine value b.interval 17 value.magnitude

end Decimal

end Gatehouse
