import Gatehouse.Decimal.Layout
import Gatehouse.Json.Node

/-
  Numbers of a JSON document as values.

  An integer that fits in sixty-four bits keeps its exact
  value.  Any other number becomes a float: the digits that
  fit in a word of sixty-four bits are taken as a whole
  number, the others only move the point, and the float
  nearest to it is multiplied or divided by a power of ten.
  A number too great for a float is refused.

  Key definitions include:
    * `Json.Number`
    * `Json.Numeral.value?`
    * `Json.floatLayout`
    * `Json.Number.write`
    * `Json.Node.isSound`
-/

namespace Gatehouse

namespace Json

------------------------------------------------------------
-- Values
------------------------------------------------------------

/- The value of a number. -/
inductive Number where
  | natural (n : Nat)
  | negative (n : Int)
  | float (x : Float)

/- The greatest power of ten that a float can hold. -/
def greatestPower : Nat :=
  308

/- A power of ten as a float. -/
def powerOfTen
    (n : Nat) : Float :=
  Float.ofScientific 1 false n

/- Divide by a power of ten, the greatest ones in turn. -/
def divide
    (x : Float)
    (n : Nat) : Float :=
  if n ≤ greatestPower then
    x / powerOfTen n
  else if x == 0 then
    x
  else
    divide (x / powerOfTen greatestPower) (n - greatestPower)
termination_by n
decreasing_by
  simp only [greatestPower] at *
  omega

/- A whole number times a power of ten. -/
def scale?
    (significand : Nat)
    (exponent : Int) : Option Float :=
  let x := (UInt64.ofNat significand).toFloat
  if exponent < 0 then
    some (divide x exponent.natAbs)
  else if exponent.natAbs ≤ greatestPower then
    let y := x * powerOfTen exponent.natAbs
    if y.isInf then none else some y
  else if x == 0 then
    some x
  else
    none

/-
  Append digits to a number as long as it fits in a word.
  What does not fit is left.
-/
def absorb
    (significand : Nat) :
    List Char → Nat × List Char
  | [] => (significand, [])
  | d :: ds =>
      let next := significand * 10 + Decimal.digitValue d
      if Decimal.greatestWord64 < next then
        (significand, d :: ds)
      else
        absorb next ds

/- The greatest exponent that is taken as it is written. -/
def greatestExponent : Nat :=
  2147483647

namespace Numeral

/- The float of a number that is no integer of a word. -/
def float?
    (n : Numeral) : Option Float :=
  let (significand, beyond) := absorb 0 n.whole
  let (significand, dropped) :=
    absorb significand n.fraction
  let point : Int :=
    (beyond.length : Int) -
      (n.fraction.length - dropped.length : Nat)
  let magnitude : Option Float :=
    match n.exponent with
    | none => scale? significand point
    | some (down, ds) =>
        let e := Decimal.ofDigits ds
        if greatestExponent < e then
          if significand = 0 || down then some 0 else none
        else if down then
          scale? significand (point - e)
        else
          scale? significand (point + e)
  magnitude.map fun x => if n.negative then -x else x

/- Is the number written without point and exponent? -/
def isInteger
    (n : Numeral) : Bool :=
  n.fraction.isEmpty && n.exponent.isNone

/- The value of a number. -/
def value?
    (n : Numeral) : Option Number :=
  let whole := Decimal.ofDigits n.whole
  if n.isInteger && !n.negative &&
      whole ≤ Decimal.greatestWord64 then
    some (.natural whole)
  else if n.isInteger && n.negative && 0 < whole &&
      whole ≤ 9223372036854775808 then
    some (.negative (-(whole : Int)))
  else
    n.float?.map .float

end Numeral

------------------------------------------------------------
-- Writing
------------------------------------------------------------

/-
  A float has a point up to sixteen digits before it and
  down to four zeros after it, else an exponent.  A whole
  number ends in a zero after the point.
-/
def floatLayout : Decimal.Layout :=
  { scientific := fun e => e < -5 || 16 ≤ e
    whole := ['.', '0'] }

/- The text of a number. -/
def Number.write :
    Number → String
  | .natural n => Decimal.text n
  | .negative n => Decimal.signedText n
  | .float x => floatLayout.write x

------------------------------------------------------------
-- Values of Any Shape
------------------------------------------------------------

mutual

/-
  Can the node be taken as a value of any shape?  Its texts
  must be characters, its numbers must have values, and its
  depth is bounded.
-/
def Node.isSound
    (depth : Nat) :
    Node → Bool
  | .null => true
  | .boolean _ => true
  | .number n => n.value?.isSome
  | .text s => s.isSome
  | .array items =>
      match depth with
      | 0 => false
      | depth + 1 => Node.areSound depth items
  | .object members =>
      match depth with
      | 0 => false
      | depth + 1 => Node.membersSound depth members

/- Can all items be taken as values? -/
def Node.areSound
    (depth : Nat) :
    List Node → Bool
  | [] => true
  | n :: ns =>
      Node.isSound depth n && Node.areSound depth ns

/- Can all members be taken as values? -/
def Node.membersSound
    (depth : Nat) :
    List (Option String × Node) → Bool
  | [] => true
  | (k, n) :: ms =>
      k.isSome && Node.isSound depth n &&
        Node.membersSound depth ms

end

end Json

end Gatehouse
