import Gatehouse.Decimal.Shortest

/-
  The written form of a float.

  A layout says which magnitudes are written with a point
  alone and which with an exponent, and whether a whole
  number ends in a zero after the point.

  Key definitions include:
    * `Decimal.Layout`
    * `Decimal.Layout.write`
-/

namespace Gatehouse

namespace Decimal

/- The decisions of a float format. -/
structure Layout where
  /- Is the exponent of the first digit written out? -/
  scientific : Int → Bool
  /- What follows a whole number. -/
  whole : List Char

namespace Layout

/- Strike the zeros at the end of a significand. -/
def trimZeros
    (cs : List Char) : List Char :=
  (cs.reverse.dropWhile (· = '0')).reverse

/- Digits with a point at a power of ten. -/
def positional
    (l : Layout)
    (cs : List Char)
    (first : Int) : List Char :=
  if first < 0 then
    '0' :: '.' ::
      List.replicate (-first - 1).toNat '0' ++ cs
  else
    let n := first.toNat + 1
    if cs.length ≤ n then
      cs ++ List.replicate (n - cs.length) '0' ++ l.whole
    else
      cs.take n ++ '.' :: cs.drop n

/- Digits with a point after the first and an exponent. -/
def exponential
    (cs : List Char)
    (first : Int) : List Char :=
  let sign := if first < 0 then '-' else '+'
  let point := if cs.length ≤ 1 then [] else ['.']
  cs.take 1 ++ point ++ cs.drop 1 ++
    'e' :: sign :: digits first.natAbs

/- The text of a magnitude. -/
def writeDigits
    (l : Layout)
    (d : Digits) : List Char :=
  if d.significand = 0 then
    '0' :: l.whole
  else
    let all := digits d.significand
    let first := d.exponent + (all.length - 1 : Int)
    let cs := trimZeros all
    if l.scientific first then
      exponential cs first
    else
      l.positional cs first

/- The text of a finite float. -/
def write
    (l : Layout)
    (x : Float) : String :=
  let body := l.writeDigits (shortest (Binary.ofFloat x))
  String.ofList
    (if isNegative x then '-' :: body else body)

end Layout

end Decimal

end Gatehouse
