import Gatehouse.Decimal.Natural
import Gatehouse.Time.Instant

/-
  The date and time of an instant as text.

  The proleptic Gregorian calendar in UTC, as in
  `2023-11-14T22:13:20.500Z`.  The fraction of the second
  has as few digits as are exact out of none, three, six
  and nine.  A year that has no four-digit form carries a
  sign.

  Key definitions include:
    * `Timestamp.Date`
    * `Timestamp.Date.ofDay`
    * `Timestamp.write`
-/

namespace Gatehouse

namespace Timestamp

/- A day of the calendar. -/
structure Date where
  year : Int
  month : Nat
  day : Nat
  deriving DecidableEq, Repr

/-
  The date of a day, counted from the first day of 1970.
  Years are taken to begin in March, so that the leap day
  ends its year; four hundred years have 146097 days.
-/
def Date.ofDay
    (n : Int) : Date :=
  let shifted := n + 719468
  let era := shifted.fdiv 146097
  let ofEra := (shifted - era * 146097).toNat
  let yearOfEra :=
    (ofEra - ofEra / 1460 + ofEra / 36524 -
      ofEra / 146096) / 365
  let ofYear :=
    ofEra - (365 * yearOfEra + yearOfEra / 4 -
      yearOfEra / 100)
  let monthFromMarch := (5 * ofYear + 2) / 153
  let day := ofYear - (153 * monthFromMarch + 2) / 5 + 1
  let month :=
    if monthFromMarch < 10 then
      monthFromMarch + 3
    else
      monthFromMarch - 9
  let year := (yearOfEra : Int) + era * 400
  ⟨if month ≤ 2 then year + 1 else year, month, day⟩

/- A number with zeros before it up to a width. -/
def padded
    (width n : Nat) : List Char :=
  let cs := Decimal.digits n
  List.replicate (width - cs.length) '0' ++ cs

/- A year of four digits, or with its sign. -/
def writeYear
    (y : Int) : List Char :=
  if 0 ≤ y ∧ y ≤ 9999 then
    padded 4 y.toNat
  else if y < 0 then
    '-' :: padded 4 y.natAbs
  else
    '+' :: padded 4 y.natAbs

/- The fraction of a second. -/
def writeFraction
    (nanos : Nat) : List Char :=
  if nanos = 0 then
    []
  else if nanos % 1000000 = 0 then
    '.' :: padded 3 (nanos / 1000000)
  else if nanos % 1000 = 0 then
    '.' :: padded 6 (nanos / 1000)
  else
    '.' :: padded 9 nanos

/- The date and time of an instant. -/
def write
    (t : Instant) : String :=
  let nanos := (t.nanos.fmod 1000000000).toNat
  let seconds := t.nanos.fdiv 1000000000
  let inDay := (seconds.fmod 86400).toNat
  let date := Date.ofDay (seconds.fdiv 86400)
  String.ofList <|
    writeYear date.year ++ '-' :: padded 2 date.month ++
      '-' :: padded 2 date.day ++
      'T' :: padded 2 (inDay / 3600) ++
      ':' :: padded 2 (inDay / 60 % 60) ++
      ':' :: padded 2 (inDay % 60) ++
      writeFraction nanos ++ ['Z']

end Timestamp

end Gatehouse
