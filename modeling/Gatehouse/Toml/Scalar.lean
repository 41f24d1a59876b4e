import Gatehouse.Text.Blank
import Gatehouse.Text.Hex
import Gatehouse.Toml.Value

/-
  Numbers, truth values, dates and times of TOML documents.

  A word is one of these if it has the form of one.  An
  underscore may stand between two digits.  A date names a
  day that exists.

  Key definitions include:
    * `Toml.integer?`
    * `Toml.float?`
    * `Toml.isTime`
    * `Toml.scalar?`
-/

namespace Gatehouse

namespace Toml

------------------------------------------------------------
-- Digits
------------------------------------------------------------

/- Digits without the underscores between them. -/
def joined?
    (isDigit : Char → Bool)
    (cs : List Char) : Option (List Char) :=
  let parts := Text.fields '_' cs
  if parts.all (fun p => !p.isEmpty && p.all isDigit) then
    some parts.flatten
  else
    none

/- The digits of a number without leading zeros. -/
def wholeDigits?
    (cs : List Char) : Option (List Char) :=
  (joined? Decimal.isDigit cs).filter fun ds =>
    ds.length = 1 || ds.head? ≠ some '0'

/- A sign at the start, and what follows it. -/
def splitSign :
    List Char → Bool × List Char
  | '-' :: cs => (true, cs)
  | '+' :: cs => (false, cs)
  | cs => (false, cs)

------------------------------------------------------------
-- Integers
------------------------------------------------------------

/- The value of a digit below a base. -/
def digitBelow?
    (base : Nat)
    (c : Char) : Option Nat :=
  (Hex.value? c).filter (fun d => decide (d < base))

/- A number without sign in a base. -/
def inBase?
    (base : Nat)
    (cs : List Char) : Option Nat :=
  (joined? (fun c => (digitBelow? base c).isSome) cs).map
    fun ds =>
      ds.foldl
        (fun n c => n * base + (digitBelow? base c).getD 0)
        0

/- An integer. -/
def integer?
    (cs : List Char) : Option Int :=
  match cs with
  | '0' :: 'x' :: ds => (inBase? 16 ds).map Int.ofNat
  | '0' :: 'o' :: ds => (inBase? 8 ds).map Int.ofNat
  | '0' :: 'b' :: ds => (inBase? 2 ds).map Int.ofNat
  | _ =>
      let (negative, ds) := splitSign cs
      (wholeDigits? ds).map fun ds =>
        let n : Int := Decimal.ofDigits ds
        if negative then -n else n

------------------------------------------------------------
-- Floats
------------------------------------------------------------

/- The least magnitude that rounds to no finite float. -/
def floatBound : Nat :=
  Nat.pow 2 1024 - Nat.pow 2 970

/- No exponent above this one is within range. -/
def greatestExponent : Nat :=
  400

/-
  Is a magnitude within range?  It has digits before and
  after the point and a power of ten.
-/
def isInRange
    (whole fraction : List Char)
    (exponent : Int) : Bool :=
  let significand := Decimal.ofDigits (whole ++ fraction)
  let power := exponent - fraction.length
  if significand = 0 then
    true
  else if power < 0 then
    if power.natAbs ≤ whole.length + fraction.length then
      significand < floatBound * Nat.pow 10 power.natAbs
    else
      true
  else if greatestExponent < power then
    false
  else
    significand * Nat.pow 10 power.toNat < floatBound

/- The digits after a point, if there is one. -/
def fraction?
    (cs : List Char) : Option (Option (List Char)) :=
  match cs with
  | [] => some none
  | '.' :: ds => (joined? Decimal.isDigit ds).map some
  | _ => none

/- The exponent after its mark, if there is one. -/
def exponent?
    (cs : List Char) : Option (Option Int) :=
  match cs with
  | [] => some none
  | _ :: es =>
      let (negative, ds) := splitSign es
      (joined? Decimal.isDigit ds).map fun ds =>
        let n : Int := Decimal.ofDigits ds
        some (if negative then -n else n)

/- Does the character begin an exponent? -/
def isExponentMark
    (c : Char) : Bool :=
  c = 'e' || c = 'E'

/- A float with digits; tells whether it is within range. -/
def digitFloat?
    (cs : List Char) : Option Bool := do
  let mantissa := cs.takeWhile (fun c => !isExponentMark c)
  let exponent ←
    exponent? (cs.dropWhile (fun c => !isExponentMark c))
  let whole ←
    wholeDigits? (mantissa.takeWhile (· ≠ '.'))
  let fraction ←
    fraction? (mantissa.dropWhile (· ≠ '.'))
  if fraction.isNone && exponent.isNone then
    none
  else
    some (isInRange whole (fraction.getD [])
      (exponent.getD 0))

/- A float; tells whether it is within range. -/
def float?
    (cs : List Char) : Option Bool :=
  let (_, body) := splitSign cs
  if body = ['i', 'n', 'f'] || body = ['n', 'a', 'n'] then
    some true
  else
    digitFloat? body

------------------------------------------------------------
-- Dates and Times
------------------------------------------------------------

/- A number of two digits, up to a bound. -/
def twoDigits?
    (greatest : Nat)
    (cs : List Char) : Option Nat :=
  if cs.length = 2 then
    Decimal.bounded? greatest cs
  else
    none

/- Is the year a leap year? -/
def isLeap
    (year : Nat) : Bool :=
  year % 4 = 0 && (year % 100 ≠ 0 || year % 400 = 0)

/- The number of days of a month. -/
def daysIn
    (year month : Nat) : Nat :=
  if month = 2 then
    if isLeap year then 29 else 28
  else if month = 4 || month = 6 || month = 9 ||
      month = 11 then
    30
  else
    31

/- Is the text a date? -/
def isDate
    (cs : List Char) : Bool :=
  match Text.fields '-' cs with
  | [y, m, d] =>
      match Decimal.natural? y, twoDigits? 12 m,
          twoDigits? 31 d with
      | some year, some month, some day =>
          y.length = 4 && 1 ≤ month && 1 ≤ day &&
            day ≤ daysIn year month
      | _, _, _ => false
  | _ => false

/- Are these seconds, perhaps with a fraction? -/
def areSeconds
    (cs : List Char) : Bool :=
  match Text.fields '.' cs with
  | [s] => (twoDigits? 60 s).isSome
  | [s, f] =>
      (twoDigits? 60 s).isSome &&
        (Decimal.natural? f).isSome
  | _ => false

/- Is the text a time of day? -/
def isTimeOfDay
    (cs : List Char) : Bool :=
  match Text.fields ':' cs with
  | [h, m] =>
      (twoDigits? 23 h).isSome && (twoDigits? 59 m).isSome
  | [h, m, s] =>
      (twoDigits? 23 h).isSome &&
        (twoDigits? 59 m).isSome && areSeconds s
  | _ => false

/- Is the text an offset from UTC? -/
def isOffset
    (cs : List Char) : Bool :=
  match cs with
  | ['Z'] => true
  | ['z'] => true
  | c :: hm =>
      (c = '+' || c = '-') &&
        match Text.fields ':' hm with
        | [h, m] =>
            (twoDigits? 23 h).isSome &&
              (twoDigits? 59 m).isSome
        | _ => false
  | [] => false

/- The characters that an offset can begin with. -/
def beginsOffset
    (c : Char) : Bool :=
  c = 'Z' || c = 'z' || c = '+' || c = '-'

/- Is the text a time of day, perhaps with an offset? -/
def isFullTime
    (cs : List Char) : Bool :=
  let time := cs.takeWhile (fun c => !beginsOffset c)
  let offset := cs.dropWhile (fun c => !beginsOffset c)
  isTimeOfDay time && (offset.isEmpty || isOffset offset)

/- The characters that separate a date from a time. -/
def isTimeMark
    (c : Char) : Bool :=
  c = 'T' || c = 't' || c = ' '

/- The number of characters of a date. -/
def dateLength : Nat :=
  10

/- Is the text a date, a time of day, or both? -/
def isTime
    (cs : List Char) : Bool :=
  if isTimeOfDay cs then
    true
  else
    isDate (cs.take dateLength) &&
      match cs.drop dateLength with
      | [] => true
      | mark :: time => isTimeMark mark && isFullTime time

------------------------------------------------------------
-- Words
------------------------------------------------------------

/- The value of a word. -/
def scalar?
    (cs : List Char) : Option Value :=
  if cs = ['t', 'r', 'u', 'e'] then
    some (.boolean true)
  else if cs = ['f', 'a', 'l', 's', 'e'] then
    some (.boolean false)
  else
    match integer? cs with
    | some n => some (.integer n)
    | none =>
        match float? cs with
        | some inRange => some (.float inRange)
        | none => if isTime cs then some .time else none

end Toml

end Gatehouse
