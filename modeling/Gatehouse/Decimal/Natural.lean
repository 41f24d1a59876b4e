/-
  Natural numbers in decimal text.

  Key definitions include:
    * `Decimal.isDigit`
    * `Decimal.ofDigits`
    * `Decimal.natural?`
    * `Decimal.bounded?`
    * `Decimal.word64?`
-/

namespace Gatehouse

namespace Decimal

/- The ten digits of ASCII. -/
def isDigit
    (c : Char) : Bool :=
  48 ≤ c.toNat && c.toNat ≤ 57

/- The value of a digit. -/
def digitValue
    (c : Char) : Nat :=
  c.toNat - 48

/- The number that a list of digits denotes. -/
def ofDigits
    (cs : List Char) : Nat :=
  cs.foldl (fun n c => n * 10 + digitValue c) 0

/- The digits of a number. -/
def digits
    (n : Nat) : List Char :=
  Nat.toDigits 10 n

/- The text of a number. -/
def text
    (n : Nat) : String :=
  String.ofList (digits n)

/- The text of a number of either sign. -/
def signedText
    (n : Int) : String :=
  if n < 0 then "-" ++ text n.natAbs else text n.natAbs

/- A number written as one or more digits. -/
def natural?
    (cs : List Char) : Option Nat :=
  if !cs.isEmpty && cs.all isDigit then
    some (ofDigits cs)
  else
    none

/- A number of digits that does not exceed a bound. -/
def bounded?
    (greatest : Nat)
    (cs : List Char) : Option Nat :=
  (natural? cs).filter (fun n => decide (n ≤ greatest))

/- The greatest unsigned number of sixty-four bits. -/
def greatestWord64 : Nat :=
  18446744073709551615

/- An unsigned word; one plus sign may stand before it. -/
def word64?
    (cs : List Char) : Option Nat :=
  match cs with
  | '+' :: rest => bounded? greatestWord64 rest
  | _ => bounded? greatestWord64 cs

end Decimal

end Gatehouse
