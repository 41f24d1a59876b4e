/-
  Hexadecimal text.

  Octets are written as two lower-case digits each, and
  numbers as digits without leading zeros or padded to a
  width.

  Key definitions include:
    * `Hex.digit`
    * `Hex.ofOctets`
    * `Hex.ofNat`
    * `Hex.padded`
    * `Hex.value?`
-/

namespace Gatehouse

namespace Hex

/- The lower-case digit of a value below sixteen. -/
def digit
    (n : Nat) : Char :=
  if n < 10 then
    Char.ofNat (48 + n)
  else
    Char.ofNat (87 + n)

/- The upper-case digit of a value below sixteen. -/
def upperDigit
    (n : Nat) : Char :=
  if n < 10 then
    Char.ofNat (48 + n)
  else
    Char.ofNat (55 + n)

/- The value of a digit in either case. -/
def value?
    (c : Char) : Option Nat :=
  let n := c.toNat
  if 48 ≤ n && n ≤ 57 then
    some (n - 48)
  else if 97 ≤ n && n ≤ 102 then
    some (n - 87)
  else if 65 ≤ n && n ≤ 70 then
    some (n - 55)
  else
    none

/- Two digits for each octet. -/
def ofOctets
    (bs : List UInt8) : String :=
  String.ofList <|
    bs.flatMap fun b =>
      [digit (b.toNat / 16), digit (b.toNat % 16)]

/- Exactly `width` digits, the value modulo `16 ^ width`. -/
def paddedChars :
    Nat → Nat → List Char
  | 0, _ => []
  | width + 1, n =>
      paddedChars width (n / 16) ++ [digit (n % 16)]

/- Exactly `width` digits, the value modulo `16 ^ width`. -/
def padded
    (width n : Nat) : String :=
  String.ofList (paddedChars width n)

/- The digits of a number without leading zeros. -/
def ofNat
    (n : Nat) : String :=
  String.ofList (Nat.toDigits 16 n)

/- A padded text has the width asked for. -/
@[simp]
theorem length_paddedChars
    (width n : Nat) :
    (paddedChars width n).length = width := by
  induction width generalizing n with
  | zero => rfl
  | succ width ih => simp [paddedChars, ih]

/- Octets take two characters each. -/
theorem length_ofOctets
    (bs : List UInt8) :
    (ofOctets bs).length = 2 * bs.length := by
  simp only [ofOctets, String.length_ofList]
  induction bs with
  | nil => rfl
  | cons b bs ih =>
      simp only [List.flatMap_cons, List.length_append,
        List.length_cons, List.length_nil, ih]
      omega

/- A digit reads back as its value. -/
theorem value?_digit
    (n : Nat)
    (h : n < 16) :
    value? (digit n) = some n := by
  have hall :
      ∀ m ∈ List.range 16,
        value? (digit m) = some m := by
    decide
  exact hall n (List.mem_range.mpr h)

end Hex

end Gatehouse
