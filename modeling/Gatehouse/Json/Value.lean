import Gatehouse.Decimal.Natural
import Gatehouse.Text.Hex

/-
  JSON values and their compact text.

  A value is written without white space; members keep
  their order.  In a text only the quote, the backslash and
  the control characters below U+0020 are escaped.

  Key definitions include:
    * `Json.Value`
    * `Json.escape`
    * `Json.quote`
    * `Json.Value.write`
    * `Json.Value.sorted`
-/

namespace Gatehouse

namespace Json

/- A value to be written. -/
inductive Value where
  | null
  | boolean (b : Bool)
  | natural (n : Nat)
  | text (s : String)
  | array (items : List Value)
  | object (members : List (String × Value))

/- A text, or null in its absence. -/
def Value.ofText? :
    Option String → Value
  | none => .null
  | some s => .text s

/- An array of texts. -/
def Value.ofTexts
    (ss : List String) : Value :=
  .array (ss.map .text)

------------------------------------------------------------
-- Writing
------------------------------------------------------------

/- A character inside quotes. -/
def escape
    (c : Char) : List Char :=
  if c = '"' then ['\\', '"']
  else if c = '\\' then ['\\', '\\']
  else if c.toNat = 8 then ['\\', 'b']
  else if c.toNat = 9 then ['\\', 't']
  else if c.toNat = 10 then ['\\', 'n']
  else if c.toNat = 12 then ['\\', 'f']
  else if c.toNat = 13 then ['\\', 'r']
  else if c.toNat < 32 then
    '\\' :: 'u' :: Hex.paddedChars 4 c.toNat
  else [c]

/- A text between quotes. -/
def quote
    (cs : List Char) : List Char :=
  '"' :: cs.flatMap escape ++ ['"']

mutual

/- The characters of a value. -/
def Value.chars :
    Value → List Char
  | .null => ['n', 'u', 'l', 'l']
  | .boolean true => ['t', 'r', 'u', 'e']
  | .boolean false => ['f', 'a', 'l', 's', 'e']
  | .natural n => Decimal.digits n
  | .text s => quote s.toList
  | .array [] => ['[', ']']
  | .array (v :: vs) =>
      '[' :: (Value.chars v ++ Value.itemChars vs)
  | .object [] => ['{', '}']
  | .object ((k, v) :: ms) =>
      '{' :: (quote k.toList ++
        ':' :: (Value.chars v ++ Value.memberChars ms))

/- The characters of the items after the first. -/
def Value.itemChars :
    List Value → List Char
  | [] => [']']
  | v :: vs =>
      ',' :: (Value.chars v ++ Value.itemChars vs)

/- The characters of the members after the first. -/
def Value.memberChars :
    List (String × Value) → List Char
  | [] => ['}']
  | (k, v) :: ms =>
      ',' :: (quote k.toList ++
        ':' :: (Value.chars v ++ Value.memberChars ms))

end

/- The compact text of a value. -/
def Value.write
    (v : Value) : String :=
  String.ofList v.chars

------------------------------------------------------------
-- Sorting
------------------------------------------------------------

mutual

/- A value with the members of all objects sorted by name. -/
def Value.sorted :
    Value → Value
  | .array items => .array (sortedItems items)
  | .object ms =>
      .object ((sortedMembers ms).mergeSort
        (fun a b => decide (a.1 ≤ b.1)))
  | v => v

/- Items with the members of all objects sorted. -/
def Value.sortedItems :
    List Value → List Value
  | [] => []
  | v :: vs => v.sorted :: sortedItems vs

/- Members with the members of all objects sorted. -/
def Value.sortedMembers :
    List (String × Value) → List (String × Value)
  | [] => []
  | (k, v) :: ms => (k, v.sorted) :: sortedMembers ms

end

end Json

end Gatehouse
