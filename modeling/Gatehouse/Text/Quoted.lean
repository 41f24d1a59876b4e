import Gatehouse.Text.Hex
import Gatehouse.Unicode.Printable

/-
  Texts between quotes, for people to read.

  Quotes, backslashes and the usual controls are escaped by
  a letter.  A character that would not show, or that would
  only change the one before it, is escaped by the number of
  its code point.

  Key definitions include:
    * `Quoted.escape`
    * `Quoted.quote`
-/

namespace Gatehouse

namespace Quoted

/- The number of a code point in an escape. -/
def escapeNumber
    (c : Char) : List Char :=
  '\\' :: 'u' :: '{' :: Nat.toDigits 16 c.toNat ++ ['}']

/- A character between quotes. -/
def escape
    (c : Char) : List Char :=
  if c.toNat = 0 then ['\\', '0']
  else if c = '\t' then ['\\', 't']
  else if c = '\r' then ['\\', 'r']
  else if c = '\n' then ['\\', 'n']
  else if c = '"' then ['\\', '"']
  else if c = '\\' then ['\\', '\\']
  else if Unicode.extendsGrapheme c then escapeNumber c
  else if Unicode.isPrintable c then [c]
  else escapeNumber c

/- A text between quotes. -/
def quote
    (s : String) : String :=
  String.ofList ('"' :: s.toList.flatMap escape ++ ['"'])

end Quoted

end Gatehouse
