import Gatehouse.Text.Hex
import Gatehouse.Text.Utf8

/-
  Percent-encoding.

  A character that may not stand in its part of a URL is
  written as its octets, each as a percent sign and two
  upper-case digits.  Each part of a URL has its own set of
  such characters; characters beyond ASCII are in all.

  Key definitions include:
    * `Percent.encodeChars`
    * `Percent.decodeOctets`
    * `Percent.fragmentSet`
    * `Percent.querySet`
    * `Percent.pathSet`
    * `Percent.userSet`
-/

namespace Gatehouse

namespace Percent

------------------------------------------------------------
-- Sets
------------------------------------------------------------

/- The controls, and what lies beyond ASCII. -/
def controlSet
    (c : Char) : Bool :=
  c.toNat < 0x20 || 0x7E < c.toNat

/- What is encoded in a fragment. -/
def fragmentSet
    (c : Char) : Bool :=
  controlSet c || c = ' ' || c = '"' || c = '<' ||
    c = '>' || c.toNat = 0x60

/- What is encoded in a query. -/
def querySet
    (c : Char) : Bool :=
  controlSet c || c = ' ' || c = '"' || c = '#' ||
    c = '<' || c = '>'

/- What is encoded in the query of a special scheme. -/
def specialQuerySet
    (c : Char) : Bool :=
  querySet c || c = '\''

/- What is encoded in a path. -/
def pathSet
    (c : Char) : Bool :=
  fragmentSet c || c = '#' || c = '?' || c = '{' || c = '}'

/- What is encoded in a user name or a password. -/
def userSet
    (c : Char) : Bool :=
  pathSet c || c = '/' || c = ':' || c = ';' || c = '=' ||
    c = '@' || c = '[' || c = '\\' || c = ']' || c = '^' ||
    c = '|'

------------------------------------------------------------
-- Encoding
------------------------------------------------------------

/- An octet as a percent sign and two digits. -/
def encodeOctet
    (b : UInt8) : List Char :=
  ['%', Hex.upperDigit (b.toNat / 16),
    Hex.upperDigit (b.toNat % 16)]

/- A character as its octets, if it is in the set. -/
def encodeChar
    (set : Char → Bool)
    (c : Char) : List Char :=
  if set c then
    (String.utf8EncodeChar c).flatMap encodeOctet
  else
    [c]

/- Encode the characters of a set. -/
def encodeChars
    (set : Char → Bool)
    (cs : List Char) : List Char :=
  cs.flatMap (encodeChar set)

------------------------------------------------------------
-- Decoding
------------------------------------------------------------

/- The value of an octet that is a hexadecimal digit. -/
def hexOctet?
    (b : UInt8) : Option Nat :=
  if b.toNat < 0x80 then
    Hex.value? (Char.ofNat b.toNat)
  else
    none

/-
  Replace each percent sign that two digits follow by the
  octet that the digits denote.
-/
def decodeOctets :
    List UInt8 → List UInt8
  | [] => []
  | [a] => [a]
  | [a, b] => [a, b]
  | a :: b :: c :: rest =>
      if a.toNat = 0x25 then
        match hexOctet? b, hexOctet? c with
        | some x, some y =>
            UInt8.ofNat (x * 16 + y) :: decodeOctets rest
        | _, _ => a :: decodeOctets (b :: c :: rest)
      else
        a :: decodeOctets (b :: c :: rest)

/- The octets that encoded characters stand for. -/
def decodeChars
    (cs : List Char) : List UInt8 :=
  decodeOctets (cs.flatMap String.utf8EncodeChar)

end Percent

end Gatehouse
