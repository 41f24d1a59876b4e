import Gatehouse.Url.Percent

/-
  Form-encoded pairs.

  Pairs are separated by ampersands, a name from its value
  by the first equals sign.  A space is written as a plus
  sign, and every octet but letters, digits and four marks
  is percent-encoded.

  Key definitions include:
    * `Form.encode`
    * `Form.encodePairs`
    * `Form.decode`
    * `Form.pairs`
-/

namespace Gatehouse

namespace Form

------------------------------------------------------------
-- Encoding
------------------------------------------------------------

/- The octets that stand for themselves. -/
def isPlain
    (n : Nat) : Bool :=
  (48 ≤ n && n ≤ 57) || (65 ≤ n && n ≤ 90) ||
    (97 ≤ n && n ≤ 122) || n == 0x2A || n == 0x2D ||
    n == 0x2E || n == 0x5F

/- The written form of an octet. -/
def encodeOctet
    (b : UInt8) : List Char :=
  if isPlain b.toNat then
    [Char.ofNat b.toNat]
  else if b.toNat = 0x20 then
    ['+']
  else
    Percent.encodeOctet b

/- The written form of a text. -/
def encode
    (s : String) : List Char :=
  (Utf8.encode s).flatMap encodeOctet

/- The written form of a pair. -/
def encodePair
    (p : String × String) : List Char :=
  encode p.1 ++ '=' :: encode p.2

/- The written form of pairs. -/
def encodePairs :
    List (String × String) → List Char
  | [] => []
  | [p] => encodePair p
  | p :: ps => encodePair p ++ '&' :: encodePairs ps

------------------------------------------------------------
-- Decoding
------------------------------------------------------------

/- The text of a written name or value. -/
def decode
    (bs : List UInt8) : String :=
  let spaced := bs.map fun b =>
    if b.toNat = 0x2B then 0x20 else b
  Utf8.decodeLossy (Percent.decodeOctets spaced)

/- The parts between the occurrences of an octet. -/
def splitOctets
    (sep : Nat) :
    List UInt8 → List (List UInt8)
  | [] => [[]]
  | b :: bs =>
      if b.toNat = sep then
        [] :: splitOctets sep bs
      else
        match splitOctets sep bs with
        | [] => [[b]]
        | p :: ps => (b :: p) :: ps

/- The pair of a part; a part without value is a name. -/
def pair
    (bs : List UInt8) : String × String :=
  let name := bs.takeWhile (fun b => b.toNat ≠ 0x3D)
  let value :=
    (bs.dropWhile (fun b => b.toNat ≠ 0x3D)).drop 1
  (decode name, decode value)

/- The pairs of a written form; empty parts are no pairs. -/
def pairs
    (bs : List UInt8) : List (String × String) :=
  ((splitOctets 0x26 bs).filter (!·.isEmpty)).map pair

end Form

end Gatehouse
