/-
  The SHA-256 digest.

  A message is padded to whole blocks of sixteen words.  A
  block is worked off by sixty-four rounds over eight
  working words; the schedule is a window of sixteen words
  that slides on by one word in each round.

  Key definitions include:
    * `Sha256.pad`
    * `Sha256.round`
    * `Sha256.compress`
    * `Sha256.digest`
-/

namespace Gatehouse

namespace Sha256

------------------------------------------------------------
-- Words
------------------------------------------------------------

/- Rotate a word to the right. -/
def rotate
    (x n : UInt32) : UInt32 :=
  (x >>> n) ||| (x <<< (32 - n))

/- The four octets of a word, the greatest first. -/
def octets
    (x : UInt32) : List UInt8 :=
  [(x >>> 24).toUInt8, (x >>> 16).toUInt8,
    (x >>> 8).toUInt8, x.toUInt8]

/- The words of a list of octets, four for each. -/
def words :
    List UInt8 → List UInt32
  | a :: b :: c :: d :: rest =>
      ((a.toUInt32 <<< 24) ||| (b.toUInt32 <<< 16) |||
        (c.toUInt32 <<< 8) ||| d.toUInt32) :: words rest
  | _ => []

------------------------------------------------------------
-- Constants
------------------------------------------------------------

/- The words added in the sixty-four rounds. -/
def roundWords : List UInt32 :=
  [0x428a2f98, 0x71374491, 0xb5c0fbcf, 0xe9b5dba5,
   0x3956c25b, 0x59f111f1, 0x923f82a4, 0xab1c5ed5,
   0xd807aa98, 0x12835b01, 0x243185be, 0x550c7dc3,
   0x72be5d74, 0x80deb1fe, 0x9bdc06a7, 0xc19bf174,
   0xe49b69c1, 0xefbe4786, 0x0fc19dc6, 0x240ca1cc,
   0x2de92c6f, 0x4a7484aa, 0x5cb0a9dc, 0x76f988da,
   0x983e5152, 0xa831c66d, 0xb00327c8, 0xbf597fc7,
   0xc6e00bf3, 0xd5a79147, 0x06ca6351, 0x14292967,
   0x27b70a85, 0x2e1b2138, 0x4d2c6dfc, 0x53380d13,
   0x650a7354, 0x766a0abb, 0x81c2c92e, 0x92722c85,
   0xa2bfe8a1, 0xa81a664b, 0xc24b8b70, 0xc76c51a3,
   0xd192e819, 0xd6990624, 0xf40e3585, 0x106aa070,
   0x19a4c116, 0x1e376c08, 0x2748774c, 0x34b0bcb5,
   0x391c0cb3, 0x4ed8aa4a, 0x5b9cca4f, 0x682e6ff3,
   0x748f82ee, 0x78a5636f, 0x84c87814, 0x8cc70208,
   0x90befffa, 0xa4506ceb, 0xbef9a3f7, 0xc67178f2]

/- The eight working words. -/
structure Working where
  a : UInt32
  b : UInt32
  c : UInt32
  d : UInt32
  e : UInt32
  f : UInt32
  g : UInt32
  h : UInt32
  deriving DecidableEq, Repr

namespace Working

/- The words before the first block. -/
def initial : Working :=
  ⟨0x6a09e667, 0xbb67ae85, 0x3c6ef372, 0xa54ff53a,
   0x510e527f, 0x9b05688c, 0x1f83d9ab, 0x5be0cd19⟩

/- Add word by word. -/
def add
    (x y : Working) : Working :=
  ⟨x.a + y.a, x.b + y.b, x.c + y.c, x.d + y.d,
   x.e + y.e, x.f + y.f, x.g + y.g, x.h + y.h⟩

/- The octets of the words in order. -/
def toOctets
    (x : Working) : List UInt8 :=
  [x.a, x.b, x.c, x.d, x.e, x.f, x.g, x.h].flatMap octets

end Working

------------------------------------------------------------
-- Rounds
------------------------------------------------------------

/- The word that enters the window. -/
def nextWord
    (window : List UInt32) : UInt32 :=
  let x := window.getD 1 0
  let y := window.getD 14 0
  let s0 := rotate x 7 ^^^ rotate x 18 ^^^ (x >>> 3)
  let s1 := rotate y 17 ^^^ rotate y 19 ^^^ (y >>> 10)
  window.getD 0 0 + s0 + window.getD 9 0 + s1

/- One round with its round word and schedule word. -/
def round
    (v : Working)
    (k w : UInt32) : Working :=
  let s1 := rotate v.e 6 ^^^ rotate v.e 11 ^^^ rotate v.e 25
  let choice := (v.e &&& v.f) ^^^ (~~~v.e &&& v.g)
  let t1 := v.h + s1 + choice + k + w
  let s0 := rotate v.a 2 ^^^ rotate v.a 13 ^^^ rotate v.a 22
  let majority :=
    (v.a &&& v.b) ^^^ (v.a &&& v.c) ^^^ (v.b &&& v.c)
  ⟨t1 + s0 + majority, v.a, v.b, v.c, v.d + t1, v.e, v.f,
   v.g⟩

/- The rounds that remain, with the window at the next. -/
def rounds :
    List UInt32 → List UInt32 → Working → Working
  | [], _, v => v
  | k :: ks, window, v =>
      rounds ks (window.drop 1 ++ [nextWord window])
        (round v k (window.getD 0 0))

/- Work off one block. -/
def compress
    (v : Working)
    (block : List UInt32) : Working :=
  v.add (rounds roundWords block v)

/- Work off all blocks; `n` bounds their number. -/
def compressAll :
    Nat → Working → List UInt32 → Working
  | 0, v, _ => v
  | n + 1, v, ws =>
      if ws.isEmpty then
        v
      else
        compressAll n (compress v (ws.take 16)) (ws.drop 16)

------------------------------------------------------------
-- The Digest
------------------------------------------------------------

/- A message with its padding and its length in bits. -/
def pad
    (message : List UInt8) : List UInt8 :=
  let length := message.length
  let zeros := (119 - length % 64) % 64
  let bits := length * 8
  message ++ 0x80 :: List.replicate zeros 0 ++
    (List.range 8).map fun i =>
      UInt8.ofNat (bits / Nat.pow 256 (7 - i))

/- The thirty-two octets of the digest. -/
def digest
    (message : List UInt8) : List UInt8 :=
  let ws := words (pad message)
  (compressAll ws.length Working.initial ws).toOctets

end Sha256

end Gatehouse
