import Gatehouse.Decimal.Natural
import Gatehouse.Text.Blank
import Gatehouse.Text.Hex

/-
  Addresses of the internet protocol.

  An address of version 4 is a number below `2 ^ 32`, one of
  version 6 a list of eight groups of sixteen bits.  In the
  text of the latter two colons stand for one or more groups
  of zero.

  Key definitions include:
    * `Ip.writeV4`
    * `Ip.dottedV4?`
    * `Ip.V6`
    * `Ip.readV6?`
    * `Ip.V6.write`
-/

namespace Gatehouse

namespace Ip

------------------------------------------------------------
-- Version 4
------------------------------------------------------------

/- The four octets of an address. -/
def octetsV4
    (n : Nat) : List Nat :=
  [n / 16777216 % 256, n / 65536 % 256, n / 256 % 256,
    n % 256]

/- The text of an address: four numbers between dots. -/
def writeV4
    (n : Nat) : List Char :=
  match (octetsV4 n).map Decimal.digits with
  | [a, b, c, d] =>
      a ++ '.' :: b ++ '.' :: c ++ '.' :: d
  | _ => []

/- A number up to 255 without leading zeros. -/
def octet?
    (cs : List Char) : Option Nat :=
  if 1 < cs.length && cs.head? = some '0' then
    none
  else
    Decimal.bounded? 255 cs

/- An address of four numbers between dots. -/
def dottedV4?
    (cs : List Char) : Option Nat :=
  match (Text.fields '.' cs).map octet? with
  | [some a, some b, some c, some d] =>
      some (((a * 256 + b) * 256 + c) * 256 + d)
  | _ => none

------------------------------------------------------------
-- Version 6
------------------------------------------------------------

/- Eight groups of sixteen bits. -/
structure V6 where
  groups : List Nat
  deriving DecidableEq, Repr

/-
  The groups read so far: those before two colons, and those
  after them if they have been read.
-/
structure Partial where
  before : List Nat
  after : Option (List Nat)
  deriving DecidableEq, Repr

namespace Partial

/- The number of groups accounted for. -/
def count
    (p : Partial) : Nat :=
  match p.after with
  | none => p.before.length
  | some gs => p.before.length + 1 + gs.length

/- Append a group. -/
def push
    (p : Partial)
    (g : Nat) : Partial :=
  match p.after with
  | none => { p with before := p.before ++ [g] }
  | some gs => { p with after := some (gs ++ [g]) }

/- The address, if it is complete. -/
def finish
    (p : Partial) : Option V6 :=
  match p.after with
  | none =>
      if p.before.length = 8 then some ⟨p.before⟩ else none
  | some gs =>
      let zeros := 8 - (p.before.length + gs.length)
      some ⟨p.before ++ List.replicate zeros 0 ++ gs⟩

end Partial

/- The value of hexadecimal digits. -/
def hexValue
    (cs : List Char) : Nat :=
  cs.foldl (fun n c => n * 16 + (Hex.value? c).getD 0) 0

/-
  Read on.  The number bounds the steps; each step consumes
  a character.
-/
def readGroups :
    Nat → Partial → List Char → Option V6
  | _, p, [] => p.finish
  | 0, _, _ => none
  | steps + 1, p, cs =>
      if p.count = 8 then
        none
      else if cs.head? = some ':' then
        if p.after.isSome then
          none
        else
          readGroups steps { p with after := some [] }
            (cs.drop 1)
      else
        let most := cs.take 4
        let ds := most.takeWhile (fun c =>
          (Hex.value? c).isSome)
        match cs.drop ds.length with
        | [] => (p.push (hexValue ds)).finish
        | '.' :: _ =>
            if ds.isEmpty || 6 < p.count then
              none
            else
              match dottedV4? cs with
              | none => none
              | some n =>
                  ((p.push (n / 65536)).push
                    (n % 65536)).finish
        | ':' :: rest =>
            if ds.isEmpty || rest.isEmpty then
              none
            else
              readGroups steps (p.push (hexValue ds)) rest
        | _ => none

/- The address of a text. -/
def readV6?
    (cs : List Char) : Option V6 :=
  match cs with
  | ':' :: ':' :: rest =>
      readGroups cs.length ⟨[], some []⟩ rest
  | ':' :: _ => none
  | [] => none
  | cs => readGroups cs.length ⟨[], none⟩ cs

------------------------------------------------------------
-- Writing Version 6
------------------------------------------------------------

/- The number of zeros at the start. -/
def leadingZeros
    (gs : List Nat) : Nat :=
  (gs.takeWhile (· = 0)).length

/-
  Where the longest run of zeros begins and how long it is;
  of runs of one length, the first.
-/
def longestRun :
    Nat → List Nat → Nat × Nat
  | i, [] => (i, 0)
  | i, g :: gs =>
      let here := leadingZeros (g :: gs)
      let (j, length) := longestRun (i + 1) gs
      if length ≤ here then (i, here) else (j, length)

/- Groups with colons between them. -/
def writeGroups :
    List Nat → List Char
  | [] => []
  | [g] => Nat.toDigits 16 g
  | g :: gs => Nat.toDigits 16 g ++ ':' :: writeGroups gs

/- The shortest text of an address. -/
def V6.write
    (a : V6) : List Char :=
  let (start, length) := longestRun 0 a.groups
  if length < 2 then
    writeGroups a.groups
  else
    writeGroups (a.groups.take start) ++ ':' :: ':' ::
      writeGroups (a.groups.drop (start + length))

end Ip

end Gatehouse
