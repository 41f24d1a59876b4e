import Gatehouse.Net.Ip
import Gatehouse.Url.HostName
import Gatehouse.Url.Percent

/-
  Hosts of URLs.

  The host of a special scheme is an address or a name in
  ASCII form; a name whose last label is a number must be an
  address of version 4.  The host of another scheme is any
  text without the characters that delimit it.

  Key definitions include:
    * `Url.Fault`
    * `Url.Host`
    * `Url.Host.ofSpecial`
    * `Url.Host.ofOther`
    * `Url.Host.chars`
-/

namespace Gatehouse

namespace Url

------------------------------------------------------------
-- Faults
------------------------------------------------------------

/- Why a text is no URL. -/
inductive Fault where
  | noBase
  | emptyHost
  | port
  | addressV4
  | addressV6
  | hostName
  | hostCharacter
  deriving DecidableEq, Repr

/- The text of a fault. -/
def Fault.message :
    Fault → String
  | .noBase => "relative URL without a base"
  | .emptyHost => "empty host"
  | .port => "invalid port number"
  | .addressV4 => "invalid IPv4 address"
  | .addressV6 => "invalid IPv6 address"
  | .hostName => "invalid international domain name"
  | .hostCharacter => "invalid domain character"

/- The host of a URL with an authority. -/
inductive Host where
  | empty
  | name (cs : List Char)
  | addressV4 (n : Nat)
  | addressV6 (a : Ip.V6)
  deriving DecidableEq, Repr

namespace Host

/- The text of a host. -/
def chars :
    Host → List Char
  | .empty => []
  | .name cs => cs
  | .addressV4 n => Ip.writeV4 n
  | .addressV6 a => '[' :: a.write ++ [']']

------------------------------------------------------------
-- Addresses of Version 4
------------------------------------------------------------

/-
  A number in base ten, in base eight after a zero, or in
  base sixteen after `0x`.  A prefix alone is zero.
-/
def number?
    (cs : List Char) : Option Nat :=
  let inBase := fun (base : Nat) (ds : List Char) =>
    if ds.all (fun c =>
        match Hex.value? c with
        | some d => decide (d < base)
        | none => false) then
      some (ds.foldl
        (fun n c => n * base + (Hex.value? c).getD 0) 0)
    else
      none
  match cs with
  | [] => none
  | '0' :: 'x' :: ds => inBase 16 ds
  | '0' :: 'X' :: ds => inBase 16 ds
  | '0' :: d :: ds => inBase 8 (d :: ds)
  | ds => inBase 10 ds

/- Is the last label of a name a number? -/
def endsInNumber
    (labels : List (List Char)) : Bool :=
  let isNumber := fun (l : List Char) =>
    (!l.isEmpty && l.all Decimal.isDigit) ||
      (number? l).isSome
  match labels.reverse with
  | [] => false
  | [] :: [] => false
  | [] :: l :: _ => isNumber l
  | l :: _ => isNumber l

/- The parts of an address; the last fills what is left. -/
def combine? :
    Nat → List Nat → Option Nat
  | _, [] => none
  | left, [n] => if n < Nat.pow 256 left then some n else none
  | left, n :: ns =>
      if n < 256 then
        (combine? (left - 1) ns).map
          (n * Nat.pow 256 (left - 1) + ·)
      else
        none

/- The address of labels; an empty last label is dropped. -/
def addressV4?
    (labels : List (List Char)) : Option Nat :=
  let labels :=
    if labels.getLast? = some [] then
      labels.dropLast
    else
      labels
  if 4 < labels.length then
    none
  else
    let numbers := labels.map number?
    if numbers.all Option.isSome then
      combine? 4 (numbers.filterMap id)
    else
      none

------------------------------------------------------------
-- Reading
------------------------------------------------------------

/- What may not stand in any host. -/
def isDelimiter
    (c : Char) : Bool :=
  c.toNat = 0 || c = '\t' || c = '\n' || c = '\r' ||
    c = ' ' || c = '#' || c = '/' || c = ':' || c = '<' ||
    c = '>' || c = '?' || c = '@' || c = '[' || c = '\\' ||
    c = ']' || c = '^' || c = '|'

/- What may not stand in a name. -/
def isForbidden
    (c : Char) : Bool :=
  isDelimiter c || c.toNat < 0x20 || c = '%' ||
    c.toNat = 0x7F

/- An address of version 6 in brackets. -/
def bracketed?
    (cs : List Char) : Except Fault Host :=
  if cs.getLast? = some ']' then
    match Ip.readV6? cs.dropLast with
    | some a => .ok (.addressV6 a)
    | none => .error .addressV6
  else
    .error .addressV6

/- The ASCII form of a name that may be percent-encoded. -/
def nameOf?
    (cs : List Char) : Option (List Char) :=
  match Utf8.decode? (Percent.decodeChars cs) with
  | none => none
  | some s =>
      match HostName.toAscii? s.toList with
      | none => none
      | some ascii =>
          if ascii.any isForbidden then none else some ascii

/- The host of a special scheme. -/
def ofSpecial
    (cs : List Char) : Except Fault Host :=
  match cs with
  | '[' :: rest => bracketed? rest
  | _ =>
      match nameOf? cs with
      | none => .error .hostName
      | some [] => .error .emptyHost
      | some ascii =>
          let labels := Text.fields '.' ascii
          if endsInNumber labels then
            match addressV4? labels with
            | some n => .ok (.addressV4 n)
            | none => .error .addressV4
          else
            .ok (.name ascii)

/- The host of any other scheme. -/
def ofOther
    (cs : List Char) : Except Fault Host :=
  match cs with
  | '[' :: rest => bracketed? rest
  | [] => .ok .empty
  | _ =>
      if cs.any isDelimiter then
        .error .hostCharacter
      else
        .ok (.name
          (Percent.encodeChars Percent.controlSet cs))

end Host

end Url

end Gatehouse
