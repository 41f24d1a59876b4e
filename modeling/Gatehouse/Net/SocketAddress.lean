import Gatehouse.Net.Ip

/-
  Addresses with ports.

  A text names an address and a port; an address of version
  6 stands in brackets and may have a scope.  Numbers but
  those in an address of version 4 may have leading zeros.

  Key definitions include:
    * `SocketAddress`
    * `SocketAddress.ofText?`
    * `SocketAddress.write`
-/

namespace Gatehouse

/- Where connections are accepted. -/
inductive SocketAddress where
  | v4 (address port : Nat)
  | v6 (address : Ip.V6) (scope port : Nat)
  deriving DecidableEq, Repr

namespace SocketAddress

/- The greatest port. -/
def greatestPort : Nat :=
  65535

/- The greatest scope. -/
def greatestScope : Nat :=
  4294967295

/- The port of a text that begins with a colon. -/
def port?
    (cs : List Char) : Option Nat :=
  match cs with
  | ':' :: ds => Decimal.bounded? greatestPort ds
  | _ => none

/- The scope of a text that begins with a percent sign. -/
def scope?
    (cs : List Char) : Option Nat :=
  match cs with
  | [] => some 0
  | _ :: ds => Decimal.bounded? greatestScope ds

/- The address and the port of version 4 in a text. -/
def readV4?
    (cs : List Char) : Option SocketAddress := do
  let address ←
    Ip.dottedV4? (cs.takeWhile (· ≠ ':'))
  let port ← port? (cs.dropWhile (· ≠ ':'))
  some (.v4 address port)

/- The address and the port of version 6 after a bracket. -/
def readV6?
    (cs : List Char) : Option SocketAddress := do
  let inside := cs.takeWhile (· ≠ ']')
  let address ←
    Ip.readV6? (inside.takeWhile (· ≠ '%'))
  let scope ← scope? (inside.dropWhile (· ≠ '%'))
  let port ← port? ((cs.dropWhile (· ≠ ']')).drop 1)
  some (.v6 address scope port)

/- The address and the port that a text names. -/
def ofText?
    (s : String) : Option SocketAddress :=
  match s.toList with
  | '[' :: cs => readV6? cs
  | cs => readV4? cs

/- The text of an address of version 6. -/
def addressText
    (a : Ip.V6) : List Char :=
  match a.groups with
  | [0, 0, 0, 0, 0, 65535, high, low] =>
      [':', ':', 'f', 'f', 'f', 'f', ':'] ++
        Ip.writeV4 (high * 65536 + low)
  | _ => a.write

/- The text of an address with a port. -/
def write :
    SocketAddress → String
  | .v4 address port =>
      String.ofList
        (Ip.writeV4 address ++ ':' :: Decimal.digits port)
  | .v6 address scope port =>
      let mark :=
        if scope = 0 then [] else '%' :: Decimal.digits scope
      String.ofList
        ('[' :: addressText address ++ mark ++
          ']' :: ':' :: Decimal.digits port)

end SocketAddress

end Gatehouse
