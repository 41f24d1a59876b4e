import Gatehouse.Decimal.Natural
import Gatehouse.Reading

/-
  JSON documents as they were read.

  A node keeps what the document says: members in order and
  with repetitions, numbers as digits.  A text that does
  not stand for characters, because of an unpaired
  surrogate or an octet that is not UTF-8, is `none`; it is
  at fault only where the text is wanted.

  A structure is read from an object, or from an array that
  lists its fields in order.

  Key definitions include:
    * `Json.Numeral`
    * `Json.Node`
    * `Json.Node.fields?`
    * `Json.Node.text?`
    * `Json.Node.word64?`
    * `Json.Node.texts?`
-/

namespace Gatehouse

namespace Json

------------------------------------------------------------
-- Nodes
------------------------------------------------------------

/- A number as it is written. -/
structure Numeral where
  negative : Bool
  /- The digits before the point. -/
  whole : List Char
  /- The digits after the point. -/
  fraction : List Char
  /- The sign and the digits of the exponent. -/
  exponent : Option (Bool × List Char)
  deriving DecidableEq, Repr

/- A part of a document. -/
inductive Node where
  | null
  | boolean (b : Bool)
  | number (n : Numeral)
  | text (s : Option String)
  | array (items : List Node)
  | object (members : List (Option String × Node))

namespace Node

------------------------------------------------------------
-- Simple Readings
------------------------------------------------------------

/- A text. -/
def text? :
    Node → Option String
  | .text s => s
  | _ => none

/- A natural number of at most sixty-four bits. -/
def word64? :
    Node → Option Nat
  | .number n =>
      if n.negative || !n.fraction.isEmpty ||
          n.exponent.isSome then
        none
      else
        Decimal.bounded? Decimal.greatestWord64 n.whole
  | _ => none

/- A list of nodes that all read alike. -/
def list? {α : Type}
    (read : Node → Option α) :
    Node → Option (List α)
  | .array items => Reading.all? (items.map read)
  | _ => none

/- A list of texts. -/
def texts?
    (n : Node) : Option (List String) :=
  n.list? text?

------------------------------------------------------------
-- Structures
------------------------------------------------------------

/- The values of the members with a name. -/
def named
    (name : String) :
    List (Option String × Node) → List Node
  | [] => []
  | (k, v) :: ms =>
      if k = some name then
        v :: named name ms
      else
        named name ms

/- The one value of a name, or none; never two. -/
def field?
    (ms : List (Option String × Node))
    (name : String) : Option (Option Node) :=
  match named name ms with
  | [] => some none
  | [v] => some (some v)
  | _ :: _ :: _ => none

/-
  The fields of a structure, in the order of their names.
  A field may be absent.  A repeated field, a key that is no
  text, and an item beyond the last field are refused.
-/
def fields?
    (names : List String) :
    Node → Option (List (Option Node))
  | .object ms =>
      if ms.all (fun m => m.1.isSome) then
        Reading.all? (names.map (field? ms))
      else
        none
  | .array items =>
      if items.length ≤ names.length then
        some (names.mapIdx fun i _ => items[i]?)
      else
        none
  | _ => none

/- A field that may be absent or null. -/
def optional {α : Type}
    (read : Node → Option α) :
    Option Node → Option (Option α)
  | none => some none
  | some .null => some none
  | some n => (read n).map some

end Node

end Json

end Gatehouse
