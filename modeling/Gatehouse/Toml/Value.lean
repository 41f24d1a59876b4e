import Gatehouse.Decimal.Natural
import Gatehouse.Reading

/-
  Values of TOML documents.

  A value keeps what can be told apart when it is read: the
  value of an integer, whether a float is within range, and
  that something is a date or a time.

  A structure is read from a table, or from an array that
  lists its fields in order.  A date or a time is a table
  without a field that anybody knows.

  Key definitions include:
    * `Toml.Value`
    * `Toml.Value.text?`
    * `Toml.Value.word64?`
    * `Toml.Value.texts?`
    * `Toml.Value.fields?`
-/

namespace Gatehouse

namespace Toml

/- A value of a document. -/
inductive Value where
  | text (s : String)
  | integer (n : Int)
  /- A float, and whether it is within range. -/
  | float (inRange : Bool)
  | boolean (b : Bool)
  /- A date, a time, or both. -/
  | time
  | array (items : List Value)
  | table (entries : List (String × Value))

namespace Value

------------------------------------------------------------
-- Simple Readings
------------------------------------------------------------

/- A text. -/
def text? :
    Value → Option String
  | .text s => some s
  | _ => none

/- A natural number of at most sixty-four bits. -/
def word64? :
    Value → Option Nat
  | .integer n =>
      if 0 ≤ n ∧ n ≤ Decimal.greatestWord64 then
        some n.toNat
      else
        none
  | _ => none

/- A list of texts. -/
def texts? :
    Value → Option (List String)
  | .array items => Reading.all? (items.map text?)
  | _ => none

------------------------------------------------------------
-- Values That Are Passed Over
------------------------------------------------------------

/- The least number of a hundred and twenty-eight bits. -/
def leastInteger : Int :=
  -170141183460469231731687303715884105728

/- The greatest number of so many bits without a sign. -/
def greatestInteger : Int :=
  340282366920938463463374607431768211455

mutual

/- Can the value be passed over? -/
def isSound :
    Value → Bool
  | .integer n =>
      decide (leastInteger ≤ n) &&
        decide (n ≤ greatestInteger)
  | .float inRange => inRange
  | .array items => areSound items
  | .table entries => entriesSound entries
  | _ => true

/- Can all values be passed over? -/
def areSound :
    List Value → Bool
  | [] => true
  | v :: vs => isSound v && areSound vs

/- Can the values of all entries be passed over? -/
def entriesSound :
    List (String × Value) → Bool
  | [] => true
  | (_, v) :: es => isSound v && entriesSound es

end

------------------------------------------------------------
-- Structures
------------------------------------------------------------

/- The value of a key. -/
def find?
    (es : List (String × Value))
    (key : String) : Option Value :=
  (es.find? (fun e => e.1 = key)).map Prod.snd

/- The fields of a structure, in the order of their names. -/
def fields?
    (names : List String) :
    Value → Option (List (Option Value))
  | .table es =>
      let others :=
        es.filter (fun e => !names.contains e.1)
      if entriesSound others then
        some (names.map (find? es))
      else
        none
  | .array items => some (names.mapIdx fun i _ => items[i]?)
  | .time => some (names.map fun _ => none)
  | _ => none

/- A field that may be absent. -/
def optional {α : Type}
    (read : Value → Option α) :
    Option Value → Option (Option α)
  | none => some none
  | some v => (read v).map some

end Value

end Toml

end Gatehouse
