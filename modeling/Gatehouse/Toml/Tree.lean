import Gatehouse.Toml.Value

/-
  Tables under construction.

  A table comes into being with its own header, as part of a
  longer header, or by keys with dots.  It may be defined
  once only; a series of tables grows by a table with each
  of its headers.  What stands under a path is found in the
  last table of each series on the way.

  Key definitions include:
    * `Toml.Origin`
    * `Toml.Item`
    * `Toml.descend?`
    * `Toml.assign?`
    * `Toml.openTable?`
    * `Toml.appendTable?`
    * `Toml.settle`
-/

namespace Gatehouse

namespace Toml

/- How a table came into being. -/
inductive Origin where
  /- By a header of its own. -/
  | headed
  /- As part of a longer header. -/
  | implied
  /- By a key with dots. -/
  | dotted
  deriving DecidableEq, Repr

/- What stands under a key so far. -/
inductive Item where
  /- A value that nothing can be added to. -/
  | settled (v : Value)
  | growing (origin : Origin) (entries : List (String × Item))
  /- Tables with one header, the latest first. -/
  | series (tables : List (List (String × Item)))

/- The entries of a table. -/
abbrev Entries :=
  List (String × Item)

------------------------------------------------------------
-- Entries
------------------------------------------------------------

/- The item of a key. -/
def Entries.find?
    (es : Entries)
    (key : String) : Option Item :=
  (List.find? (fun e => decide (e.1 = key)) es).map Prod.snd

/- Give a key an item, in its place or at the end. -/
def Entries.put :
    Entries → String → Item → Entries
  | [], key, item => [(key, item)]
  | (k, i) :: es, key, item =>
      if k = key then
        (key, item) :: es
      else
        (k, i) :: Entries.put es key item

/-
  Change the entries under a path, making the tables that
  are missing.  The change is told how the table under the
  path came into being.
-/
def descend?
    (origin : Origin)
    (change : Origin → Entries → Option Entries) :
    List String → Origin → Entries → Option Entries
  | [], here, es => change here es
  | k :: ks, _, es =>
      match es.find? k with
      | none =>
          (descend? origin change ks origin []).map fun sub =>
            es.put k (.growing origin sub)
      | some (.settled _) => none
      | some (.series []) => none
      | some (.series (latest :: earlier)) =>
          (descend? origin change ks .headed latest).map
            fun sub => es.put k (.series (sub :: earlier))
      | some (.growing there sub) =>
          if origin = .dotted && there = .headed then
            none
          else
            (descend? origin change ks there sub).map
              fun sub => es.put k (.growing there sub)

/- The last name of a path, after those before it. -/
def splitLast? :
    List String → Option (List String × String)
  | [] => none
  | [k] => some ([], k)
  | k :: ks =>
      (splitLast? ks).map fun (before, last) =>
        (k :: before, last)

------------------------------------------------------------
-- Keys with Values
------------------------------------------------------------

/- Add a key that is not there yet. -/
def addKey?
    (key : String)
    (v : Value)
    (es : Entries) : Option Entries :=
  match es.find? key with
  | some _ => none
  | none => some (es.put key (.settled v))

/-
  Give a key, perhaps with dots, a value.  A table that a
  header made takes no keys through dots.
-/
def assign?
    (path : List String)
    (v : Value)
    (es : Entries) : Option Entries :=
  match splitLast? path with
  | none => none
  | some ([], key) => addKey? key v es
  | some (before, key) =>
      descend? .dotted
        (fun here sub =>
          if here = .dotted then addKey? key v sub else none)
        before .headed es

/- Give keys their values, one after the other. -/
def assignAll? :
    List (List String × Value) → Entries → Option Entries
  | [], es => some es
  | (path, v) :: ps, es =>
      (assign? path v es).bind (assignAll? ps)

------------------------------------------------------------
-- Headers
------------------------------------------------------------

/- Define a table with a header of its own. -/
def openTable?
    (path : List String)
    (pairs : List (List String × Value))
    (es : Entries) : Option Entries :=
  match splitLast? path with
  | none => none
  | some (before, key) =>
      descend? .implied
        (fun _ sub =>
          let fill (es : Entries) : Option Entries :=
            (assignAll? pairs es).map fun es =>
              sub.put key (.growing .headed es)
          match sub.find? key with
          | none => fill []
          | some (.growing .implied es) => fill es
          | some _ => none)
        before .headed es

/- Add a table to the series of a header. -/
def appendTable?
    (path : List String)
    (pairs : List (List String × Value))
    (es : Entries) : Option Entries :=
  match splitLast? path with
  | none => none
  | some (before, key) =>
      descend? .implied
        (fun _ sub =>
          (assignAll? pairs []).bind fun table =>
            match sub.find? key with
            | none => some (sub.put key (.series [table]))
            | some (.series tables) =>
                some (sub.put key (.series (table :: tables)))
            | some _ => none)
        before .headed es

------------------------------------------------------------
-- Finished Values
------------------------------------------------------------

mutual

/- The value of an item. -/
def Item.settle :
    Item → Value
  | .settled v => v
  | .growing _ es => .table (settle es)
  | .series tables => .array (settleAll tables).reverse

/- The entries of a finished table. -/
def settle :
    List (String × Item) → List (String × Value)
  | [] => []
  | (k, i) :: es => (k, i.settle) :: settle es

/- The finished tables of a series. -/
def settleAll :
    List (List (String × Item)) → List Value
  | [] => []
  | es :: tables => .table (settle es) :: settleAll tables

end

end Toml

end Gatehouse
