import Gatehouse.Toml.Scalar
import Gatehouse.Toml.Text
import Gatehouse.Toml.Tree

/-
  TOML documents.

  A document is a sequence of lines: keys with values, and
  headers of tables.  A value may go over several lines
  inside brackets and braces.

  Key definitions include:
    * `Toml.skipFiller`
    * `Toml.readValue`
    * `Toml.Statement`
    * `Toml.readStatements`
    * `Toml.ofText?`
-/

namespace Gatehouse

namespace Toml

------------------------------------------------------------
-- Between the Values
------------------------------------------------------------

/- Drop a comment, if one comes next. -/
def skipComment :
    List Char → List Char
  | '#' :: cs => cs.dropWhile isPlain
  | cs => cs

/- Drop blanks, comments and ends of lines. -/
def skipFiller :
    Nat → List Char → List Char
  | 0, cs => cs
  | n + 1, cs =>
      let after := skipSpace cs
      match after with
      | '#' :: _ =>
          match dropLineEnd? (skipComment after) with
          | none => after
          | some rest => skipFiller n rest
      | _ =>
          match dropLineEnd? after with
          | none => after
          | some rest => skipFiller n rest

/- Drop all blanks, comments and ends of lines. -/
def skipAll
    (cs : List Char) : List Char :=
  skipFiller (cs.length + 1) cs

/- Drop what may stand at the end of a line, and the end. -/
def endLine?
    (cs : List Char) : Option (List Char) :=
  match skipComment (skipSpace cs) with
  | [] => some []
  | rest => dropLineEnd? rest

------------------------------------------------------------
-- Values
------------------------------------------------------------

/- The characters of a word. -/
def isWordChar
    (c : Char) : Bool :=
  c.isAlphanum || c = '-' || c = '_' || c = '+' ||
    c = '.' || c = ':'

/- A word; a date takes a time after a blank along. -/
def scanWord
    (cs : List Char) : List Char × List Char :=
  let word := cs.takeWhile isWordChar
  let rest := cs.dropWhile isWordChar
  match rest with
  | ' ' :: c :: more =>
      if isDate word && Decimal.isDigit c then
        (word ++ ' ' :: (c :: more).takeWhile isWordChar,
          (c :: more).dropWhile isWordChar)
      else
        (word, rest)
  | _ => (word, rest)

/- The value of a word. -/
def readWord
    (cs : List Char) : Scan Value :=
  let (word, rest) := scanWord cs
  (scalar? word).map fun v => (v, rest)

/- How deep arrays and inline tables may be nested. -/
def greatestDepth : Nat :=
  80

/- Read the items of an array after its bracket. -/
def readItems
    (readOne : List Char → Scan Value) :
    Nat → List Char → Scan (List Value)
  | 0, _ => none
  | n + 1, cs =>
      match skipAll cs with
      | ']' :: rest => some ([], rest)
      | here =>
          match readOne here with
          | none => none
          | some (v, rest) =>
              match skipAll rest with
              | ']' :: rest => some ([v], rest)
              | ',' :: rest =>
                  (readItems readOne n rest).map
                    fun (vs, rest) => (v :: vs, rest)
              | _ => none

/- Read a key and its value. -/
def readPair
    (readOne : List Char → Scan Value)
    (cs : List Char) : Scan (List String × Value) :=
  match scanKey cs with
  | some (path, '=' :: rest) =>
      (readOne (skipSpace rest)).map fun (v, rest) =>
        ((path, v), rest)
  | _ => none

/- Read the pairs of an inline table after its brace. -/
def readPairs
    (readOne : List Char → Scan Value) :
    Nat → List Char → Scan (List (List String × Value))
  | 0, _ => none
  | n + 1, cs =>
      match skipAll cs with
      | '\x7d' :: rest => some ([], rest)
      | here =>
          match readPair readOne here with
          | none => none
          | some (p, rest) =>
              match skipAll rest with
              | '\x7d' :: rest => some ([p], rest)
              | ',' :: rest =>
                  (readPairs readOne n rest).map
                    fun (ps, rest) => (p :: ps, rest)
              | _ => none

/- Read a value that is nested at most so deep. -/
def readValue :
    Nat → List Char → Scan Value
  | 0, '[' :: _ => none
  | 0, '\x7b' :: _ => none
  | depth + 1, '[' :: cs =>
      (readItems (readValue depth) (cs.length + 1) cs).map
        fun (vs, rest) => (.array vs, rest)
  | depth + 1, '\x7b' :: cs =>
      match readPairs (readValue depth)
          (cs.length + 1) cs with
      | none => none
      | some (ps, rest) =>
          (assignAll? ps []).map fun es =>
            (.table (settle es), rest)
  | _, '"' :: cs =>
      (scanText ('"' :: cs)).map fun (s, rest) =>
        (.text (String.ofList s), rest)
  | _, '\x27' :: cs =>
      (scanText ('\x27' :: cs)).map fun (s, rest) =>
        (.text (String.ofList s), rest)
  | _, cs => readWord cs

------------------------------------------------------------
-- Statements
------------------------------------------------------------

/- What a line says. -/
inductive Statement where
  | pair (path : List String) (v : Value)
  | header (path : List String)
  | seriesHeader (path : List String)

/- Read a header of a series after its two brackets. -/
def readSeriesHeader
    (cs : List Char) : Scan Statement :=
  match scanKey (skipSpace cs) with
  | some (path, ']' :: ']' :: rest) =>
      some (.seriesHeader path, rest)
  | _ => none

/- Read a header of a table after its bracket. -/
def readHeader
    (cs : List Char) : Scan Statement :=
  match scanKey (skipSpace cs) with
  | some (path, ']' :: rest) => some (.header path, rest)
  | _ => none

/- Read what a line says. -/
def readStatement :
    List Char → Scan Statement
  | '[' :: '[' :: cs => readSeriesHeader cs
  | '[' :: cs => readHeader cs
  | cs =>
      (readPair (readValue greatestDepth) cs).map
        fun ((path, v), rest) => (.pair path v, rest)

/- Read all statements.  The number bounds them. -/
def readStatements :
    Nat → List Char → Option (List Statement)
  | 0, _ => none
  | n + 1, cs =>
      match skipAll cs with
      | [] => some []
      | here =>
          match endLine? here with
          | some [] => some []
          | _ =>
              match readStatement here with
              | none => none
              | some (s, rest) =>
                  match endLine? rest with
                  | none => none
                  | some rest =>
                      (readStatements n rest).map (s :: ·)

------------------------------------------------------------
-- Documents
------------------------------------------------------------

/- The pairs at the start, and the statements after them. -/
def splitPairs :
    List Statement →
      List (List String × Value) × List Statement
  | .pair path v :: ss =>
      let (ps, rest) := splitPairs ss
      ((path, v) :: ps, rest)
  | ss => ([], ss)

/- Add what the headers and the pairs below them say. -/
def addSections? :
    Nat → List Statement → Entries → Option Entries
  | _, [], es => some es
  | 0, _, _ => none
  | n + 1, .header path :: ss, es =>
      let (ps, rest) := splitPairs ss
      (openTable? path ps es).bind (addSections? n rest)
  | n + 1, .seriesHeader path :: ss, es =>
      let (ps, rest) := splitPairs ss
      (appendTable? path ps es).bind (addSections? n rest)
  | _ + 1, .pair _ _ :: _, _ => none

/- The table that statements describe. -/
def build?
    (ss : List Statement) : Option Value :=
  let (ps, rest) := splitPairs ss
  ((assignAll? ps []).bind
    (addSections? (rest.length + 1) rest)).map
      fun es => .table (settle es)

/- The characters after a mark of the byte order. -/
def dropMark :
    List Char → List Char
  | c :: cs => if c.toNat = 0xFEFF then cs else c :: cs
  | [] => []

/- The table that a document describes. -/
def ofText?
    (s : String) : Option Value :=
  let cs := dropMark s.toList
  (readStatements (cs.length + 1) cs).bind build?

end Toml

end Gatehouse
