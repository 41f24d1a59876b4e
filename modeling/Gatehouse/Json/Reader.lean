import Gatehouse.Json.Node
import Gatehouse.Text.Hex
import Gatehouse.Text.Utf8

/-
  Reading JSON documents.

  The input is a list of characters and faults, as octets
  deliver them.  A document is one value with white space
  around it and nothing else.  Faults are accepted inside
  texts only.

  Key definitions include:
    * `Json.Piece`
    * `Json.scanText`
    * `Json.joinPieces`
    * `Json.scanNumeral`
    * `Json.readValue`
    * `Json.read?`
    * `Json.ofText?`
    * `Json.ofOctets?`
-/

namespace Gatehouse

namespace Json

/- The input: characters, and faults between them. -/
abbrev Input :=
  List (Option Char)

/- The four characters between tokens. -/
def isSpace
    (u : Option Char) : Bool :=
  u = some ' ' || u = some '\n' || u = some '\t' ||
    u = some '\r'

/- Drop the white space before a token. -/
def skipSpace
    (s : Input) : Input :=
  s.dropWhile isSpace

------------------------------------------------------------
-- Texts
------------------------------------------------------------

/- What a text is made of. -/
inductive Piece where
  | char (c : Char)
  /- A unit of sixteen bits from an escape. -/
  | escaped (n : Nat)
  | fault
  deriving DecidableEq, Repr

/- The character of a one-letter escape. -/
def simpleEscape? :
    Char → Option Char
  | '"' => some '"'
  | '\\' => some '\\'
  | '/' => some '/'
  | 'b' => some (Char.ofNat 8)
  | 'f' => some (Char.ofNat 12)
  | 'n' => some '\n'
  | 'r' => some '\r'
  | 't' => some '\t'
  | _ => none

/- The unit of four hexadecimal digits. -/
def unit16?
    (a b c d : Option Char) : Option Nat := do
  let a ← Hex.value? (← a)
  let b ← Hex.value? (← b)
  let c ← Hex.value? (← c)
  let d ← Hex.value? (← d)
  pure (((a * 16 + b) * 16 + c) * 16 + d)

/- The pieces up to the closing quote, and what follows. -/
def scanText :
    Input → Option (List Piece × Input)
  | [] => none
  | some '"' :: rest => some ([], rest)
  | some '\\' :: some 'u' :: a :: b :: c :: d :: rest => do
      let n ← unit16? a b c d
      let (ps, rest) ← scanText rest
      pure (.escaped n :: ps, rest)
  | some '\\' :: some e :: rest => do
      let c ← simpleEscape? e
      let (ps, rest) ← scanText rest
      pure (.char c :: ps, rest)
  | none :: rest => do
      let (ps, rest) ← scanText rest
      pure (.fault :: ps, rest)
  | some c :: rest =>
      if c = '\\' || c.toNat < 32 then
        none
      else do
        let (ps, rest) ← scanText rest
        pure (.char c :: ps, rest)

/- Is the unit the first of a surrogate pair? -/
def isHigh
    (n : Nat) : Bool :=
  0xD800 ≤ n && n ≤ 0xDBFF

/- Is the unit the second of a surrogate pair? -/
def isLow
    (n : Nat) : Bool :=
  0xDC00 ≤ n && n ≤ 0xDFFF

/-
  The characters of the pieces.  Surrogates must come in
  pairs, and there must be no fault.
-/
def joinPieces :
    List Piece → Option (List Char)
  | [] => some []
  | .char c :: ps => (joinPieces ps).map (c :: ·)
  | .fault :: _ => none
  | .escaped h :: ps =>
      if isHigh h then
        match ps with
        | .escaped l :: ps =>
            if isLow l then
              let n :=
                0x10000 + (h - 0xD800) * 0x400 + (l - 0xDC00)
              (joinPieces ps).map (Char.ofNat n :: ·)
            else
              none
        | _ => none
      else if isLow h then
        none
      else
        (joinPieces ps).map (Char.ofNat h :: ·)

/- The text of the pieces, if they are characters. -/
def textOf
    (ps : List Piece) : Option String :=
  (joinPieces ps).map String.ofList

------------------------------------------------------------
-- Numbers
------------------------------------------------------------

/- The digits at the start, and what follows them. -/
def scanDigits :
    Input → List Char × Input
  | some c :: rest =>
      if Decimal.isDigit c then
        let (ds, rest) := scanDigits rest
        (c :: ds, rest)
      else
        ([], some c :: rest)
  | s => ([], s)

/- One or more digits. -/
def scanSomeDigits
    (s : Input) : Option (List Char × Input) :=
  match scanDigits s with
  | ([], _) => none
  | (ds, rest) => some (ds, rest)

/- A point with digits, or nothing. -/
def scanFraction :
    Input → Option (List Char × Input)
  | some '.' :: rest => scanSomeDigits rest
  | s => some ([], s)

/- An exponent with its sign, or nothing. -/
def scanExponent
    (s : Input) :
    Option (Option (Bool × List Char) × Input) :=
  match s with
  | some e :: rest =>
      if e = 'e' || e = 'E' then
        let (negative, rest) :=
          match rest with
          | some '+' :: rest => (false, rest)
          | some '-' :: rest => (true, rest)
          | _ => (false, rest)
        (scanSomeDigits rest).map fun (ds, rest) =>
          (some (negative, ds), rest)
      else
        some (none, s)
  | _ => some (none, s)

/- A number; a zero is not followed by another digit. -/
def scanNumeral
    (s : Input) : Option (Numeral × Input) := do
  let (negative, s) :=
    match s with
    | some '-' :: rest => (true, rest)
    | _ => (false, s)
  let (whole, s) ← scanSomeDigits s
  if 1 < whole.length && whole.head? = some '0' then
    none
  else
    let (fraction, s) ← scanFraction s
    let (exponent, s) ← scanExponent s
    pure (⟨negative, whole, fraction, exponent⟩, s)

------------------------------------------------------------
-- Values
------------------------------------------------------------

/- Drop a word that must come next. -/
def dropWord :
    List Char → Input → Option Input
  | [], s => some s
  | c :: cs, some d :: rest =>
      if c = d then dropWord cs rest else none
  | _ :: _, _ => none

mutual

/-
  A value and what follows it.  The number bounds the steps;
  each step consumes a character.
-/
def readValue :
    Nat → Input → Option (Node × Input)
  | 0, _ => none
  | n + 1, s =>
      match skipSpace s with
      | some '"' :: rest => do
          let (ps, rest) ← scanText rest
          pure (.text (textOf ps), rest)
      | some '[' :: rest =>
          match skipSpace rest with
          | some ']' :: rest => some (.array [], rest)
          | _ => do
              let (items, rest) ← readItems n rest
              pure (.array items, rest)
      | some '{' :: rest =>
          match skipSpace rest with
          | some '}' :: rest => some (.object [], rest)
          | _ => do
              let (members, rest) ← readMembers n rest
              pure (.object members, rest)
      | some 't' :: rest => do
          let rest ← dropWord ['r', 'u', 'e'] rest
          pure (.boolean true, rest)
      | some 'f' :: rest => do
          let rest ← dropWord ['a', 'l', 's', 'e'] rest
          pure (.boolean false, rest)
      | some 'n' :: rest => do
          let rest ← dropWord ['u', 'l', 'l'] rest
          pure (.null, rest)
      | s => do
          let (numeral, rest) ← scanNumeral s
          pure (.number numeral, rest)

/- The items of an array after its opening bracket. -/
def readItems :
    Nat → Input → Option (List Node × Input)
  | 0, _ => none
  | n + 1, s => do
      let (item, rest) ← readValue n s
      match skipSpace rest with
      | some ']' :: rest => pure ([item], rest)
      | some ',' :: rest =>
          let (items, rest) ← readItems n rest
          pure (item :: items, rest)
      | _ => none

/- The members of an object after its opening brace. -/
def readMembers :
    Nat → Input →
      Option (List (Option String × Node) × Input)
  | 0, _ => none
  | n + 1, s =>
      match skipSpace s with
      | some '"' :: rest => do
          let (ps, rest) ← scanText rest
          match skipSpace rest with
          | some ':' :: rest =>
              let (value, rest) ← readValue n rest
              let member := (textOf ps, value)
              match skipSpace rest with
              | some '}' :: rest => pure ([member], rest)
              | some ',' :: rest =>
                  let (ms, rest) ← readMembers n rest
                  pure (member :: ms, rest)
              | _ => none
          | _ => none
      | _ => none

end

/- The one value of a document. -/
def read?
    (s : Input) : Option Node :=
  match readValue (s.length + 1) s with
  | some (node, rest) =>
      if (skipSpace rest).isEmpty then some node else none
  | none => none

/- The value of a document in a text. -/
def ofText?
    (s : String) : Option Node :=
  read? (s.toList.map some)

/- The value of a document in octets. -/
def ofOctets?
    (bs : List UInt8) : Option Node :=
  read? (Utf8.units bs)

end Json

end Gatehouse
