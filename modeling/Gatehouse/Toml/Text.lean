import Gatehouse.Decimal.Natural
import Gatehouse.Text.Hex

/-
  Texts and keys of TOML documents.

  A text stands between one or three quotes of a kind.
  Between double quotes a backslash begins an escape;
  between three, a backslash at the end of a line joins it
  with what comes next.  A key is bare or such a text on one
  line.

  Key definitions include:
    * `Toml.scanBasic`
    * `Toml.scanLiteral`
    * `Toml.scanLongBasic`
    * `Toml.scanLongLiteral`
    * `Toml.scanText`
    * `Toml.scanKey`
-/

namespace Gatehouse

namespace Toml

/- What was scanned, and what follows it. -/
abbrev Scan
    (α : Type) :=
  Option (α × List Char)

/- A blank or a tab. -/
def isSpace
    (c : Char) : Bool :=
  c = ' ' || c = '\t'

/- Drop blanks and tabs. -/
def skipSpace
    (cs : List Char) : List Char :=
  cs.dropWhile isSpace

/- May the character stand in a text or a comment? -/
def isPlain
    (c : Char) : Bool :=
  c = '\t' || (32 ≤ c.toNat && c.toNat ≠ 127)

------------------------------------------------------------
-- Escapes
------------------------------------------------------------

/- The value of some digits in hexadecimal. -/
def hexNumber? :
    List Char → Option Nat
  | cs =>
      cs.foldl
        (fun n c => do
          let n ← n
          let d ← Hex.value? c
          some (n * 16 + d))
        (some 0)

/- The character with a number of some digits. -/
def scanNumbered
    (width : Nat)
    (cs : List Char) : Scan Char :=
  let ds := cs.take width
  if ds.length = width then
    match hexNumber? ds with
    | none => none
    | some n =>
        if n.isValidChar then
          some (Char.ofNat n, cs.drop width)
        else
          none
  else
    none

/- The character of an escape, after the backslash. -/
def scanEscape :
    List Char → Scan Char
  | 'b' :: cs => some (Char.ofNat 8, cs)
  | 't' :: cs => some ('\t', cs)
  | 'n' :: cs => some ('\n', cs)
  | 'f' :: cs => some (Char.ofNat 12, cs)
  | 'r' :: cs => some ('\r', cs)
  | 'e' :: cs => some (Char.ofNat 27, cs)
  | '"' :: cs => some ('"', cs)
  | '\\' :: cs => some ('\\', cs)
  | 'x' :: cs => scanNumbered 2 cs
  | 'u' :: cs => scanNumbered 4 cs
  | 'U' :: cs => scanNumbered 8 cs
  | _ => none

------------------------------------------------------------
-- Texts on One Line
------------------------------------------------------------

/- Put a character in front of what is scanned. -/
def Scan.cons
    (c : Char)
    (s : Scan (List Char)) : Scan (List Char) :=
  s.map fun (cs, rest) => (c :: cs, rest)

/-
  The rest of a text between double quotes.  The number
  bounds the characters.
-/
def scanBasic :
    Nat → List Char → Scan (List Char)
  | 0, _ => none
  | _, [] => none
  | _ + 1, '"' :: cs => some ([], cs)
  | n + 1, '\\' :: cs =>
      match scanEscape cs with
      | none => none
      | some (c, rest) => Scan.cons c (scanBasic n rest)
  | n + 1, c :: cs =>
      if isPlain c then
        Scan.cons c (scanBasic n cs)
      else
        none

/- The rest of a text between single quotes. -/
def scanLiteral :
    List Char → Scan (List Char)
  | [] => none
  | c :: cs =>
      if c = '\x27' then
        some ([], cs)
      else if isPlain c then
        Scan.cons c (scanLiteral cs)
      else
        none

------------------------------------------------------------
-- Texts on Several Lines
------------------------------------------------------------

/- Drop the end of a line, if one comes next. -/
def dropLineEnd? :
    List Char → Option (List Char)
  | '\n' :: cs => some cs
  | '\r' :: '\n' :: cs => some cs
  | _ => none

/- Drop the end of a line at the start of a text. -/
def dropFirstLineEnd
    (cs : List Char) : List Char :=
  (dropLineEnd? cs).getD cs

/-
  What follows a closing of three quotes: up to two more
  quotes belong to the text.
-/
def closeLong
    (quote : Char) :
    List Char → List Char × List Char
  | a :: b :: cs =>
      if a = quote && b = quote then
        ([quote, quote], cs)
      else if a = quote then
        ([quote], b :: cs)
      else
        ([], a :: b :: cs)
  | [a] => if a = quote then ([quote], []) else ([], [a])
  | [] => ([], [])

/- Do three quotes come next? -/
def isClosing
    (quote : Char)
    (cs : List Char) : Bool :=
  cs.take 3 = [quote, quote, quote]

/- Drop blanks and ends of lines. -/
def skipLines :
    List Char → List Char
  | [] => []
  | '\r' :: '\n' :: cs => skipLines cs
  | c :: cs =>
      if isSpace c || c = '\n' then
        skipLines cs
      else
        c :: cs

/- Join lines after a backslash at the end of a line. -/
def joinLines?
    (cs : List Char) : Option (List Char) :=
  (dropLineEnd? (skipSpace cs)).map skipLines

/- A character that goes on in a text of several lines. -/
def scanLongPlain :
    List Char → Scan (List Char)
  | '\n' :: cs => some (['\n'], cs)
  | '\r' :: '\n' :: cs => some (['\r', '\n'], cs)
  | c :: cs => if isPlain c then some ([c], cs) else none
  | [] => none

/- A part of a text between three double quotes. -/
def scanLongPart :
    List Char → Scan (List Char)
  | '\\' :: cs =>
      match joinLines? cs with
      | some rest => some ([], rest)
      | none =>
          (scanEscape cs).map fun (c, rest) => ([c], rest)
  | cs => scanLongPlain cs

/-
  The rest of a text between three quotes, read part by
  part.  The number bounds the parts.
-/
def scanLong
    (quote : Char)
    (part : List Char → Scan (List Char)) :
    Nat → List Char → Scan (List Char)
  | 0, _ => none
  | n + 1, cs =>
      if isClosing quote cs then
        some (closeLong quote (cs.drop 3))
      else
        match part cs with
        | none => none
        | some (ps, rest) =>
            (scanLong quote part n rest).map
              fun (qs, rest) => (ps ++ qs, rest)

/- The rest of a text between three double quotes. -/
def scanLongBasic
    (cs : List Char) : Scan (List Char) :=
  scanLong '"' scanLongPart (cs.length + 1)
    (dropFirstLineEnd cs)

/- The rest of a text between three single quotes. -/
def scanLongLiteral
    (cs : List Char) : Scan (List Char) :=
  scanLong '\x27' scanLongPlain (cs.length + 1)
    (dropFirstLineEnd cs)

------------------------------------------------------------
-- Texts and Keys
------------------------------------------------------------

/- A text on one line. -/
def scanShortText :
    List Char → Scan (List Char)
  | '"' :: cs => scanBasic (cs.length + 1) cs
  | '\x27' :: cs => scanLiteral cs
  | _ => none

/- A text. -/
def scanText
    (cs : List Char) : Scan (List Char) :=
  if isClosing '"' cs then
    scanLongBasic (cs.drop 3)
  else if isClosing '\x27' cs then
    scanLongLiteral (cs.drop 3)
  else
    scanShortText cs

/- The characters of a bare key. -/
def isBare
    (c : Char) : Bool :=
  c.isAlphanum || c = '-' || c = '_'

/- A key without dots outside quotes. -/
def scanSimpleKey
    (cs : List Char) : Scan String :=
  let bare := cs.takeWhile isBare
  if bare.isEmpty then
    (scanShortText cs).map fun (ks, rest) =>
      (String.ofList ks, rest)
  else
    some (String.ofList bare, cs.dropWhile isBare)

/-
  A key: names with dots between them.  The number bounds
  the names.
-/
def scanNames :
    Nat → List Char → Scan (List String)
  | 0, _ => none
  | n + 1, cs =>
      match scanSimpleKey cs with
      | none => none
      | some (k, rest) =>
          match skipSpace rest with
          | '.' :: more =>
              (scanNames n (skipSpace more)).map
                fun (ks, rest) => (k :: ks, rest)
          | after => some ([k], after)

/- A key, and what follows it and the blanks after it. -/
def scanKey
    (cs : List Char) : Scan (List String) :=
  scanNames (cs.length + 1) cs

end Toml

end Gatehouse
