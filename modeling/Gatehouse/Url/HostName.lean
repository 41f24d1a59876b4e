import Gatehouse.Text.Blank
import Gatehouse.Unicode.Bidi
import Gatehouse.Unicode.Composition
import Gatehouse.Unicode.Joining
import Gatehouse.Unicode.Mapping
import Gatehouse.Unicode.Mark
import Gatehouse.Url.Punycode

/-
  Internationalized host names.

  A name is mapped character by character, put into composed
  form and split at its dots into labels.  A label that
  begins with `xn--` is decoded.  Every label must be valid,
  and if a letter of the name is written from right to left,
  so must be its direction.  The ASCII form of the name
  encodes the labels that hold other characters.

  Key definitions include:
    * `HostName.labelChars?`
    * `HostName.isValidLabel`
    * `HostName.hasValidDirection`
    * `HostName.toAscii?`
-/

namespace Gatehouse

namespace HostName

open Unicode

------------------------------------------------------------
-- Joiners
------------------------------------------------------------

/- Does a joiner of either kind stand after a virama? -/
def afterVirama
    (before : List Char) : Bool :=
  match before with
  | c :: _ => isVirama c
  | [] => false

/- Does the first character that is not transparent pass? -/
def beyondTransparent
    (p : Char → Bool)
    (cs : List Char) : Bool :=
  match cs.dropWhile isTransparent with
  | c :: _ => p c
  | [] => false

/-
  Are the joiners in place?  `before` is what was passed, in
  reverse.  A joiner follows a virama; a non-joiner may also
  stand between letters that would join.
-/
def joinersFrom
    (before : List Char) :
    List Char → Bool
  | [] => true
  | c :: cs =>
      let fits :=
        if c.toNat = 0x200C then
          afterVirama before ||
            (beyondTransparent joinsNext before &&
              beyondTransparent joinsPrevious cs)
        else if c.toNat = 0x200D then
          afterVirama before
        else
          true
      fits && joinersFrom (c :: before) cs

------------------------------------------------------------
-- Labels
------------------------------------------------------------

/- Is the character in ASCII? -/
def isAscii
    (c : Char) : Bool :=
  c.toNat < 0x80

/- May the characters stand as a label? -/
def isValidLabel
    (cs : List Char) : Bool :=
  match cs with
  | [] => true
  | c :: _ => !isMark c && joinersFrom [] cs

/- What marks an encoded label. -/
def encodedMark : List Char :=
  ['x', 'n', '-', '-']

/-
  The characters of a label: its own, or those it encodes.
  An encoded label must encode a valid label that is not in
  ASCII alone and is in composed form.
-/
def labelChars?
    (cs : List Char) : Option (List Char) :=
  if encodedMark.isPrefixOf cs then
    match Punycode.decode? (cs.drop 4) with
    | none => none
    | some ds =>
        if cs.all isAscii && !ds.all isAscii &&
            ds.all isValid && normalize ds == ds &&
            isValidLabel ds then
          some ds
        else
          none
  else if isValidLabel cs then
    some cs
  else
    none

/- The ASCII form of a label. -/
def asciiLabel
    (cs : List Char) : List Char :=
  if cs.all isAscii then
    cs
  else
    encodedMark ++ Punycode.encode cs

------------------------------------------------------------
-- Direction
------------------------------------------------------------

/- Is the character of a script written from the right? -/
def isRightward
    (c : Char) : Bool :=
  match direction c with
  | .rightToLeft => true
  | .arabicLetter => true
  | .arabicNumber => true
  | _ => false

/- Does the label end in one of the classes, but for marks? -/
def endsIn
    (ks : List Direction)
    (ds : List Direction) : Bool :=
  match ds.reverse.dropWhile (· == .nonspacingMark) with
  | d :: _ => ks.contains d
  | [] => false

/- The classes that a label of either direction may hold. -/
def neutralClasses : List Direction :=
  [.europeanNumber, .europeanSeparator, .commonSeparator,
   .europeanTerminator, .otherNeutral, .boundaryNeutral,
   .nonspacingMark]

/- Does a label keep one direction? -/
def hasValidDirection
    (cs : List Char) : Bool :=
  let ds := cs.map direction
  match ds with
  | [] => true
  | .leftToRight :: _ =>
      ds.all (fun d =>
        d == .leftToRight || neutralClasses.contains d) &&
      endsIn [.leftToRight, .europeanNumber] ds
  | d :: _ =>
      (d == .rightToLeft || d == .arabicLetter) &&
      ds.all (fun d =>
        d == .rightToLeft || d == .arabicLetter ||
          d == .arabicNumber ||
          neutralClasses.contains d) &&
      endsIn [.rightToLeft, .arabicLetter, .europeanNumber,
        .arabicNumber] ds &&
      !(ds.contains .europeanNumber &&
        ds.contains .arabicNumber)

------------------------------------------------------------
-- Names
------------------------------------------------------------

/- Map all characters of a name. -/
def mapChars? :
    List Char → Option (List Char)
  | [] => some []
  | c :: cs =>
      match mapChar? c, mapChars? cs with
      | some ds, some es => some (ds ++ es)
      | _, _ => none

/- All of a list of labels. -/
def allLabels? :
    List (List Char) → Option (List (List Char))
  | [] => some []
  | l :: ls =>
      match labelChars? l, allLabels? ls with
      | some d, some ds => some (d :: ds)
      | _, _ => none

/- Labels with dots between them. -/
def joinLabels :
    List (List Char) → List Char
  | [] => []
  | [l] => l
  | l :: ls => l ++ '.' :: joinLabels ls

/-
  The ASCII form of a name.  An encoded label stays as it is
  written.
-/
def toAscii?
    (cs : List Char) : Option (List Char) :=
  match mapChars? cs with
  | none => none
  | some mapped =>
      let labels := Text.fields '.' (normalize mapped)
      match allLabels? labels with
      | none => none
      | some decoded =>
          if decoded.all (·.all isAscii) ||
              !decoded.any (·.any isRightward) ||
              decoded.all hasValidDirection then
            some (joinLabels (labels.map asciiLabel))
          else
            none

end HostName

end Gatehouse
