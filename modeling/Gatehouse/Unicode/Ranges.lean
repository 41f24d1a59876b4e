import Gatehouse.Text.Hex

/-
  Sets and maps of code points in written form.

  A table is a text of entries with white space between
  them.  An entry begins with a code point or a range of
  code points in hexadecimal; what follows it depends on
  the table.

  Key definitions include:
    * `Unicode.entries`
    * `Unicode.Range`
    * `Unicode.ranges`
    * `Unicode.inRanges`
-/

namespace Gatehouse

namespace Unicode

------------------------------------------------------------
-- Entries
------------------------------------------------------------

/- Append a character to the entries read so far. -/
def collect
    (acc : List Char × List (List Char))
    (c : Char) :
    List Char × List (List Char) :=
  if c = ' ' || c = '\n' then
    if acc.1.isEmpty then
      acc
    else
      ([], acc.1.reverse :: acc.2)
  else
    (c :: acc.1, acc.2)

/- The entries of a table. -/
def entries
    (table : String) : List (List Char) :=
  let (last, others) := table.toList.foldl collect ([], [])
  if last.isEmpty then
    others.reverse
  else
    (last.reverse :: others).reverse

/- A number in hexadecimal; other characters are skipped. -/
def number
    (cs : List Char) : Nat :=
  cs.foldl
    (fun n c =>
      match Hex.value? c with
      | some d => n * 16 + d
      | none => n)
    0

/- The part before a mark, and the part after it. -/
def cut
    (mark : Char)
    (cs : List Char) : List Char × List Char :=
  (cs.takeWhile (· ≠ mark),
    (cs.dropWhile (· ≠ mark)).drop 1)

------------------------------------------------------------
-- Ranges
------------------------------------------------------------

/- The code points between two bounds. -/
structure Range where
  first : Nat
  last : Nat
  deriving DecidableEq, Repr

/- Is the code point between the bounds? -/
def Range.holds
    (r : Range)
    (n : Nat) : Bool :=
  r.first ≤ n && n ≤ r.last

/- The range of an entry such as `41-5A` or `AD`. -/
def Range.ofEntry
    (cs : List Char) : Range :=
  match cut '-' cs with
  | (a, []) => ⟨number a, number a⟩
  | (a, b) => ⟨number a, number b⟩

/- The ranges of a table. -/
def ranges
    (table : String) : List Range :=
  (entries table).map Range.ofEntry

/- Is the code point of a character in one of the ranges? -/
def inRanges
    (rs : List Range)
    (c : Char) : Bool :=
  rs.any (·.holds c.toNat)

end Unicode

end Gatehouse
