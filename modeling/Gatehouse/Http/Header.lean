import Gatehouse.Text.Utf8

/-
  Header fields.

  The name of a field is compared without regard to the
  case of ASCII letters.  A value is octets; it is text if
  all of them are visible, blanks and tabs included.

  Key definitions include:
    * `Http.Header`
    * `Http.isVisible`
    * `Http.firstText?`
-/

namespace Gatehouse

namespace Http

/- A field of a header. -/
structure Header where
  name : String
  value : List UInt8
  deriving DecidableEq, Repr

/- A blank, a tab, or a printable octet of ASCII. -/
def isVisible
    (b : UInt8) : Bool :=
  (32 ≤ b.toNat && b.toNat ≤ 126) || b.toNat = 9

/- The text of a value, if all of it is visible. -/
def visibleText?
    (bs : List UInt8) : Option String :=
  if bs.all isVisible then
    some (String.ofList (bs.map (Char.ofNat ·.toNat)))
  else
    none

/- The text of the first field with a lower-case name. -/
def firstText?
    (hs : List Header)
    (name : String) : Option String :=
  (hs.find? (fun h => h.name.toLower = name)).bind
    (fun h => visibleText? h.value)

end Http

end Gatehouse
