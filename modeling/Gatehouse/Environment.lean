import Gatehouse.Table
import Gatehouse.Text.Utf8

/-
  Variables of the environment.

  A variable holds octets.  One whose octets are no text
  reads as if it were not set.

  Key definitions include:
    * `Environment`
    * `Environment.text?`
    * `Environment.textOrEmpty`
    * `Environment.home`
-/

namespace Gatehouse

/- The variables that are set. -/
structure Environment where
  assigned : Table String (List UInt8)

namespace Environment

/- No variable is set. -/
def empty : Environment :=
  ⟨Table.empty⟩

/- Set a variable. -/
def set
    (e : Environment)
    (name : String)
    (octets : List UInt8) : Environment :=
  ⟨e.assigned.insert name octets⟩

/- Take a variable out. -/
def unset
    (e : Environment)
    (name : String) : Environment :=
  ⟨e.assigned.erase name⟩

/- The text of a variable. -/
def text?
    (e : Environment)
    (name : String) : Option String :=
  (e.assigned.get? name).bind Utf8.decode?

/- The text of a variable, empty if there is none. -/
def textOrEmpty
    (e : Environment)
    (name : String) : String :=
  (e.text? name).getD ""

/- The variable with the home of the owner of the process. -/
def homeVariable : String :=
  "HOME"

/-
  The home of the owner of the process: the variable, unless
  it is empty, or else the home on record.
-/
def home
    (e : Environment)
    (onRecord : String) : String :=
  let named := e.textOrEmpty homeVariable
  if named.isEmpty then onRecord else named

end Environment

end Gatehouse
