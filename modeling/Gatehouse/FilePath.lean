import Gatehouse.Text.Blank

/-
  Names of files.

  A path is a text whose components are separated by
  slashes.  Joining an absolute path to another leaves the
  absolute path alone.

  Key definitions include:
    * `FilePath.join`
    * `FilePath.isAbsolute`
    * `FilePath.components`
-/

namespace Gatehouse

namespace FilePath

/- Does the path begin at the root? -/
def isAbsolute
    (p : String) : Bool :=
  p.toList.head? = some '/'

/-
  The path `b` as seen from `a`.  A slash is put between them
  unless `a` is empty or ends in one.
-/
def join
    (a b : String) : String :=
  if isAbsolute b then
    b
  else if a.isEmpty || a.toList.getLast? = some '/' then
    a ++ b
  else
    a ++ "/" ++ b

/- The components of a path. -/
def components
    (p : String) : List String :=
  (Text.fields '/' p.toList).map String.ofList

end FilePath

end Gatehouse
