import Gatehouse.FilePath
import Gatehouse.Table
import Gatehouse.Text.Utf8

/-
  Files, and what gives what they hold.

  A reader answers for a path with the octets of a file, or
  with the fault that keeps them away.  Nothing more is said
  of it, as any system may stand behind it.

  A tree is a system that is spelled out.  It maps places,
  which are lists of names below the root, to files and
  directories.  A path begins at the root or at the working
  directory and is walked name by name; each step needs a
  directory to go on from.

  Key definitions include:
    * `FileTree`
    * `FileTree.ReadFault`
    * `FileTree.Reader`
    * `FileTree.TextReader`
    * `FileTree.put`
    * `FileTree.remove`
    * `FileTree.read`
    * `FileTree.readText`
-/

namespace Gatehouse

/- What stands at a place. -/
inductive FileTree.Entry where
  | file (octets : List UInt8)
  /- A file that the process may not read. -/
  | locked
  | directory
  deriving DecidableEq, Repr

/- The places that are taken, and where relative paths begin. -/
structure FileTree where
  working : List String
  places : Table (List String) FileTree.Entry

namespace FileTree

------------------------------------------------------------
-- Readers
------------------------------------------------------------

/- Why a file cannot be read. -/
inductive ReadFault where
  | missing
  | denied
  | isDirectory
  | notDirectory
  | nameTooLong
  | nameWithNul
  | notText
  /- A fault of another kind, in the words of the system. -/
  | other (text : String)
  deriving DecidableEq, Repr

/- The text of a fault. -/
def ReadFault.message :
    ReadFault → String
  | .missing => "No such file or directory (os error 2)"
  | .denied => "Permission denied (os error 13)"
  | .isDirectory => "Is a directory (os error 21)"
  | .notDirectory => "Not a directory (os error 20)"
  | .nameTooLong => "File name too long (os error 36)"
  | .nameWithNul =>
      "file name contained an unexpected NUL byte"
  | .notText => "stream did not contain valid UTF-8"
  | .other t => t

/- What gives the octets of the file at a path. -/
abbrev Reader :=
  String → Except ReadFault (List UInt8)

/- What gives the text of the file at a path. -/
abbrev TextReader :=
  String → Except ReadFault String

/- The text that octets stand for, if they do. -/
def textOf
    (octets : List UInt8) : Except ReadFault String :=
  match Utf8.decode? octets with
  | none => .error .notText
  | some s => .ok s

/- A reader of texts: what it reads must stand for one. -/
def Reader.readText
    (read : Reader) : TextReader :=
  fun path =>
    match read path with
    | .error f => .error f
    | .ok octets => textOf octets

------------------------------------------------------------
-- Places
------------------------------------------------------------

/- The tree of an empty working directory. -/
def empty : FileTree :=
  ⟨["work"], Table.empty⟩

/-
  What stands at a place.  The working directory and all
  places above it are directories.
-/
def found?
    (t : FileTree)
    (place : List String) : Option Entry :=
  if place.isPrefixOf t.working then
    some .directory
  else
    t.places.get? place

/- The place where a path begins. -/
def origin
    (t : FileTree)
    (path : String) : List String :=
  if FilePath.isAbsolute path then [] else t.working

/-
  The place that a name leads to.  Empty names and single
  dots stay, double dots go up as far as there is a way up.
-/
def onward
    (place : List String)
    (name : String) : List String :=
  if name = "" || name = "." then
    place
  else if name = ".." then
    place.dropLast
  else
    place ++ [name]

/- The place that a path names. -/
def placeOf
    (t : FileTree)
    (path : String) : List String :=
  (FilePath.components path).foldl onward (t.origin path)

/- The greatest number of octets of a name. -/
def greatestName : Nat :=
  255

/- The greatest number of octets of a path. -/
def greatestPath : Nat :=
  4095

/- Walk from a place along names. -/
def walk
    (t : FileTree) :
    List String → List String →
      Except ReadFault (List String)
  | place, [] =>
      match t.found? place with
      | none => .error .missing
      | some _ => .ok place
  | place, name :: names =>
      match t.found? place with
      | none => .error .missing
      | some .directory =>
          if greatestName < name.utf8ByteSize then
            .error .nameTooLong
          else
            walk t (onward place name) names
      | some _ => .error .notDirectory

------------------------------------------------------------
-- Changes
------------------------------------------------------------

/- Put an entry at a place. -/
def putAt
    (t : FileTree)
    (place : List String)
    (e : Entry) : FileTree :=
  { t with places := t.places.insert place e }

/- Make a directory of a place where nothing stands. -/
def makeDirectory
    (t : FileTree)
    (place : List String) : FileTree :=
  if (t.places.get? place).isSome then
    t
  else
    t.putAt place .directory

/- The places above a place, from the root on. -/
def above
    (place : List String) : List (List String) :=
  (List.range place.length).map place.take

/- Put an entry at a path, with directories above it. -/
def put
    (t : FileTree)
    (path : String)
    (e : Entry) : FileTree :=
  let place := t.placeOf path
  ((above place).foldl makeDirectory t).putAt place e

/- Remove what stands at a path and below it. -/
def remove
    (t : FileTree)
    (path : String) : FileTree :=
  let place := t.placeOf path
  { t with
    places := t.places.retain fun p _ => !place.isPrefixOf p }

------------------------------------------------------------
-- Reading
------------------------------------------------------------

/- The octets of the file at a path. -/
def read
    (t : FileTree) : Reader :=
  fun path =>
    if path.toList.any (·.toNat = 0) then
      .error .nameWithNul
    else if path.isEmpty then
      .error .missing
    else if greatestPath < path.utf8ByteSize then
      .error .nameTooLong
    else
      match t.walk (t.origin path)
          (FilePath.components path) with
      | .error f => .error f
      | .ok place =>
          match t.found? place with
          | some (.file octets) => .ok octets
          | some .locked => .error .denied
          | _ => .error .isDirectory

/- A tree stands for its reader where one is asked for. -/
instance : Coe FileTree Reader :=
  ⟨read⟩

/- The text of the file at a path. -/
def readText
    (t : FileTree) : TextReader :=
  Reader.readText t.read

end FileTree

end Gatehouse
