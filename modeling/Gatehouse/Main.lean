import Gatehouse.Settings.Load

/-
  The command line.

  The program loads the settings that a gateway is to be run
  with, and tells whether one can be run with them.  The
  path of the settings comes after a flag, or else from a
  variable.

  Key definitions include:
    * `CommandLine.givenPath?`
    * `CommandLine.report`
    * `main`
-/

namespace Gatehouse

namespace CommandLine

------------------------------------------------------------
-- What Is Asked and Told
------------------------------------------------------------

/- The flag before the path of the settings. -/
def pathFlag : String :=
  "--config"

/- The path after the first flag for it. -/
def givenPath? :
    List String → Option String
  | [] => none
  | a :: rest =>
      if a = pathFlag then rest.head? else givenPath? rest

/- What a person is told of settings that were loaded. -/
def summary
    (s : Settings) : String :=
  "configuration loaded: provider " ++
    s.draft.provider.name ++ " at " ++
    s.draft.server.address.write

/- What a person is told of settings with a fault. -/
def complaint
    (path : String)
    (f : Settings.Fault) : String :=
  "failed to load config from " ++ path ++ ": " ++
    f.message?.getD "not a well formed document"

/- The text for a person, and the code of the exit. -/
def report
    (path : String) :
    Except Settings.Fault Settings → String × UInt32
  | .ok s => (summary s, 0)
  | .error f => (complaint path f, 1)

/- The file with the secret that a document names. -/
def secretFile?
    (document : String) : Option String :=
  (Settings.Draft.ofText? document).bind
    (·.provider.secretFile)

/- A reader that knows what some paths gave. -/
def readerOf
    (known : List (String × Except FileTree.ReadFault String)) :
    FileTree.TextReader :=
  fun path => (known.lookup path).getD (.error .missing)

------------------------------------------------------------
-- The System
------------------------------------------------------------

/- The fault behind an error of the system. -/
def faultOf :
    IO.Error → FileTree.ReadFault
  | .noFileOrDirectory _ _ _ => .missing
  | .noSuchThing _ _ _ => .missing
  | e@(.permissionDenied _ code _) =>
      if code = 13 then .denied else .other (toString e)
  | .inappropriateType _ code _ =>
      if code = 21 then .isDirectory else .notDirectory
  | e => .other (toString e)

/- The text of the file at a path. -/
def readText
    (path : String) :
    IO (Except FileTree.ReadFault String) := do
  try
    let octets ← IO.FS.readBinFile path
    return FileTree.textOf octets.toList
  catch e =>
    return .error (faultOf e)

/- The variables that settings depend on. -/
def variableNames : List String :=
  [Settings.pathVariable,
   Settings.secretVariable,
   Settings.redirectsVariable]

/- The environment as far as settings depend on it. -/
def environment :
    IO Environment := do
  let mut e := Environment.empty
  for name in variableNames do
    if let some text ← IO.getEnv name then
      e := e.set name (Utf8.encode text)
  return e

/- The reader for the settings at a path. -/
def readerFor
    (path : String) : IO FileTree.TextReader := do
  let document ← readText path
  let named := document.toOption.bind secretFile?
  match named with
  | none => return readerOf [(path, document)]
  | some file =>
      let secret ← readText file
      return readerOf [(path, document), (file, secret)]

end CommandLine

end Gatehouse

open Gatehouse in
/- Load the settings and tell how that went. -/
def main (arguments : List String) : IO UInt32 := do
  let e ← CommandLine.environment
  let path :=
    Settings.choosePath
      (CommandLine.givenPath? arguments) e
  let reader ← CommandLine.readerFor path
  let (text, code) :=
    CommandLine.report path (Settings.load e reader path)
  if code = 0 then
    IO.println text
  else
    IO.eprintln text
  return code
