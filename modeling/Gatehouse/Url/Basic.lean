import Gatehouse.Url.Form
import Gatehouse.Url.Host

/-
  URLs and their text.

  The parts of a URL are kept as they are written, with what
  must be percent-encoded encoded.  A URL without an
  authority may have a path that is not divided.

  Key definitions include:
    * `Url`
    * `Url.Path`
    * `Url.chars`
    * `Url.hasHost`
    * `Url.target`
    * `Url.withPairs`
-/

namespace Gatehouse

/- The path of a URL. -/
inductive Url.Path where
  | undivided (cs : List Char)
  | segments (ss : List (List Char))
  deriving DecidableEq, Repr

/- A URL in its parts. -/
structure Url where
  scheme : List Char
  user : List Char
  password : List Char
  /- The host, if there is an authority. -/
  host : Option Url.Host
  port : Option Nat
  path : Url.Path
  query : Option (List Char)
  fragment : Option (List Char)
  deriving DecidableEq, Repr

namespace Url

------------------------------------------------------------
-- Schemes
------------------------------------------------------------

/- The schemes with a default port, and that port. -/
def defaultPorts : List (List Char × Nat) :=
  [(['h', 't', 't', 'p'], 80),
   (['h', 't', 't', 'p', 's'], 443),
   (['w', 's'], 80),
   (['w', 's', 's'], 443),
   (['f', 't', 'p'], 21)]

/- The port of a scheme where none is written. -/
def defaultPort?
    (scheme : List Char) : Option Nat :=
  (defaultPorts.find? (fun e => e.1 = scheme)).map Prod.snd

/- The scheme of local files. -/
def fileScheme : List Char :=
  ['f', 'i', 'l', 'e']

/- Is the scheme special? -/
def isSpecial
    (scheme : List Char) : Bool :=
  scheme = fileScheme || (defaultPort? scheme).isSome

------------------------------------------------------------
-- Text
------------------------------------------------------------

/- The text of a path. -/
def Path.chars :
    Path → List Char
  | .undivided cs => cs
  | .segments ss => ss.flatMap ('/' :: ·)

/- The text of a user name and a password. -/
def userChars
    (u : Url) : List Char :=
  if u.user.isEmpty && u.password.isEmpty then
    []
  else if u.password.isEmpty then
    u.user ++ ['@']
  else
    u.user ++ ':' :: u.password ++ ['@']

/- The text of the port, if it is written. -/
def portChars
    (u : Url) : List Char :=
  match u.port with
  | none => []
  | some n => ':' :: Decimal.digits n

/-
  The text of the authority.  A path that begins with two
  slashes is kept apart from one.
-/
def authorityChars
    (u : Url) : List Char :=
  match u.host with
  | some h =>
      '/' :: '/' :: u.userChars ++ h.chars ++ u.portChars
  | none =>
      if ['/', '/'].isPrefixOf u.path.chars then
        ['/', '.']
      else
        []

/- The text after a mark, if there is one. -/
def suffixChars
    (mark : Char) :
    Option (List Char) → List Char
  | none => []
  | some cs => mark :: cs

/- The text of a URL. -/
def chars
    (u : Url) : List Char :=
  u.scheme ++ ':' :: u.authorityChars ++ u.path.chars ++
    suffixChars '?' u.query ++ suffixChars '#' u.fragment

/- The text of a URL. -/
def write
    (u : Url) : String :=
  String.ofList u.chars

/- Has the URL a host of one character at least? -/
def hasHost
    (u : Url) : Bool :=
  match u.host with
  | none => false
  | some .empty => false
  | some _ => true

/- The path and the query, as a request asks for them. -/
def target
    (u : Url) : String :=
  String.ofList (u.path.chars ++ suffixChars '?' u.query)

/- The host and the port, as a request names them. -/
def hostAndPort
    (u : Url) : String :=
  match u.host with
  | none => ""
  | some h => String.ofList (h.chars ++ u.portChars)

/- Append pairs to the query. -/
def withPairs
    (u : Url)
    (ps : List (String × String)) : Url :=
  let added := Form.encodePairs ps
  let query :=
    match u.query with
    | none => added
    | some [] => added
    | some cs =>
        if ps.isEmpty then cs else cs ++ '&' :: added
  { u with query := some query }

end Url

end Gatehouse
