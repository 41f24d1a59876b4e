import Gatehouse.Url.Basic

/-
  Reading URLs.

  Controls and spaces around the text and tabs and line ends
  within it do not count.  A scheme must come first.  The
  authority ends at a slash, a question mark or a number
  sign; its last at sign ends the user name, and a colon
  outside brackets begins the port.  The dots in a path are
  resolved.

  Key definitions include:
    * `Url.scheme?`
    * `Url.readAuthority`
    * `Url.readPath`
    * `Url.parse`
-/

namespace Gatehouse

namespace Url

------------------------------------------------------------
-- Cleaning and Scheme
------------------------------------------------------------

/- Is the character a control or a space? -/
def isOuter
    (c : Char) : Bool :=
  c.toNat ≤ 0x20

/- Is the character passed over everywhere? -/
def isPassedOver
    (c : Char) : Bool :=
  c = '\t' || c = '\n' || c = '\r'

/- The characters that count. -/
def clean
    (cs : List Char) : List Char :=
  let inner :=
    ((cs.dropWhile isOuter).reverse.dropWhile isOuter).reverse
  inner.filter (!isPassedOver ·)

/- Is the character a letter of ASCII? -/
def isLetter
    (c : Char) : Bool :=
  let n := c.toNat
  (65 ≤ n && n ≤ 90) || (97 ≤ n && n ≤ 122)

/- May the character stand in a scheme? -/
def isSchemeChar
    (c : Char) : Bool :=
  isLetter c || Decimal.isDigit c || c = '+' || c = '-' ||
    c = '.'

/- The scheme in lower case, and what follows its colon. -/
def scheme?
    (cs : List Char) :
    Option (List Char × List Char) :=
  let name := cs.takeWhile isSchemeChar
  match cs.head?, cs.dropWhile isSchemeChar with
  | some c, ':' :: rest =>
      if isLetter c then
        some (name.map Char.toLower, rest)
      else
        none
  | _, _ => none

------------------------------------------------------------
-- Authority
------------------------------------------------------------

/- Does the character end an authority? -/
def endsAuthority
    (special : Bool)
    (c : Char) : Bool :=
  c = '/' || c = '?' || c = '#' || (special && c = '\\')

/- Does the character separate the segments of a path? -/
def isSlash
    (special : Bool)
    (c : Char) : Bool :=
  c = '/' || (special && c = '\\')

/- The part before the last at sign and the part after it. -/
def splitUser
    (cs : List Char) :
    Option (List Char) × List Char :=
  let reversed := cs.reverse
  let after := (reversed.takeWhile (· ≠ '@')).reverse
  match reversed.dropWhile (· ≠ '@') with
  | [] => (none, after)
  | _ :: before => (some before.reverse, after)

/- The length of a host that a colon may end. -/
def hostLength :
    Bool → List Char → Nat
  | _, [] => 0
  | bracket, c :: cs =>
      if c = ':' && !bracket then
        0
      else
        1 + hostLength
          (c = '[' || (bracket && c ≠ ']')) cs

/-
  The port and what follows it.  Digits are read as long as
  the number fits in sixteen bits.
-/
def readPort
    (n : Nat) :
    List Char → Except Fault (Nat × List Char)
  | [] => .ok (n, [])
  | c :: cs =>
      if Decimal.isDigit c then
        let next := n * 10 + Decimal.digitValue c
        if 65535 < next then
          .error .port
        else
          readPort next cs
      else if c = '/' || c = '\\' || c = '?' || c = '#' then
        .ok (n, c :: cs)
      else
        .error .port

/- The user name and the password. -/
def readUser
    (cs : List Char) : List Char × List Char :=
  let encode := Percent.encodeChars Percent.userSet
  (encode (cs.takeWhile (· ≠ ':')),
    encode ((cs.dropWhile (· ≠ ':')).drop 1))

/- An authority and what follows it. -/
structure Authority where
  user : List Char
  password : List Char
  host : Host
  port : Option Nat
  rest : List Char

/- Read an authority after its two slashes. -/
def readAuthority
    (scheme cs : List Char) :
    Except Fault Authority := do
  let special := isSpecial scheme
  let whole := cs.takeWhile (!endsAuthority special ·)
  let rest := cs.dropWhile (!endsAuthority special ·)
  let (userPart, place) := splitUser whole
  let nobody := userPart = some []
  if nobody && place.isEmpty && !rest.isEmpty then
    throw .emptyHost
  let (user, password) := readUser (userPart.getD [])
  let length := hostLength false place
  let hostPart := place.take length
  let portPart := place.drop length
  if special && hostPart.isEmpty then
    throw .emptyHost
  let host ←
    if special then
      Host.ofSpecial hostPart
    else
      Host.ofOther hostPart
  if host = .empty && !portPart.isEmpty then
    throw .emptyHost
  let (port, rest) ←
    match portPart with
    | [] => pure (none, rest)
    | _ :: digits => do
        let (n, left) ← readPort 0 (digits ++ rest)
        let written := (digits.head?.map Decimal.isDigit)
        if written = some true &&
            defaultPort? scheme ≠ some n then
          pure (some n, left)
        else
          pure (none, left)
  if host = .empty &&
      !(user.isEmpty && password.isEmpty) then
    throw .emptyHost
  pure ⟨user, password, host, port, rest⟩

------------------------------------------------------------
-- Path
------------------------------------------------------------

/- Lower the case of a percent-encoded dot, and decode it. -/
def plainDots :
    List Char → List Char
  | '%' :: '2' :: e :: rest =>
      if e = 'e' || e = 'E' then
        '.' :: plainDots rest
      else
        '%' :: '2' :: plainDots (e :: rest)
  | c :: rest => c :: plainDots rest
  | [] => []

/- Does the segment stay where it is? -/
def isSingleDot
    (s : List Char) : Bool :=
  plainDots s = ['.']

/- Does the segment go up by one? -/
def isDoubleDot
    (s : List Char) : Bool :=
  plainDots s = ['.', '.']

/- Is the segment a drive letter with a colon or a bar? -/
def isDrive
    (s : List Char) : Bool :=
  match s with
  | [a, b] => isLetter a && (b = ':' || b = '|')
  | _ => false

/- Drop the last segment; a file keeps its drive. -/
def shorten
    (file : Bool)
    (ss : List (List Char)) : List (List Char) :=
  match ss with
  | [s] => if file && isDrive s then ss else []
  | _ => ss.dropLast

/-
  Append a segment to a path.  `more` says whether a slash
  ends the segment.
-/
def appendSegment
    (file more : Bool)
    (ss : List (List Char))
    (s : List Char) : List (List Char) :=
  if isDoubleDot s then
    let short := shorten file ss
    if more then short else short ++ [[]]
  else if isSingleDot s then
    if more then ss else ss ++ [[]]
  else if file && ss.isEmpty && isDrive s then
    [s.take 1 ++ [':']]
  else
    ss ++ [s]

/- Read the segments of a path without its first slash. -/
def readSegments
    (special file : Bool) :
    List (List Char) → List Char → List Char →
      List (List Char)
  | ss, s, [] => appendSegment file false ss s
  | ss, s, c :: cs =>
      if isSlash special c then
        readSegments special file
          (appendSegment file true ss s) [] cs
      else
        readSegments special file ss
          (s ++ Percent.encodeChar Percent.pathSet c) cs

/- Does the character end a path? -/
def endsPath
    (c : Char) : Bool :=
  c = '?' || c = '#'

/- The path after an authority. -/
def readPath
    (special file : Bool)
    (cs : List Char) : List (List Char) :=
  match cs with
  | [] => if special then [[]] else []
  | c :: rest =>
      if isSlash special c then
        readSegments special file [] [] rest
      else
        readSegments special file [] [] cs

/- A file path keeps one slash at its start. -/
def singleRoot
    (ss : List (List Char)) : List (List Char) :=
  match ss.dropWhile (·.isEmpty) with
  | [] => [[]]
  | kept => kept

------------------------------------------------------------
-- Query and Fragment
------------------------------------------------------------

/- The query and the fragment at the end of a text. -/
def readSuffix
    (special : Bool)
    (cs : List Char) :
    Option (List Char) × Option (List Char) :=
  let set :=
    if special then
      Percent.specialQuerySet
    else
      Percent.querySet
  let fragment := fun (rest : List Char) =>
    match rest with
    | [] => none
    | _ :: ds =>
        some (Percent.encodeChars Percent.fragmentSet ds)
  match cs with
  | '?' :: rest =>
      let query := rest.takeWhile (· ≠ '#')
      (some (Percent.encodeChars set query),
        fragment (rest.dropWhile (· ≠ '#')))
  | rest => (none, fragment rest)

------------------------------------------------------------
-- Whole URLs
------------------------------------------------------------

/- A URL with an authority. -/
def withAuthority
    (scheme cs : List Char) :
    Except Fault Url := do
  let special := isSpecial scheme
  let a ← readAuthority scheme cs
  let path := a.rest.takeWhile (!endsPath ·)
  let (query, fragment) :=
    readSuffix special (a.rest.dropWhile (!endsPath ·))
  pure
    { scheme := scheme
      user := a.user
      password := a.password
      host := some a.host
      port := a.port
      path := .segments (readPath special false path)
      query := query
      fragment := fragment }

/- The host of a local file; the local host counts as none. -/
def fileHost
    (cs : List Char) : Except Fault Host :=
  match cs with
  | [] => .ok .empty
  | _ => do
      let h ← Host.ofSpecial cs
      if h = .name "localhost".toList then
        pure .empty
      else
        pure h

/- A URL of a local file. -/
def ofFile
    (cs : List Char) : Except Fault Url := do
  let slash := isSlash true
  let (host, rest) ←
    match cs with
    | a :: b :: rest =>
        if slash a && slash b then
          let part := rest.takeWhile (!endsAuthority true ·)
          if isDrive part then
            pure (Host.empty, rest)
          else do
            let h ← fileHost part
            pure (h, rest.dropWhile (!endsAuthority true ·))
        else
          pure (Host.empty, cs)
    | _ => pure (Host.empty, cs)
  let path := rest.takeWhile (!endsPath ·)
  let segments := readPath true true path
  let (query, fragment) :=
    readSuffix true (rest.dropWhile (!endsPath ·))
  let kept :=
    if segments.head?.any isDrive then Host.empty else host
  pure
    { scheme := fileScheme
      user := []
      password := []
      host := some kept
      port := none
      path := .segments (singleRoot segments)
      query := query
      fragment := fragment }

/- A URL without an authority. -/
def withoutAuthority
    (scheme cs : List Char) : Url :=
  let text := cs.takeWhile (!endsPath ·)
  let (query, fragment) :=
    readSuffix false (cs.dropWhile (!endsPath ·))
  let path :=
    match text with
    | '/' :: rest =>
        Path.segments (readSegments false false [] [] rest)
    | _ =>
        Path.undivided
          (Percent.encodeChars Percent.controlSet text)
  { scheme := scheme
    user := []
    password := []
    host := none
    port := none
    path := path
    query := query
    fragment := fragment }

/- The URL of a list of characters. -/
def ofChars
    (cs : List Char) : Except Fault Url :=
  match scheme? (clean cs) with
  | none => .error .noBase
  | some (scheme, rest) =>
      if scheme = fileScheme then
        ofFile rest
      else if isSpecial scheme then
        withAuthority scheme
          (rest.dropWhile (isSlash true ·))
      else
        match rest with
        | '/' :: '/' :: rest => withAuthority scheme rest
        | _ => .ok (withoutAuthority scheme rest)

/- The URL of a text. -/
def parse
    (s : String) : Except Fault Url :=
  ofChars s.toList

end Url

end Gatehouse
