import Gatehouse.Gateway.Request

/-
  Routes.

  A path leads to a place, and a method on a place to what
  is to be done there.  What may be got may also be asked
  for without its body.

  Key definitions include:
    * `Gateway.Place`
    * `Gateway.Place.ofPath?`
    * `Gateway.Task`
    * `Gateway.Place.tasks`
    * `Gateway.Place.allowed`
-/

namespace Gatehouse

namespace Gateway

/- What a path leads to. -/
inductive Place where
  | login
  | callback
  | logout
  | refresh
  | me
  | shares
  /- A share, by its token as it is written in the path. -/
  | share (segment : List Char)
  | health
  | metrics
  deriving DecidableEq, Repr

/- The places with a fixed path. -/
def fixedPlaces : List (String × Place) :=
  [("/auth/login", .login),
   ("/auth/callback", .callback),
   ("/auth/logout", .logout),
   ("/auth/refresh", .refresh),
   ("/auth/me", .me),
   ("/shares", .shares),
   ("/health", .health),
   ("/metrics", .metrics)]

/- What stands before the token of a share. -/
def shareMark : List Char :=
  ['/', 's', 'h', 'a', 'r', 'e', 's', '/']

/- The token in the path of a share. -/
def shareSegment?
    (path : List Char) : Option (List Char) :=
  let segment := path.drop shareMark.length
  if shareMark.isPrefixOf path && !segment.isEmpty &&
      !segment.contains '/' then
    some segment
  else
    none

/- The place that a path leads to. -/
def Place.ofPath?
    (path : List Char) : Option Place :=
  match fixedPlaces.find? (fun e => e.1.toList = path) with
  | some e => some e.2
  | none => (shareSegment? path).map .share

/- What can be done. -/
inductive Task where
  | login
  | callback
  | logout
  | refresh
  | me
  | createShare
  | resolveShare (segment : List Char)
  | revokeShare (segment : List Char)
  | health
  | metrics
  deriving DecidableEq, Repr

/- The tasks of a place by method. -/
def Place.tasks :
    Place → List (String × Task)
  | .login => [("POST", .login)]
  | .callback => [("GET", .callback)]
  | .logout => [("POST", .logout)]
  | .refresh => [("POST", .refresh)]
  | .me => [("GET", .me)]
  | .shares => [("POST", .createShare)]
  | .share t =>
      [("DELETE", .revokeShare t),
       ("GET", .resolveShare t)]
  | .health => [("GET", .health)]
  | .metrics => [("GET", .metrics)]

/- The method that a method is served by. -/
def servedBy
    (method : String) : String :=
  if method = "HEAD" then "GET" else method

/- The task of a method at a place. -/
def Place.task?
    (p : Place)
    (method : String) : Option Task :=
  (p.tasks.find? (fun e => e.1 = servedBy method)).map
    Prod.snd

/- The methods that a place allows. -/
def Place.allowed
    (p : Place) : List String :=
  p.tasks.flatMap fun e =>
    if e.1 = "GET" then ["GET", "HEAD"] else [e.1]

/- The token in a segment, if it is text. -/
def segmentText?
    (segment : List Char) : Option String :=
  Utf8.decode? <|
    Percent.decodeOctets <|
      Utf8.encode (String.ofList segment)

end Gateway

end Gatehouse
