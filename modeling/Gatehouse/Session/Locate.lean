import Gatehouse.Http.Header
import Gatehouse.Text.Blank
import Gatehouse.Url.Form

/-
  The session id of a request.

  The id is looked for in a header field of its own, then
  in the query, then in the authorization.  A place without
  a usable value is passed over.

  Key definitions include:
    * `Session.idInField?`
    * `Session.idInQuery?`
    * `Session.idInBearer?`
    * `Session.locate?`
-/

namespace Gatehouse

namespace Session

/- A trimmed text, unless it is blank. -/
def usable?
    (s : String) : Option String :=
  let t := Text.trim s
  if t.isEmpty then none else some t

/- The id in the field for session ids. -/
def idInField?
    (hs : List Http.Header) : Option String :=
  (Http.firstText? hs "x-session-id").bind usable?

/- The id in the query, as it is. -/
def idInQuery?
    (query : List UInt8) : Option String :=
  ((Form.pairs query).find? (fun p =>
    p.1 = "session_id" && !p.2.isEmpty)).map Prod.snd

/- What stands before a bearer token. -/
def bearerMark : List Char :=
  ['B', 'e', 'a', 'r', 'e', 'r', ' ']

/- The text after a beginning, if the text begins so. -/
def textAfter?
    (beginning : List Char)
    (s : String) : Option String :=
  if beginning.isPrefixOf s.toList then
    some (String.ofList (s.toList.drop beginning.length))
  else
    none

/- The id in the authorization. -/
def idInBearer?
    (hs : List Http.Header) : Option String :=
  ((Http.firstText? hs "authorization").bind
    (textAfter? bearerMark)).bind usable?

/- The id of a request, from the first usable place. -/
def locate?
    (hs : List Http.Header)
    (query : Option (List UInt8)) : Option String :=
  idInField? hs <|>
    query.bind idInQuery? <|>
    idInBearer? hs

end Session

end Gatehouse
