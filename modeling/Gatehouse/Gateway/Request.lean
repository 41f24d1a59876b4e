import Gatehouse.Http.Header
import Gatehouse.Url.Percent

/-
  Requests to the gateway.

  The target of a request is a path and perhaps a query; a
  fragment does not belong to it.

  A request is what the server hands to the gateway.  The
  server reads a body up to a limit of its own, usually of
  two megabytes.  A longer one it refuses with a 413, and
  neither sessions nor shares see the request.

  Key definitions include:
    * `Gateway.Target`
    * `Gateway.Target.ofChars`
    * `Gateway.Request`
-/

namespace Gatehouse

namespace Gateway

/- What a request is about. -/
structure Target where
  path : List Char
  /- What stands after the first question mark. -/
  query : Option (List UInt8)
  deriving DecidableEq, Repr

namespace Target

/- The query after a path. -/
def queryOf :
    List Char → Option (List UInt8)
  | [] => none
  | _ :: cs => some (Utf8.encode (String.ofList cs))

/- The target that is written as a text. -/
def ofChars
    (cs : List Char) : Target :=
  let whole := cs.takeWhile (· ≠ '#')
  let path := whole.takeWhile (· ≠ '?')
  { path := if path.isEmpty then ['/'] else path
    query := queryOf (whole.dropWhile (· ≠ '?')) }

end Target

/- A request as it is handed over, with its whole body. -/
structure Request where
  method : String
  target : Target
  headers : List Http.Header
  body : List UInt8
  deriving DecidableEq, Repr

end Gateway

end Gatehouse
