import Gatehouse.Json.Value
import Gatehouse.Refusal
import Gatehouse.Share.Basic

/-
  Responses of the gateway.

  A refused request is answered with a document that says
  why.  Details of a failure inside are never shown.

  Key definitions include:
    * `Gateway.Response`
    * `Gateway.Problem`
    * `Gateway.Problem.ofRefusal`
    * `Gateway.Problem.ofShare`
    * `Gateway.Problem.respond`
-/

namespace Gatehouse

namespace Gateway

------------------------------------------------------------
-- Responses
------------------------------------------------------------

/- What a response carries. -/
inductive Body where
  | empty
  | document (v : Json.Value)
  | plain (s : String)
  /- The lines of a page of metrics. -/
  | page (lines : List String)

/- What the gateway answers. -/
structure Response where
  status : Nat
  contentType : Option String
  body : Body
  /- The methods that the target allows, where that is told. -/
  allow : Option (List String)

namespace Response

/- The type of a document. -/
def documentType : String :=
  "application/json"

/- The type of plain text. -/
def plainType : String :=
  "text/plain; charset=utf-8"

/- The type of a page of metrics. -/
def pageType : String :=
  "text/plain; version=0.0.4; charset=utf-8"

/- A response with nothing but a status. -/
def bare
    (status : Nat) : Response :=
  ⟨status, none, .empty, none⟩

/- A response with a document, its members sorted. -/
def document
    (status : Nat)
    (v : Json.Value) : Response :=
  ⟨status, some documentType, .document v.sorted, none⟩

/- A response with a plain text. -/
def plain
    (status : Nat)
    (s : String) : Response :=
  ⟨status, some plainType, .plain s, none⟩

/- A response with a page of metrics. -/
def page
    (lines : List String) : Response :=
  ⟨200, some pageType, .page lines, none⟩

/- A response that tells which methods are allowed. -/
def notAllowed
    (methods : List String) : Response :=
  ⟨405, none, .empty, some methods⟩

/- A response without what it carries. -/
def withoutBody
    (r : Response) : Response :=
  { r with body := .empty }

end Response

------------------------------------------------------------
-- Problems
------------------------------------------------------------

/- Why a request is not served. -/
inductive Problem where
  | invalid (reason : String)
  | unauthenticated (reason : String)
  | unknown (reason : String)
  | inside
  deriving DecidableEq, Repr

namespace Problem

/- The problem that a refusal is for a client. -/
def ofRefusal :
    Refusal → Problem
  | .badRequest r => .invalid r
  | .forbidden r => .invalid r
  | .unauthorized r => .unauthenticated r
  | .notFound r => .unknown r
  | .failed _ => .inside

/- The problem that the fault of a share is for a client. -/
def ofShare :
    Share.Fault → Problem
  | .notFound => .unknown "share not found"
  | .expired => .unauthenticated "share expired"
  | .invalidInput r => .invalid r
  | .storage _ => .inside

/- The status of a problem. -/
def status :
    Problem → Nat
  | .invalid _ => 400
  | .unauthenticated _ => 401
  | .unknown _ => 404
  | .inside => 500

/- The word for the kind of a problem. -/
def kind :
    Problem → String
  | .invalid _ => "invalid_request_error"
  | .unauthenticated _ => "authentication_error"
  | .unknown _ => "not_found_error"
  | .inside => "api_error"

/- The text of a problem. -/
def message :
    Problem → String
  | .invalid r => r
  | .unauthenticated r => r
  | .unknown r => r
  | .inside => Refusal.concealed

/- The document of a problem, marked with a fresh id. -/
def toJson
    (p : Problem)
    (id : String) : Json.Value :=
  .object
    [("error", .object
      [("type", .text p.kind),
       ("message", .text p.message),
       ("request_id", .text ("req_" ++ id))])]

/- The response to a request with a problem. -/
def respond
    (p : Problem)
    (id : String) : Response :=
  .document p.status (p.toJson id)

/- A problem is answered with a status of 400 or above. -/
theorem le_status
    (p : Problem) :
    400 ≤ p.status := by
  cases p <;> simp [status]

end Problem

end Gateway

end Gatehouse
