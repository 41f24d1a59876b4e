import Gatehouse.Json.Node
import Gatehouse.Json.Reader
import Gatehouse.Time.Instant
import Gatehouse.Url.Form

/-
  What requests say.

  A login names where to return to, a callback what the
  provider gave, and an order of a share its session and
  perhaps its lifetime.

  Key definitions include:
    * `Gateway.returnAddress?`
    * `Gateway.Callback`
    * `Gateway.Callback.ofQuery`
    * `Gateway.Wish`
    * `Gateway.Wish.lifetime?`
-/

namespace Gatehouse

namespace Gateway

open Json.Node (text? word64? optional)
open Reading (orDefault)

------------------------------------------------------------
-- Logins
------------------------------------------------------------

/- The return address that a document names. -/
def returnAddressOf?
    (n : Json.Node) : Option String :=
  match n.fields? ["redirect_uri"] with
  | some [address] => orDefault text? "" address
  | _ => none

/- The return address in the body of a request. -/
def returnAddress?
    (body : List UInt8) : Option String :=
  (Json.ofOctets? body).bind returnAddressOf?

------------------------------------------------------------
-- Callbacks
------------------------------------------------------------

/- What a callback brings. -/
structure Callback where
  code : String
  state : String
  /- Why the provider let nobody in. -/
  denial : Option String
  deriving DecidableEq, Repr

namespace Callback

/- The names that a callback knows. -/
def names : List String :=
  ["code", "state", "error"]

/- The first known name that stands twice among pairs. -/
def repeated? :
    List String → List (String × String) → Option String
  | _, [] => none
  | seen, (k, _) :: ps =>
      if !names.contains k then
        repeated? seen ps
      else if seen.contains k then
        some k
      else
        repeated? (k :: seen) ps

/- The value of a name among pairs. -/
def value?
    (name : String)
    (ps : List (String × String)) : Option String :=
  (ps.find? (fun p => p.1 = name)).map Prod.snd

/- The callback in a query, or the name that stands twice. -/
def ofQuery
    (query : List UInt8) : Except String Callback :=
  let ps := Form.pairs query
  match repeated? [] ps with
  | some name => .error name
  | none =>
      .ok
        { code := (value? "code" ps).getD ""
          state := (value? "state" ps).getD ""
          denial := value? "error" ps }

end Callback

------------------------------------------------------------
-- Shares
------------------------------------------------------------

/- What a client says about a share that it wants. -/
structure Wish where
  sessionId : String
  /- The lifetime in seconds; zero stands for no end. -/
  seconds : Option Nat
  deriving DecidableEq, Repr

/- The wish that a document describes. -/
def Wish.ofNode?
    (n : Json.Node) : Option Wish :=
  match n.fields? ["session_id", "ttl_secs"] with
  | some [sessionId, seconds] => do
      let sessionId ← orDefault text? "" sessionId
      let seconds ← optional word64? seconds
      some ⟨sessionId, seconds⟩
  | _ => none

/- The wish in the body of a request. -/
def Wish.ofBody?
    (body : List UInt8) : Option Wish :=
  (Json.ofOctets? body).bind ofNode?

/- The lifetime asked for, or else the usual one. -/
def Wish.span
    (w : Wish)
    (usual : Option Span) : Option Span :=
  match w.seconds with
  | none => usual
  | some 0 => none
  | some n => some (Span.ofSeconds n)

/- The lifetime of a wish, unless it is beyond measure. -/
def Wish.lifetime?
    (w : Wish)
    (usual : Option Span) : Option (Option Span) :=
  match w.span usual with
  | none => some none
  | some d => if d ≤ Span.longest then some d else none

end Gateway

end Gatehouse
