import Gatehouse.Url.Basic

/-
  Requests over a network.

  A network delivers one request and brings the response, if
  there is one.  What it does may depend on what it did
  before.  It stands for all servers there are and for the
  way to them; what is done with a response is up to the
  client.

  Key definitions include:
    * `Http.Outgoing`
    * `Http.Head`
    * `Http.Incoming`
    * `Http.Network`
-/

namespace Gatehouse

namespace Http

------------------------------------------------------------
-- Requests
------------------------------------------------------------

/- What a request asks for. -/
inductive Verb where
  | get
  | post
  deriving DecidableEq, Repr

/- A request as it is sent. -/
structure Outgoing where
  verb : Verb
  url : Url
  agent : String
  accept : String
  authorization : Option (List UInt8)
  contentType : Option String
  body : String
  deriving DecidableEq, Repr

------------------------------------------------------------
-- Responses
------------------------------------------------------------

/- What stands above the body of a response. -/
structure Head where
  status : Nat
  /- The place that the response refers to, if any. -/
  location : Option (List UInt8)
  deriving DecidableEq, Repr

/- A status alone is a head that refers to no place. -/
instance : Coe Nat Head :=
  ⟨fun status => ⟨status, none⟩⟩

/- A numeral is the head with this status alone. -/
instance (status : Nat) : OfNat Head status :=
  ⟨⟨status, none⟩⟩

/- A response as it arrives. -/
structure Incoming where
  head : Head
  body : List UInt8
  deriving DecidableEq, Repr

/- The status of a response. -/
def Incoming.status
    (r : Incoming) : Nat :=
  r.head.status

------------------------------------------------------------
-- Networks
------------------------------------------------------------

/- What delivers requests, with a state of its own. -/
structure Network
    (ν : Type) where
  send : ν → Outgoing → Option Incoming × ν

end Http

end Gatehouse
