import Gatehouse.Http.Client

/-
  A client that follows redirects.

  A response may redirect a request to another address.  The
  client then sends a request there, again and again up to a
  limit, and takes the first response that redirects to no
  address.  Some redirects repeat the request with its body;
  the others only ask what stands at the address.

  Where a location leads from an address, and how many
  redirects are followed, is up to the client.

  Key definitions include:
    * `Http.Incoming.isRedirect`
    * `Http.Outgoing.redirected`
    * `Http.Redirects`
    * `Http.Redirects.next?`
    * `Http.Redirects.follow`
    * `Http.Redirects.client`
-/

namespace Gatehouse

namespace Http

------------------------------------------------------------
-- Single Redirects
------------------------------------------------------------

/- The status codes that repeat a request elsewhere. -/
def repeatStatuses : List Nat :=
  [307, 308]

/- The status codes that redirect a request. -/
def redirectStatuses : List Nat :=
  [301, 302, 303] ++ repeatStatuses

/- Does a response redirect the request? -/
def Incoming.isRedirect
    (r : Incoming) : Bool :=
  redirectStatuses.contains r.status &&
    r.head.location.isSome

/- Are two addresses those of one server? -/
def isSameServer
    (u v : Url) : Bool :=
  u.host = v.host &&
    (u.port <|> Url.defaultPort? u.scheme) =
      (v.port <|> Url.defaultPort? v.scheme)

/-
  A request, redirected to an address.  Its authorization is
  not told to another server.
-/
def Outgoing.redirected
    (request : Outgoing)
    (status : Nat)
    (url : Url) : Outgoing :=
  let moved :=
    { request with
      url := url
      authorization :=
        if isSameServer request.url url then
          request.authorization
        else
          none }
  if repeatStatuses.contains status then
    moved
  else
    { moved with
      verb := .get
      contentType := none
      body := "" }

------------------------------------------------------------
-- Following
------------------------------------------------------------

/- How redirects are followed. -/
structure Redirects where
  limit : Nat
  /- Where a location leads, as seen from an address. -/
  target? : Url → List UInt8 → Option Url

namespace Redirects

/- The request that a response to a request leads to. -/
def next?
    (k : Redirects)
    (request : Outgoing)
    (r : Incoming) : Option Outgoing :=
  if r.isRedirect then
    (r.head.location.bind (k.target? request.url)).map
      (request.redirected r.status)
  else
    none

/- Send a request and follow so many redirects at most. -/
def follow {ν : Type}
    (k : Redirects)
    (n : Network ν) :
    Nat → ν → Outgoing → Except Fault Reply × ν
  | left, net, request =>
      match n.send net request with
      | (none, net') =>
          (.error (.noResponse request.url.write), net')
      | (some r, net') =>
          match k.next? request r, left with
          | none, _ =>
              (.ok ⟨request.url.write, r⟩, net')
          | some _, 0 =>
              (.error (.tooManyRedirects request.url.write),
                net')
          | some next, left + 1 =>
              follow k n left net' next

/- The client that follows redirects over a network. -/
def client {ν : Type}
    (k : Redirects)
    (n : Network ν) : Client ν where
  carry := k.follow n k.limit

end Redirects

end Http

end Gatehouse
