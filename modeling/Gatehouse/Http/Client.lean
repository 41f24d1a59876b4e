import Gatehouse.Http.Network
import Gatehouse.Json.Reader
import Gatehouse.Text.Base64
import Gatehouse.Url.Parser

/-
  Calls for documents.

  A call names an address and what goes with the request.
  It fails if the request cannot be made, if no response
  comes, or if a document that is expected does not arrive.
  A user name in an address becomes an authorization.

  The request of a call is handed to a client, which carries
  it out over a network.  A client may send more than one
  request for it; the plain one sends the request as it is
  and takes what comes.

  Key definitions include:
    * `Http.Call`
    * `Http.Fault`
    * `Http.Call.prepare`
    * `Http.Reply`
    * `Http.Client`
    * `Http.Network.client`
    * `Http.Call.send`
-/

namespace Gatehouse

namespace Http

------------------------------------------------------------
-- Faults
------------------------------------------------------------

/- Why a call brings no document. -/
inductive Fault where
  /- The address or a header field is not well formed. -/
  | malformed
  /- There is no way to ask the address. -/
  | unsupported (url : String)
  | noResponse (url : String)
  /- The redirects from the address have no end in sight. -/
  | tooManyRedirects (url : String)
  | noDocument (url : String)
  deriving DecidableEq, Repr

/- The mark of an address in a text. -/
def atUrl
    (url : String) : String :=
  " for url (" ++ url ++ ")"

/- The text of a fault. -/
def Fault.message :
    Fault → String
  | .malformed => "builder error"
  | .unsupported u => "builder error" ++ atUrl u
  | .noResponse u => "error sending request" ++ atUrl u
  | .tooManyRedirects u =>
      "error following redirect" ++ atUrl u
  | .noDocument u =>
      "error decoding response body" ++ atUrl u

------------------------------------------------------------
-- Authorizations
------------------------------------------------------------

/- What proves that a request may be made. -/
inductive Pass where
  | nobody
  | bearer (token : String)
  | basic (user password : String)
  deriving DecidableEq, Repr

/- The authorization by a user name and a password. -/
def basicValue
    (user password : String) : List UInt8 :=
  Utf8.encode <|
    "Basic " ++
      Base64.encode Base64.standard
        (Utf8.encode (user ++ ":" ++ password))

/- The value of the field for the authorization. -/
def Pass.value? :
    Pass → Option (List UInt8)
  | .nobody => none
  | .bearer t => some (Utf8.encode ("Bearer " ++ t))
  | .basic u p => some (basicValue u p)

/- May an octet stand in a field? -/
def isFieldOctet
    (b : UInt8) : Bool :=
  (32 ≤ b.toNat && b.toNat ≠ 127) || b.toNat = 9

/- Can the authorization be sent? -/
def Pass.isSendable
    (p : Pass) : Bool :=
  (p.value?.getD []).all isFieldOctet

/- The decoded text of a part of an address. -/
def decodedPart?
    (cs : List Char) : Option String :=
  Utf8.decode?
    (Percent.decodeOctets (Utf8.encode (String.ofList cs)))

/-
  The user name and the password of an address, and the
  address without them.  A name that is no text stays.
-/
def splitUser
    (u : Url) : Url × Option (List UInt8) :=
  match decodedPart? u.user with
  | none => (u, none)
  | some user =>
      let password :=
        if u.password.isEmpty then none
        else decodedPart? u.password
      if user.isEmpty && password.isNone then
        (u, none)
      else
        ({ u with user := [], password := [] },
          some (basicValue user (password.getD "")))

------------------------------------------------------------
-- Calls
------------------------------------------------------------

/- A request that is wished for. -/
structure Call where
  verb : Verb
  address : String
  /- The name of who asks. -/
  agent : String
  accept : String
  pass : Pass
  /- The pairs to be sent as a form. -/
  form : Option (List (String × String))
  deriving DecidableEq, Repr

/- The type of a form. -/
def formType : String :=
  "application/x-www-form-urlencoded"

/- The characters of a host that no request can name. -/
def unnameable : List Char :=
  ['"', '\x60', '\x7b', '\x7d']

/- Can a request be sent to the address? -/
def isReachable
    (u : Url) : Bool :=
  (u.scheme = ['h', 't', 't', 'p'] ||
    u.scheme = ['h', 't', 't', 'p', 's']) &&
    u.hostAndPort.toList.all (!unnameable.contains ·)

namespace Call

/- The request of a call. -/
def prepare
    (c : Call) : Except Fault Outgoing :=
  match Url.parse c.address with
  | .error _ => .error .malformed
  | .ok whole =>
      if !whole.hasHost then
        .error (.unsupported whole.write)
      else
        let (url, userPass) := splitUser whole
        if !c.pass.isSendable then
          .error .malformed
        else if !isReachable url then
          .error (.unsupported url.write)
        else
          .ok
            { verb := c.verb
              url := url
              agent := c.agent
              accept := c.accept
              authorization := userPass <|> c.pass.value?
              contentType := c.form.map (fun _ => formType)
              body :=
                String.ofList
                  (Form.encodePairs (c.form.getD [])) }

end Call

------------------------------------------------------------
-- Clients
------------------------------------------------------------

/- A response together with the address that gave it. -/
structure Reply where
  url : String
  response : Incoming
  deriving DecidableEq, Repr

/- The document of a response, read in some way. -/
def Reply.document? {α : Type}
    (r : Reply)
    (read : Json.Node → Option α) : Except Fault α :=
  match (Json.ofOctets? r.response.body).bind read with
  | none => .error (.noDocument r.url)
  | some a => .ok a

/-
  What carries requests out, with a state of its own, which
  holds that of the network.
-/
structure Client
    (ν : Type) where
  carry : ν → Outgoing → Except Fault Reply × ν

/- The client that takes the first response as it comes. -/
def Network.client {ν : Type}
    (n : Network ν) : Client ν where
  carry net request :=
    match n.send net request with
    | (none, net') =>
        (.error (.noResponse request.url.write), net')
    | (some r, net') => (.ok ⟨request.url.write, r⟩, net')

/- A network stands for its plain client where one is asked for. -/
instance {ν : Type} : Coe (Network ν) (Client ν) :=
  ⟨Network.client⟩

/- Make the request of a call and have it carried out. -/
def Call.send {ν : Type}
    (k : Client ν)
    (net : ν)
    (c : Call) : Except Fault Reply × ν :=
  match c.prepare with
  | .error e => (.error e, net)
  | .ok request => k.carry net request

end Http

end Gatehouse
