import Gatehouse.Session.Basic

/-
  Identity providers.

  A provider starts logins, exchanges codes for users and
  revokes tokens.  Each call takes a while; who calls waits
  for a limited time.  A call changes the provider whether
  or not its answer is waited for.

  Key definitions include:
    * `Login.Fault`
    * `Login.Ticket`
    * `Login.Answer`
    * `Login.Answer.within`
    * `Login.Provider`
-/

namespace Gatehouse

namespace Login

/- Why a call failed. -/
inductive Fault where
  | http (details : String)
  | invalidState (details : String)
  | tokenExchange (details : String)
  | userLookup (details : String)
  | revocation (details : String)
  | authorizationUrl (details : String)
  deriving DecidableEq, Repr

/- The text of a fault. -/
def Fault.message :
    Fault → String
  | .http d => "HTTP request failed: " ++ d
  | .invalidState d => "invalid state: " ++ d
  | .tokenExchange d => "token exchange failed: " ++ d
  | .userLookup d => "user lookup failed: " ++ d
  | .revocation d => "token revocation failed: " ++ d
  | .authorizationUrl d =>
      "authorization URL construction failed: " ++ d

/- Where a person logs in, and the state of that login. -/
structure Ticket where
  url : String
  state : String
  deriving DecidableEq, Repr

/- What a call gives in the end, and how long it takes. -/
structure Answer
    (α : Type) where
  delay : Nat
  result : Except Fault α

/- What a caller with limited patience sees. -/
inductive Reply
    (α : Type) where
  | done (a : α)
  | failed (f : Fault)
  | timedOut

/- What is seen of an answer within a time. -/
def Answer.within {α : Type}
    (a : Answer α)
    (patience : Nat) : Reply α :=
  if patience < a.delay then
    .timedOut
  else
    match a.result with
    | .ok v => .done v
    | .error f => .failed f

/- An identity provider with a state of its own. -/
structure Provider
    (σ : Type) where
  authorize : σ → String → Answer Ticket × σ
  exchange : σ → String → String → Answer User × σ
  revoke : σ → String → Answer Unit × σ

end Login

end Gatehouse
