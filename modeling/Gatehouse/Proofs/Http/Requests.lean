import Gatehouse.Proofs.Http.Calls
import Gatehouse.Proofs.Url.Form

/-
  The requests of calls.

  A client that keeps what it is asked to carry tells what a
  call has asked: one request, if it could be made.  What
  else is left of the client is what it made of the
  requests, one after the other.

  Key definitions include:
    * `Http.Client.recording`
    * `Http.Client.after`
    * `Http.Asks`
    * `Http.Call.requests`
    * `Http.Outgoing.IsTo`
    * `Http.Outgoing.pairs`

  Main results include:
    * `Http.asks_send`
    * `Http.Call.of_mem_requests`
    * `Http.Call.pairs_of_mem_requests`
-/

namespace Gatehouse

namespace Http

variable {ν : Type}

------------------------------------------------------------
-- Recording
------------------------------------------------------------

/- A client that keeps what it was asked to carry. -/
def Client.recording
    (k : Client ν) : Client (ν × List Outgoing) where
  carry s request :=
    let (reply, net) := k.carry s.1 request
    (reply, (net, s.2 ++ [request]))

/- What a client leaves that carries requests in a row. -/
def Client.after
    (k : Client ν)
    (net : ν)
    (requests : List Outgoing) : ν :=
  requests.foldl (fun s request => (k.carry s request).2) net

/- Are these the requests asked between two states? -/
def Asks
    (k : Client ν)
    (s s' : ν × List Outgoing)
    (requests : List Outgoing) : Prop :=
  s' = (k.after s.1 requests, s.2 ++ requests)

/- Nothing is asked while nothing happens. -/
theorem Asks.refl
    (k : Client ν)
    (s : ν × List Outgoing) :
    Asks k s s [] := by
  unfold Asks
  rw [List.append_nil]
  rfl

/- What is asked first stands before what is asked next. -/
theorem Asks.trans
    {k : Client ν}
    {s₁ s₂ s₃ : ν × List Outgoing}
    {first second : List Outgoing}
    (hFirst : Asks k s₁ s₂ first)
    (hSecond : Asks k s₂ s₃ second) :
    Asks k s₁ s₃ (first ++ second) := by
  unfold Asks Client.after at hFirst hSecond ⊢
  rw [hSecond, hFirst, List.foldl_append, List.append_assoc]

/- The requests that a call makes: one, if it can. -/
def Call.requests
    (c : Call) : List Outgoing :=
  match c.prepare with
  | .error _ => []
  | .ok request => [request]

/- A call asks its requests of a recording client. -/
theorem asks_send
    (k : Client ν)
    (s : ν × List Outgoing)
    (c : Call) :
    Asks k s (c.send k.recording s).2 c.requests := by
  unfold Call.send Call.requests
  cases c.prepare with
  | error f => exact Asks.refl k s
  | ok request => rfl

/- Is the request one to the address? -/
def Outgoing.IsTo
    (request : Outgoing)
    (address : String) : Prop :=
  ∃ u, Url.parse address = .ok u ∧
    request.url = (splitUser u).1

/- A request is made as its call says. -/
theorem Call.of_mem_requests
    {c : Call}
    {request : Outgoing}
    (h : request ∈ c.requests) :
    request.verb = c.verb ∧ request.IsTo c.address ∧
      request.body =
        String.ofList
          (Form.encodePairs (c.form.getD [])) := by
  unfold requests at h
  cases hPrepare : c.prepare with
  | error f =>
      rw [hPrepare] at h
      exact absurd h List.not_mem_nil
  | ok made =>
      rw [hPrepare] at h
      rw [List.mem_singleton.mp h]
      rcases prepare_eq_ok_iff.mp hPrepare with
        ⟨_, u, hTargets, rfl⟩
      exact ⟨rfl, ⟨u, hTargets.parses, rfl⟩, rfl⟩

/- The pairs in the body of a request. -/
def Outgoing.pairs
    (request : Outgoing) : List (String × String) :=
  Form.pairs (Utf8.encode request.body)

/- The body of a request holds the pairs of its call. -/
theorem Call.pairs_of_mem_requests
    {c : Call}
    {request : Outgoing}
    (h : request ∈ c.requests) :
    request.pairs = c.form.getD [] := by
  unfold Outgoing.pairs
  rw [(of_mem_requests h).2.2, Form.encode_ofList,
    Form.pairs_encodePairs]

end Http

end Gatehouse
