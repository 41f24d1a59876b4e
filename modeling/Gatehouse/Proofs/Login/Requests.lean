import Gatehouse.Login.Standard
import Gatehouse.Proofs.Http.Requests

/-
  What logins ask of a client.

  An exchange asks nothing unless it takes a waiting login;
  then it asks for one token for that login, and for
  documents.  No other call asks for a token.

  Key definitions include:
    * `Login.isTokenRequest`
    * `Login.Endpoints.IsOther`
    * `Login.Endpoints.AsksOthers`

  Main results include:
    * `Login.Endpoints.asks_exchange`
    * `Login.Endpoints.asksOthers_revoke`
    * `Login.Endpoints.pairs_of_tokenCall`
-/

namespace Gatehouse

namespace Login

open Http (Asks Client Outgoing)

/- Does the request ask for a token in exchange of a code? -/
def isTokenRequest
    (request : Outgoing) : Bool :=
  request.verb = .post &&
    request.pairs.contains
      ("grant_type", "authorization_code")

namespace Endpoints

variable {ν : Type}

/- The addresses of a provider but that for tokens. -/
def otherAddresses
    (e : Endpoints) : List String :=
  e.userinfoUrl ::
    (e.orgsUrl.toList ++ e.teamsUrl.toList ++
      e.revokeUrl.toList)

/- Is the request for something other than a token? -/
def IsOther
    (e : Endpoints)
    (request : Outgoing) : Prop :=
  isTokenRequest request = false ∧
    ∃ address ∈ e.otherAddresses, request.IsTo address

------------------------------------------------------------
-- Single Requests
------------------------------------------------------------

/- No call for a document is a token request. -/
theorem isOther_of_documentCall
    {e : Endpoints}
    {address token : String}
    {request : Outgoing}
    (hAddress : address ∈ e.otherAddresses)
    (h : request ∈ (documentCall address token).requests) :
    e.IsOther request := by
  have hMade := Http.Call.of_mem_requests h
  refine ⟨?_, address, hAddress, hMade.2.1⟩
  simp [isTokenRequest, hMade.1, documentCall]

/- Are all requests asked for something but a token? -/
def AsksOthers
    (e : Endpoints)
    (k : Client ν)
    (s s' : ν × List Outgoing) : Prop :=
  ∃ requests, Asks k s s' requests ∧
    ∀ request ∈ requests, e.IsOther request

/- Nothing is asked while nothing happens. -/
theorem AsksOthers.refl
    (e : Endpoints)
    (k : Client ν)
    (s : ν × List Outgoing) :
    e.AsksOthers k s s :=
  ⟨[], Asks.refl k s, by simp⟩

/- What is asked first and next is asked in all. -/
theorem AsksOthers.trans
    {e : Endpoints}
    {k : Client ν}
    {s₁ s₂ s₃ : ν × List Outgoing}
    (hFirst : e.AsksOthers k s₁ s₂)
    (hSecond : e.AsksOthers k s₂ s₃) :
    e.AsksOthers k s₁ s₃ := by
  rcases hFirst with ⟨first, hFirst, hOther₁⟩
  rcases hSecond with ⟨second, hSecond, hOther₂⟩
  refine ⟨first ++ second, hFirst.trans hSecond, ?_⟩
  intro request hIn
  rcases List.mem_append.mp hIn with hIn | hIn
  · exact hOther₁ request hIn
  · exact hOther₂ request hIn

/- What is done next asks what it asks. -/
theorem AsksOthers.andThen
    {α β : Type}
    {e : Endpoints}
    {k : Client ν}
    {s : ν × List Outgoing}
    {r : Outcome (ν × List Outgoing) α}
    {next :
      α → ν × List Outgoing →
        Outcome (ν × List Outgoing) β}
    (hFirst : e.AsksOthers k s r.2)
    (hNext : ∀ a net, e.AsksOthers k net (next a net).2) :
    e.AsksOthers k s (r.andThen next).2 := by
  rcases r with ⟨reply, net⟩
  cases reply with
  | error f => exact hFirst
  | ok a => exact hFirst.trans (hNext a net)

variable (k : Client ν) (s : ν × List Outgoing)

/- A document is asked for with one call. -/
theorem snd_requestDocument
    {α μ : Type}
    (k : Client μ)
    (net : μ)
    (address token : String)
    (read : Json.Node → Option α) :
    (requestDocument k net address token read).2 =
      ((documentCall address token).send k net).2 := by
  unfold requestDocument
  split
  · rename_i f net hSend
    rw [hSend]
  · rename_i r net hSend
    rw [hSend]

/- To ask for a document, no token request is made. -/
theorem asksOthers_requestDocument
    {α : Type}
    {e : Endpoints}
    {address : String}
    (hAddress : address ∈ e.otherAddresses)
    (token : String)
    (read : Json.Node → Option α) :
    e.AsksOthers k s
      (requestDocument k.recording s address token
        read).2 := by
  rw [snd_requestDocument]
  refine ⟨_, Http.asks_send k s _, ?_⟩
  intro request hIn
  exact isOther_of_documentCall hAddress hIn

/- To ask for memberships, no token request is made. -/
theorem asksOthers_requestMemberships
    {e : Endpoints}
    {address : Option String}
    (hAddress :
      ∀ a, address = some a → a ∈ e.otherAddresses)
    (token : String)
    (read : Json.Node → Option String) :
    e.AsksOthers k s
      (requestMemberships k.recording s address token
        read).2 := by
  unfold requestMemberships
  cases address with
  | none => exact AsksOthers.refl e k s
  | some a =>
      have hOther :=
        asksOthers_requestDocument k s (hAddress a rfl)
          token (Json.Node.list? read)
      dsimp only
      split
      · rename_i f net hRequest
        rw [hRequest] at hOther
        exact hOther
      · rename_i names net hRequest
        rw [hRequest] at hOther
        exact hOther

/- To ask for a user, no token request is made. -/
theorem asksOthers_requestUser
    (e : Endpoints)
    (token : String)
    (p : Profile) :
    e.AsksOthers k s
      (e.requestUser k.recording s token p).2 := by
  unfold requestUser
  cases p.userId? with
  | none => exact AsksOthers.refl e k s
  | some userId =>
      have hOrgs :
          ∀ a, e.orgsUrl = some a → a ∈ e.otherAddresses := by
        intro a ha
        simp [otherAddresses, ha]
      have hTeams :
          ∀ a, e.teamsUrl = some a →
            a ∈ e.otherAddresses := by
        intro a ha
        simp [otherAddresses, ha]
      exact
        (asksOthers_requestMemberships k s hOrgs token
          organization?).trans
          (asksOthers_requestMemberships k _ hTeams token
            team?)

/- To look up a token, no token request is made. -/
theorem asksOthers_fetchUser
    (e : Endpoints)
    (token : String) :
    e.AsksOthers k s
      (e.fetchUser k.recording s token).2 := by
  have hAddress : e.userinfoUrl ∈ e.otherAddresses :=
    List.mem_cons_self
  unfold fetchUser
  apply AsksOthers.andThen
  · exact asksOthers_requestDocument k s hAddress token _
  · intro p net
    exact asksOthers_requestUser k net e token p

/- A token is asked for with the call of the login. -/
theorem asks_requestToken
    (e : Endpoints)
    (code : String)
    (p : Pending) :
    Asks k s (e.requestToken k.recording s code p).2
      (e.tokenCall code p).requests := by
  have hAsks := Http.asks_send k s (e.tokenCall code p)
  unfold requestToken
  split
  · rename_i f net hSend
    rw [hSend] at hAsks
    exact hAsks
  · rename_i r net hSend
    rw [hSend] at hAsks
    exact hAsks

/- A token is asked for, and the user that it names. -/
theorem asks_requestToken_andThen
    (e : Endpoints)
    (code : String)
    (p : Pending) :
    ∃ others,
      Asks k s
          ((e.requestToken k.recording s code p).andThen
            (fun token net =>
              e.fetchUser k.recording net token)).2
          ((e.tokenCall code p).requests ++ others) ∧
        ∀ request ∈ others, e.IsOther request := by
  have hToken := asks_requestToken k s e code p
  rcases hReply : e.requestToken k.recording s code p with
    ⟨reply, net⟩
  rw [hReply] at hToken
  cases reply with
  | error f =>
      refine ⟨[], ?_, by simp⟩
      rw [List.append_nil]
      exact hToken
  | ok token =>
      rcases asksOthers_fetchUser k net e token with
        ⟨others, hAsks, hOther⟩
      exact ⟨others, hToken.trans hAsks, hOther⟩

variable (now : Nat) (code state : String) (w : Waiting)

/- Without a waiting login, an exchange does nothing. -/
theorem exchange_of_refused
    {μ : Type}
    (k : Client μ)
    (net : μ)
    (now : Nat)
    (code state : String)
    (w : Waiting)
    (e : Endpoints)
    {f : Fault}
    (hTake : (w.take now state).1 = .error f) :
    e.exchange k now code state w net =
      (.error f, (w.take now state).2, net) := by
  unfold exchange
  split
  · rename_i f' w' hRefused
    rw [hRefused] at hTake ⊢
    cases hTake
    rfl
  · rename_i p w' hTaken
    rw [hTaken] at hTake
    cases hTake

/- An exchange leaves what taking a login leaves. -/
theorem waiting_exchange
    {μ : Type}
    (k : Client μ)
    (net : μ)
    (now : Nat)
    (code state : String)
    (w : Waiting)
    (e : Endpoints) :
    (e.exchange k now code state w net).2.1 =
      (w.take now state).2 := by
  unfold exchange
  cases w.take now state with
  | mk reply w' =>
      cases reply with
      | error f => rfl
      | ok p => rfl

/-
  An exchange that takes a waiting login makes the token
  request of that login, and no other one.
-/
theorem asks_exchange
    {e : Endpoints}
    {p : Pending}
    (hTake : (w.take now state).1 = .ok p) :
    ∃ others,
      Asks k s
          (e.exchange k.recording now code state w s).2.2
          ((e.tokenCall code p).requests ++ others) ∧
        ∀ request ∈ others, e.IsOther request := by
  have hAll := asks_requestToken_andThen k s e code p
  unfold exchange
  split
  · rename_i f w' hRefused
    rw [hRefused] at hTake
    cases hTake
  · rename_i q w' hTaken
    rw [hTaken] at hTake
    cases hTake
    exact hAll

/- What a token request carries is what the login kept. -/
theorem pairs_of_tokenCall
    {e : Endpoints}
    {code : String}
    {p : Pending}
    {request : Outgoing}
    (h : request ∈ (e.tokenCall code p).requests) :
    request.pairs = e.tokenPairs code p :=
  Http.Call.pairs_of_mem_requests h

end Endpoints

end Login

end Gatehouse
