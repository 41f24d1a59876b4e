import Gatehouse.Proofs.Login.Requests
import Gatehouse.Proofs.Settings.Acceptance

/-
  What a gateway with loaded settings asks its provider.

  A login that is completed asks for a token at the address
  that the settings give, in the name of the client and with
  its secret, which is that of the variable or of the file.
  The other requests hold no such form.

  Main results include:
    * `Settings.asks_exchange`
    * `Settings.asks_exchange_of_load`
-/

namespace Gatehouse

namespace Settings

open Http (Asks Outgoing)
open Login (Endpoints Waiting isTokenRequest)

/-
  An exchange tells the client and its secret in the form of
  token requests, which go to the address for tokens.
-/
theorem asks_exchange
    {ν : Type}
    (settings : Settings)
    (k : Http.Client ν)
    (t : Login.Moment)
    (s : Waiting × ν × List Outgoing)
    (code state : String) :
    ∃ requests,
      Asks k s.2
          ((settings.provider k.recording t).exchange s code
            state).2.2
          requests ∧
        ∀ request ∈ requests,
          isTokenRequest request = true →
            request.IsTo settings.draft.provider.tokenUrl ∧
              ("client_id",
                  settings.draft.provider.clientId) ∈
                request.pairs ∧
                ("client_secret",
                    settings.clientSecret.reveal) ∈
                  request.pairs := by
  cases hTake : (s.1.take t.steady state).1 with
  | error fault =>
      refine ⟨[], ?_, by simp⟩
      change
        Asks k s.2
          (settings.endpoints.exchange k.recording t.steady
            code state s.1 s.2).2.2 []
      rw [Endpoints.exchange_of_refused k.recording _ _ _ _
        _ _ hTake]
      exact Asks.refl k s.2
  | ok p =>
      rcases Endpoints.asks_exchange k s.2 t.steady code
          state s.1 hTake with
        ⟨others, hAsks, hOthers⟩
      refine ⟨_, hAsks, ?_⟩
      intro request hMem hToken
      rcases List.mem_append.mp hMem with hMem | hMem
      · rw [Endpoints.pairs_of_tokenCall hMem]
        refine
          ⟨(Http.Call.of_mem_requests hMem).2.1, ?_, ?_⟩ <;>
          simp [Endpoints.tokenPairs, endpoints]
      · rw [(hOthers request hMem).1] at hToken
        cases hToken

/-
  With loaded settings, what is told with each token request
  is the secret of the variable or of the file, and is not
  empty.  Its address is the one that the draft was accepted
  with.
-/
theorem asks_exchange_of_load
    {e : Environment}
    {read : FileTree.TextReader}
    {path : String}
    {settings : Settings}
    (hLoad : load e read path = .ok settings) :
    ∃ (d : Draft) (secret : String),
      d.Valid ∧ d.SecretIs e read secret ∧ secret ≠ "" ∧
        ∀ {ν : Type}
          (k : Http.Client ν)
          (t : Login.Moment)
          (s : Waiting × ν × List Outgoing)
          (code state : String),
          ∃ requests,
            Asks k s.2
                ((settings.provider k.recording t).exchange s
                  code state).2.2
                requests ∧
              ∀ request ∈ requests,
                isTokenRequest request = true →
                  request.IsTo d.provider.tokenUrl ∧
                    ("client_id", d.provider.clientId) ∈
                      request.pairs ∧
                      ("client_secret", secret) ∈
                        request.pairs := by
  rcases exists_draft_of_load hLoad with ⟨d, hComplete⟩
  rcases (Draft.complete_eq_ok_iff _).mp hComplete with
    ⟨secret, hValid, hSecret, hSome, rfl⟩
  refine ⟨d, secret, hValid, hSecret, hSome, ?_⟩
  intro ν k t s code state
  exact asks_exchange _ k t s code state

end Settings

end Gatehouse
