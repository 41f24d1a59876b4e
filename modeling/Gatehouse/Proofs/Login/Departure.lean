import Gatehouse.Login.Standard
import Gatehouse.Proofs.Url.Rereading

/-
  Where a person is sent to log in.

  The address of the provider may have a query and a
  fragment of its own.  What a login adds to the query is
  read back as it was meant, after the pairs of the provider
  and in its order, whatever the names and values hold.  The
  fragment and all that stands before the query stay.

  Main results include:
    * `Login.Endpoints.authorizationUrl_carries_pairs`
-/

namespace Gatehouse

------------------------------------------------------------
-- Appending Pairs
------------------------------------------------------------

namespace Url

namespace WellWritten

variable {u v : Url}

/- Pairs that are appended are in the text of a URL. -/
theorem exists_queryText?
    (h : u.WellWritten)
    (ps : List (String × String)) :
    ∃ query,
      queryText? (u.withPairs ps).chars = some query ∧
        Form.pairs (Form.octets query) =
          u.queryPairs ++ ps := by
  have hPairs := queryPairs_withPairs u ps
  have hText := (h.withPairs ps).queryText?_chars
  unfold queryPairs at hPairs
  cases hQuery : (u.withPairs ps).query with
  | none => cases hQuery
  | some query =>
      rw [hQuery] at hPairs hText
      exact ⟨query, hText, hPairs⟩

/- Whoever reads the URL again finds the pairs. -/
theorem queryPairs_of_parse
    (h : u.WellWritten)
    (ps : List (String × String))
    (hAgain : parse (u.withPairs ps).write = .ok v) :
    v.queryPairs = u.queryPairs ++ ps ∧
      v.fragment = u.fragment := by
  have hSome : (u.withPairs ps).query ≠ none := by
    rintro ⟨⟩
  rcases (h.withPairs ps).parse_write hSome hAgain with
    ⟨_, hQuery, hFragment⟩
  refine ⟨?_, hFragment⟩
  have hPairs := queryPairs_withPairs u ps
  unfold queryPairs at hPairs ⊢
  rw [hQuery, hPairs]

end WellWritten

end Url

------------------------------------------------------------
-- Authorization
------------------------------------------------------------

namespace Login

namespace Endpoints

/-
  The address to which a person is sent has, in its query,
  the pairs of the provider and then those of the login, each
  as it was given.  Nothing gets into the fragment or before
  the query.  Whoever reads the address finds no more and no
  less.
-/
theorem authorizationUrl_carries_pairs
    (e : Endpoints)
    {u : Url}
    (hParses : Url.parse e.authorizeUrl = .ok u)
    (address state challenge : String) :
    let pairs :=
      u.queryPairs ++
        [("client_id", e.clientId),
         ("redirect_uri", address),
         ("response_type", "code"),
         ("scope", e.scopes),
         ("state", state),
         ("code_challenge", challenge),
         ("code_challenge_method", "S256")]
    ∃ text,
      e.authorizationUrl address state challenge = .ok text ∧
        (∃ query,
          Url.queryText? text.toList = some query ∧
            Form.pairs (Form.octets query) = pairs) ∧
          Url.fragmentText? text.toList = u.fragment ∧
            Url.front text.toList =
              Url.front u.write.toList ∧
              ∀ v,
                Url.parse text = .ok v →
                  v.queryPairs = pairs ∧
                    v.fragment = u.fragment := by
  intro pairs
  have hWell := Url.wellWritten_of_parse hParses
  have hSent :=
    hWell.withPairs
      (e.authorizationPairs address state challenge)
  refine
    ⟨(u.withPairs
        (e.authorizationPairs address state challenge)).write,
      ?_, ?_, ?_, ?_, ?_⟩
  · unfold authorizationUrl
    rw [hParses]
  · simp only [Url.write, String.toList_ofList]
    exact hWell.exists_queryText? _
  · simp only [Url.write, String.toList_ofList]
    exact hSent.fragmentText?_chars
  · simp only [Url.write, String.toList_ofList]
    rw [hSent.front_chars, hWell.front_chars]
    rfl
  · intro v hAgain
    exact hWell.queryPairs_of_parse _ hAgain

/- Endpoints of a provider with a query and a fragment. -/
def queryingEndpoints : Endpoints :=
  { authorizeUrl := "https://idp.test/in?x=1&state=own#top"
    tokenUrl := "https://idp.test/token"
    userinfoUrl := "https://idp.test/user"
    orgsUrl := none
    teamsUrl := none
    revokeUrl := none
    clientId := "a&b=c"
    clientSecret := ⟨"secret"⟩
    scopes := "read user" }

/- The address that begins logins at that provider. -/
def queryingUrl : Url :=
  { scheme := "https".toList
    user := []
    password := []
    host := some (.name "idp.test".toList)
    port := none
    path := .segments ["in".toList]
    query := some "x=1&state=own".toList
    fragment := some "top".toList }

/- A return address with a parameter to override another. -/
def queryingAddress : String :=
  "/cb?b=1&client_id=x#é"

/-
  A return address and a state that hold separators, a number
  sign and escapes come through, and the address can be read.
-/
theorem authorizationUrl_querying :
    Url.parse queryingEndpoints.authorizeUrl =
        .ok queryingUrl ∧
      ∃ text v,
        queryingEndpoints.authorizationUrl
              queryingAddress "%26 +" "" =
            .ok text ∧
          Url.parse text = .ok v ∧
            v.queryPairs =
              [("x", "1"), ("state", "own"),
               ("client_id", "a&b=c"),
               ("redirect_uri", queryingAddress),
               ("response_type", "code"),
               ("scope", "read user"),
               ("state", "%26 +"),
               ("code_challenge", ""),
               ("code_challenge_method", "S256")] := by
  have hParses :
      Url.parse queryingEndpoints.authorizeUrl =
        .ok queryingUrl := by
    decide +kernel
  have hReadable :
      (queryingEndpoints.authorizationUrl queryingAddress
          "%26 +" "").toOption.any
        (fun text => (Url.parse text).isOk) = true := by
    decide +kernel
  have hOwn :
      queryingUrl.queryPairs =
        [("x", "1"), ("state", "own")] := by
    decide +kernel
  rcases
      authorizationUrl_carries_pairs queryingEndpoints hParses
        queryingAddress "%26 +" "" with
    ⟨text, hText, _, _, _, hRead⟩
  rw [hText] at hReadable
  cases hAgain : Url.parse text with
  | error f =>
      simp [Except.toOption, hAgain, Except.isOk,
        Except.toBool] at hReadable
  | ok v =>
      refine ⟨hParses, text, v, hText, hAgain, ?_⟩
      rw [(hRead v hAgain).1, hOwn]
      rfl

end Endpoints

end Login

end Gatehouse
