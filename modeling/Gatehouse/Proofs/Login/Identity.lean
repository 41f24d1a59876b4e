import Gatehouse.Proofs.Http.Calls
import Gatehouse.Proofs.Login.Documents
import Gatehouse.Proofs.Login.Faithfulness

/-
  Who a user is found to be.

  An exchange gives a user if the provider grants a token
  that can be sent, and describes by it someone with a name.
  Memberships are had in full or not at all; they decide
  about nothing but themselves.

  Key definitions include:
    * `Login.Endpoints.Gathers`
    * `Login.Endpoints.Tells`
    * `Login.Endpoints.Completes`
    * `Login.Endpoints.Resolves`
    * `Login.Endpoints.AgreeOnUser`

  Main results include:
    * `Login.Endpoints.requestToken_eq_ok_iff`
    * `Login.Endpoints.requestDocument_eq_ok_iff`
    * `Login.Endpoints.gathers_iff`
    * `Login.Endpoints.exchange_eq_ok_iff`
    * `Login.Endpoints.alone_exchange`
    * `Login.Endpoints.exchange_resolves`
-/

namespace Gatehouse

/- The user without the memberships. -/
def User.alone
    (user : User) : User :=
  { user with orgs := [], teams := [] }

namespace Login

open Http (Call Client IsFieldText Network)

------------------------------------------------------------
-- Replies
------------------------------------------------------------

/- What is done next gives what is given in the end. -/
theorem Outcome.fst_andThen_eq_ok_iff
    {ν α β : Type}
    {r : Outcome ν α}
    {next : α → ν → Outcome ν β}
    {b : β} :
    (r.andThen next).1 = .ok b ↔
      ∃ a, r.1 = .ok a ∧ (next a r.2).1 = .ok b := by
  rcases r with ⟨reply, net⟩
  cases reply <;> simp [Outcome.andThen]

namespace Endpoints

/- A token is had of a response with a document of it. -/
theorem tokenOfReply_eq_ok_iff
    {r : Http.Reply}
    {token : String} :
    tokenOfReply r = .ok token ↔
      ∃ document, r.response.Holds document ∧
        Grants document token := by
  have hParts :
      tokenOfReply r = .ok token ↔
        ∃ g,
          (Http.isSuccess r.response.status = true ∧
              r.document? Grant.ofNode? = .ok g) ∧
            tokenOfGrant g = .ok token := by
    unfold tokenOfReply
    cases Http.isSuccess r.response.status with
    | false => simp
    | true => cases r.document? Grant.ofNode? <;> simp
  simp only [hParts, Http.Reply.success_and_document?_iff,
    grants_iff]
  constructor
  · rintro ⟨g, ⟨document, hHolds, hGrant⟩, hToken⟩
    exact ⟨document, hHolds, g, hGrant, hToken⟩
  · rintro ⟨document, hHolds, g, hGrant, hToken⟩
    exact ⟨g, ⟨document, hHolds, hGrant⟩, hToken⟩

/- A document is had of a response that holds it. -/
theorem documentOfReply_eq_ok_iff
    {α : Type}
    {address : String}
    {read : Json.Node → Option α}
    {r : Http.Reply}
    {a : α} :
    documentOfReply address read r = .ok a ↔
      ∃ document, r.response.Holds document ∧
        read document = some a := by
  rw [← Http.Reply.success_and_document?_iff]
  unfold documentOfReply
  cases Http.isSuccess r.response.status with
  | false => simp
  | true => cases r.document? read <;> simp

variable {ν : Type}
variable {e : Endpoints}
variable {k : Client ν}
variable {net : ν}
variable {code : String}
variable {p : Pending}
variable {token : String}

/- A token is had if a document is brought that grants it. -/
theorem requestToken_eq_ok_iff :
    (e.requestToken k net code p).1 = .ok token ↔
      ∃ document,
        (e.tokenCall code p).Brings k net document ∧
          Grants document token := by
  have hSendable :
      (e.tokenCall code p).pass.isSendable = true := rfl
  have hReplies :
      (e.requestToken k net code p).1 = .ok token ↔
        ∃ r, ((e.tokenCall code p).send k net).1 = .ok r ∧
          tokenOfReply r = .ok token := by
    unfold requestToken
    split
    · rename_i f net' hSend
      simp [hSend]
    · rename_i r net' hSend
      simp [hSend]
  simp only [hReplies, tokenOfReply_eq_ok_iff,
    Call.exists_reply_iff, hSendable, true_and]

/- A token is asked for with one call. -/
theorem snd_requestToken :
    (e.requestToken k net code p).2 =
      ((e.tokenCall code p).send k net).2 := by
  unfold requestToken
  split
  · rename_i f net' hSend
    rw [hSend]
  · rename_i r net' hSend
    rw [hSend]

/-
  A document is had with a token that can be sent, if one is
  brought that reads.
-/
theorem requestDocument_eq_ok_iff
    {α : Type}
    {address : String}
    {read : Json.Node → Option α}
    {a : α} :
    (requestDocument k net address token read).1 =
        .ok a ↔
      IsFieldText token ∧
        ∃ document,
          (documentCall address token).Brings k net
              document ∧
            read document = some a := by
  have hReplies :
      (requestDocument k net address token read).1 =
          .ok a ↔
        ∃ r,
          ((documentCall address token).send k net).1 =
              .ok r ∧
            documentOfReply address read r = .ok a := by
    unfold requestDocument
    split
    · rename_i f net' hSend
      simp [hSend]
    · rename_i r net' hSend
      simp [hSend]
  simp only [hReplies, documentOfReply_eq_ok_iff,
    Call.exists_reply_iff, ← Http.isSendable_bearer_iff]
  rfl

------------------------------------------------------------
-- Gathering Memberships
------------------------------------------------------------

/- The client after a document was asked for, if it was. -/
def afterDocument
    (k : Client ν)
    (net : ν)
    (address : Option String)
    (token : String) : ν :=
  match address with
  | none => net
  | some a => ((documentCall a token).send k net).2

/-
  The names that an address lists, all of them and in order;
  no names where there is no address, or no complete list.
-/
def Gathers
    (k : Client ν)
    (net : ν)
    (address : Option String)
    (token : String)
    (IsItem : Json.Node → String → Prop)
    (names : List String) : Prop :=
  (∃ a document,
      address = some a ∧
        (documentCall a token).Brings k net document ∧
          document.Lists IsItem names) ∨
    (names = [] ∧
      ∀ a document all,
        address = some a →
          (documentCall a token).Brings k net document →
            ¬document.Lists IsItem all)

/- Names are asked for, and all of them had or none. -/
theorem fst_requestMemberships
    (k : Client ν)
    (net : ν)
    (a token : String)
    (read : Json.Node → Option String) :
    (requestMemberships k net (some a) token read).1 =
      match (requestDocument k net a token
          (Json.Node.list? read)).1 with
      | .error _ => []
      | .ok all => all := by
  unfold requestMemberships
  dsimp only
  split
  · rename_i f net' hRequest
    rw [hRequest]
  · rename_i all net' hRequest
    rw [hRequest]

/- What is gathered from an address is what it replies. -/
theorem gathers_some_iff
    {a : String}
    {read : Json.Node → Option String}
    {IsItem : Json.Node → String → Prop}
    {names : List String}
    (hItem :
      ∀ item name, read item = some name ↔ IsItem item name)
    (hToken : IsFieldText token) :
    Gathers k net (some a) token IsItem names ↔
      (requestDocument k net a token
            (Json.Node.list? read)).1 = .ok names ∨
        (names = [] ∧
          ∀ all,
            (requestDocument k net a token
              (Json.Node.list? read)).1 ≠ .ok all) := by
  have hListed :
      ∀ all,
        (requestDocument k net a token
            (Json.Node.list? read)).1 = .ok all ↔
          ∃ document,
            (documentCall a token).Brings k net document ∧
              document.Lists IsItem all := by
    intro all
    simp only [requestDocument_eq_ok_iff, hToken,
      true_and, Json.Node.list?_eq_some_iff hItem]
  unfold Gathers
  simp only [ne_eq, hListed]
  constructor
  · rintro (⟨_, document, hSame, hLists⟩ | ⟨hNone, hNot⟩)
    · cases hSame
      exact .inl ⟨document, hLists⟩
    · refine .inr ⟨hNone, ?_⟩
      rintro all ⟨document, hBrings, hLists⟩
      exact hNot a document all rfl hBrings hLists
  · rintro (⟨document, hLists⟩ | ⟨hNone, hNot⟩)
    · exact .inl ⟨a, document, rfl, hLists⟩
    · refine .inr ⟨hNone, ?_⟩
      intro _ document all hSame hBrings hLists
      cases hSame
      exact hNot all ⟨document, hBrings, hLists⟩

/- What is gathered is what is asked for. -/
theorem gathers_iff
    {address : Option String}
    {read : Json.Node → Option String}
    {IsItem : Json.Node → String → Prop}
    {names : List String}
    (hItem :
      ∀ item name, read item = some name ↔ IsItem item name)
    (hToken : IsFieldText token) :
    Gathers k net address token IsItem names ↔
      (requestMemberships k net address token read).1 =
        names := by
  cases address with
  | none => simp [Gathers, requestMemberships, eq_comm]
  | some a =>
      rw [gathers_some_iff hItem hToken,
        fst_requestMemberships]
      cases (requestDocument k net a token
          (Json.Node.list? read)).1 with
      | error f => simp [eq_comm]
      | ok all => simp

/- Memberships are asked for with one call at most. -/
theorem snd_requestMemberships
    (address : Option String)
    (read : Json.Node → Option String) :
    (requestMemberships k net address token read).2 =
      afterDocument k net address token := by
  cases address with
  | none => rfl
  | some a =>
      unfold requestMemberships afterDocument
      dsimp only
      rw [← snd_requestDocument k net a token
        (Json.Node.list? read)]
      split
      · rename_i f net' hRequest
        rw [hRequest]
      · rename_i all net' hRequest
        rw [hRequest]

------------------------------------------------------------
-- Finding a User
------------------------------------------------------------

/- The client after a token was asked for. -/
def afterToken
    (e : Endpoints)
    (k : Client ν)
    (net : ν)
    (code : String)
    (p : Pending) : ν :=
  ((e.tokenCall code p).send k net).2

/- The client after a profile was asked for as well. -/
def afterProfile
    (e : Endpoints)
    (k : Client ν)
    (net : ν)
    (code : String)
    (p : Pending)
    (token : String) : ν :=
  ((documentCall e.userinfoUrl token).send k
    (e.afterToken k net code p)).2

/-
  Does a provider grant a token that can be sent, and does
  it describe by it someone with a name?
-/
structure Tells
    (e : Endpoints)
    (k : Client ν)
    (net : ν)
    (code : String)
    (p : Pending)
    (token : String)
    (profile : Profile)
    (id : String) : Prop where
  granted :
    ∃ document,
      (e.tokenCall code p).Brings k net document ∧
        Grants document token
  sendable : IsFieldText token
  described :
    ∃ document,
      (documentCall e.userinfoUrl token).Brings k
          (e.afterToken k net code p) document ∧
        Describes document profile
  named : profile.IsNamed id

/-
  Does a user complete a profile: with what it leaves out
  filled in, with the token that it was had by, and with the
  memberships that can be had?
-/
structure Completes
    (e : Endpoints)
    (k : Client ν)
    (net : ν)
    (token : String)
    (profile : Profile)
    (user : User) : Prop where
  login :
    user.login =
      (profile.login <|> profile.preferred).getD user.id
  name : user.name = profile.name.getD user.login
  secret : user.providerToken = .hide token
  orgs :
    Gathers k net e.orgsUrl token IsOrganization user.orgs
  teams :
    Gathers k (afterDocument k net e.orgsUrl token)
      e.teamsUrl token IsTeam user.teams

/- Is the user the one that a provider tells? -/
def Resolves
    (e : Endpoints)
    (k : Client ν)
    (net : ν)
    (code : String)
    (p : Pending)
    (user : User) : Prop :=
  ∃ token profile,
    e.Tells k net code p token profile user.id ∧
      e.Completes k (e.afterProfile k net code p token)
        token profile user

/- A user is had of a profile with a name. -/
theorem requestUser_eq_ok_iff
    {profile : Profile}
    {user : User}
    (hToken : IsFieldText token) :
    (e.requestUser k net token profile).1 = .ok user ↔
      profile.IsNamed user.id ∧
        e.Completes k net token profile user := by
  unfold requestUser
  cases hName : profile.userId? with
  | none =>
      constructor
      · intro hOk
        cases hOk
      · rintro ⟨hNamed, _⟩
        rw [Profile.isNamed_iff, hName] at hNamed
        cases hNamed
  | some userId =>
      constructor
      · intro hOk
        cases hOk
        refine
          ⟨Profile.isNamed_iff.mpr hName,
            rfl, rfl, rfl, ?_, ?_⟩
        · exact
            (gathers_iff organization?_eq_some_iff
              hToken).mpr rfl
        · rw [← snd_requestMemberships e.orgsUrl
            organization?]
          exact
            (gathers_iff team?_eq_some_iff hToken).mpr rfl
      · rintro ⟨hNamed, hLogin, hFull, hSecret, hOrgs,
          hTeams⟩
        rw [Profile.isNamed_iff, hName, Option.some.injEq]
          at hNamed
        rw [← snd_requestMemberships e.orgsUrl
          organization?] at hTeams
        replace hOrgs :=
          (gathers_iff organization?_eq_some_iff
            hToken).mp hOrgs
        replace hTeams :=
          (gathers_iff team?_eq_some_iff hToken).mp hTeams
        rcases user with ⟨id, login, full, secret, _, _⟩
        dsimp only at hNamed hLogin hFull
        dsimp only at hSecret hOrgs hTeams
        subst hNamed hLogin hFull hSecret hOrgs hTeams
        rfl

/- A user is had of a document that describes one. -/
theorem fetchUser_eq_ok_iff
    {user : User} :
    (e.fetchUser k net token).1 = .ok user ↔
      IsFieldText token ∧
        ∃ profile,
          (∃ document,
              (documentCall e.userinfoUrl token).Brings k
                  net document ∧
                Describes document profile) ∧
            (e.requestUser k
                  ((documentCall e.userinfoUrl token).send k
                    net).2
                  token profile).1 =
              .ok user := by
  unfold fetchUser
  simp only [Outcome.fst_andThen_eq_ok_iff,
    requestDocument_eq_ok_iff, snd_requestDocument,
    describes_iff]
  constructor
  · rintro ⟨profile, ⟨hToken, hBrings⟩, hUser⟩
    exact ⟨hToken, profile, hBrings, hUser⟩
  · rintro ⟨hToken, profile, hBrings, hUser⟩
    exact ⟨profile, ⟨hToken, hBrings⟩, hUser⟩

variable {now : Nat}
variable {state : String}
variable {w : Waiting}

/- An exchange asks for a token, and with it for a user. -/
theorem fst_exchange_of_taken
    (hTaken : (w.take now state).1 = .ok p) :
    (e.exchange k now code state w net).1 =
      ((e.requestToken k net code p).andThen
        (fun token net₁ =>
          e.fetchUser k net₁ token)).1 := by
  unfold exchange
  split
  · rename_i f w' hRefused
    rw [hRefused] at hTaken
    cases hTaken
  · rename_i q w' hSame
    rw [hSame] at hTaken
    cases hTaken
    rfl

/- An exchange gives the user that a provider tells. -/
theorem exchange_eq_ok_iff
    (hTaken : (w.take now state).1 = .ok p)
    {user : User} :
    (e.exchange k now code state w net).1 = .ok user ↔
      e.Resolves k net code p user := by
  rw [fst_exchange_of_taken hTaken]
  simp only [Outcome.fst_andThen_eq_ok_iff,
    requestToken_eq_ok_iff, snd_requestToken,
    fetchUser_eq_ok_iff]
  constructor
  · rintro ⟨token, hGranted, hToken, profile, hDescribed,
      hUser⟩
    rcases (requestUser_eq_ok_iff hToken).mp hUser with
      ⟨hNamed, hRest⟩
    exact
      ⟨token, profile,
        ⟨hGranted, hToken, hDescribed, hNamed⟩, hRest⟩
  · rintro ⟨token, profile, hTells, hRest⟩
    refine
      ⟨token, hTells.granted, hTells.sendable, profile,
        hTells.described, ?_⟩
    exact
      (requestUser_eq_ok_iff hTells.sendable).mpr
        ⟨hTells.named, hRest⟩

/- Memberships are always gathered, if only as none. -/
theorem exists_gathers
    {read : Json.Node → Option String}
    {IsItem : Json.Node → String → Prop}
    (hItem :
      ∀ item name, read item = some name ↔ IsItem item name)
    (hToken : IsFieldText token)
    (net : ν)
    (address : Option String) :
    ∃ names, Gathers k net address token IsItem names :=
  ⟨_, (gathers_iff hItem hToken).mpr rfl⟩

/- Whoever is told is found. -/
theorem exists_resolves_iff :
    (∃ user, e.Resolves k net code p user) ↔
      ∃ token profile id,
        e.Tells k net code p token profile id := by
  constructor
  · rintro ⟨user, token, profile, hTells, _⟩
    exact ⟨token, profile, user.id, hTells⟩
  · rintro ⟨token, profile, id, hTells⟩
    rcases exists_gathers (k := k) organization?_eq_some_iff
        hTells.sendable
        (e.afterProfile k net code p token) e.orgsUrl with
      ⟨orgs, hOrgs⟩
    rcases exists_gathers (k := k) team?_eq_some_iff
        hTells.sendable
        (afterDocument k
          (e.afterProfile k net code p token) e.orgsUrl
          token)
        e.teamsUrl with ⟨teams, hTeams⟩
    exact
      ⟨{ id := id
         login :=
           (profile.login <|> profile.preferred).getD id
         name :=
           profile.name.getD
             ((profile.login <|> profile.preferred).getD
               id)
         providerToken := .hide token
         orgs := orgs
         teams := teams },
        token, profile, hTells, rfl, rfl, rfl, hOrgs,
        hTeams⟩

/- An integer of sixty-four bits names by its text. -/
theorem Tells.id_eq_of_isWord
    {profile : Profile}
    {id : String}
    (hTells : e.Tells k net code p token profile id)
    {m : Json.Numeral}
    (hId : HoldsId (some (.number m)) profile.id)
    (hWord : m.IsWord) :
    id = Decimal.signedText m.integer := by
  rcases Json.Numeral.write_value_of_isWord hWord with
    ⟨v, hValue, hText⟩
  have hNumber : profile.id = some (.number v) := by
    rcases hSame : profile.id with _ | i
    · rw [hSame] at hId
      cases hId with
      | absent hAbsent =>
          rcases hAbsent with hNone | hNull
          · cases hNone
          · cases hNull
    · rw [hSame] at hId
      cases hId with
      | number hValue' =>
          rw [hValue] at hValue'
          cases hValue'
          rfl
  have hNamed := hTells.named
  rw [Profile.isNamed_iff, Profile.userId?, hNumber]
    at hNamed
  cases hNamed
  exact hText

------------------------------------------------------------
-- What Memberships Decide
------------------------------------------------------------

variable {μ : Type}
variable {k' : Client μ}
variable {net' : μ}

/-
  Do two clients reply alike when a token is asked for, and
  when a profile is asked for with whatever token?
-/
structure AgreeOnUser
    (e : Endpoints)
    (k : Client ν)
    (net : ν)
    (k' : Client μ)
    (net' : μ)
    (code : String)
    (p : Pending) : Prop where
  token :
    ((e.tokenCall code p).send k net).1 =
      ((e.tokenCall code p).send k' net').1
  profile :
    ∀ token,
      ((documentCall e.userinfoUrl token).send k
            (e.afterToken k net code p)).1 =
        ((documentCall e.userinfoUrl token).send k'
          (e.afterToken k' net' code p)).1

/- A like reply gives a like token. -/
theorem fst_requestToken_congr
    (h :
      ((e.tokenCall code p).send k net).1 =
        ((e.tokenCall code p).send k' net').1) :
    (e.requestToken k net code p).1 =
      (e.requestToken k' net' code p).1 := by
  unfold requestToken
  rcases hSend : (e.tokenCall code p).send k net with
    ⟨reply, _⟩
  rcases hSend' : (e.tokenCall code p).send k' net' with
    ⟨reply', _⟩
  rw [hSend, hSend'] at h
  cases h
  cases reply <;> rfl

/- A like reply gives a like document. -/
theorem fst_requestDocument_congr
    {α : Type}
    {address : String}
    (read : Json.Node → Option α)
    (h :
      ((documentCall address token).send k net).1 =
        ((documentCall address token).send k' net').1) :
    (requestDocument k net address token read).1 =
      (requestDocument k' net' address token read).1 := by
  unfold requestDocument
  rcases hSend : (documentCall address token).send k net
    with ⟨reply, _⟩
  rcases hSend' :
      (documentCall address token).send k' net' with
    ⟨reply', _⟩
  rw [hSend, hSend'] at h
  cases h
  cases reply <;> rfl

/- Apart from memberships, the profile alone decides. -/
theorem alone_requestUser
    (profile : Profile) :
    (e.requestUser k net token profile).1.map User.alone =
      (e.requestUser k' net' token profile).1.map
        User.alone := by
  unfold requestUser
  cases profile.userId? <;> rfl

/- What is done alike with like values gives alike. -/
theorem Outcome.map_fst_andThen_congr
    {α β γ : Type}
    {r : Outcome ν α}
    {r' : Outcome μ α}
    {next : α → ν → Outcome ν β}
    {next' : α → μ → Outcome μ β}
    {f : β → γ}
    (h : r.1 = r'.1)
    (hNext :
      ∀ a, (next a r.2).1.map f = (next' a r'.2).1.map f) :
    (r.andThen next).1.map f =
      (r'.andThen next').1.map f := by
  rcases r with ⟨reply, net⟩
  rcases r' with ⟨reply', net'⟩
  cases h
  cases reply with
  | error _ => rfl
  | ok a => exact hNext a

/- A like profile gives a like user, memberships apart. -/
theorem alone_fetchUser
    (h :
      ((documentCall e.userinfoUrl token).send k net).1 =
        ((documentCall e.userinfoUrl token).send k'
          net').1) :
    (e.fetchUser k net token).1.map User.alone =
      (e.fetchUser k' net' token).1.map User.alone := by
  unfold fetchUser
  apply Outcome.map_fst_andThen_congr
  · exact fst_requestDocument_congr _ h
  · exact alone_requestUser

/- Like replies give a like user, memberships apart. -/
theorem alone_exchange
    (hTaken : (w.take now state).1 = .ok p)
    (h : e.AgreeOnUser k net k' net' code p) :
    (e.exchange k now code state w net).1.map User.alone =
      (e.exchange k' now code state w net').1.map
        User.alone := by
  rw [fst_exchange_of_taken hTaken,
    fst_exchange_of_taken hTaken]
  apply Outcome.map_fst_andThen_congr
  · exact fst_requestToken_congr h.token
  · intro token
    apply alone_fetchUser
    rw [snd_requestToken, snd_requestToken]
    exact h.profile token

/-
  Identity in an exchange of a waiting login.  A user is
  found exactly if a token that can be sent is granted and
  someone with a name is described by it; then the user is
  the one that is told, with all memberships or none.  The
  name is never empty, and that of an integer is its decimal
  text.  What is said of memberships changes nothing but
  them.
-/
theorem exchange_resolves
    (e : Endpoints)
    (k : Client ν)
    (net : ν)
    (now : Nat)
    (code state : String)
    (w : Waiting)
    (p : Pending)
    (hWaits : w.get? state = some p)
    (hYoung : p.age now ≤ Pending.lifetime) :
    ((∃ user,
          (e.exchange k now code state w net).1 =
            .ok user) ↔
        ∃ token profile id,
          e.Tells k net code p token profile id) ∧
      (∀ user,
        (e.exchange k now code state w net).1 = .ok user ↔
          e.Resolves k net code p user) ∧
        (∀ token profile id,
          e.Tells k net code p token profile id →
            id ≠ "" ∧
              ∀ m : Json.Numeral,
                HoldsId (some (.number m)) profile.id →
                  m.IsWord →
                    id =
                      Decimal.signedText m.integer) ∧
          ∀ (μ : Type) (k' : Client μ) (net' : μ),
            e.AgreeOnUser k net k' net' code p →
              (e.exchange k now code state w net).1.map
                    User.alone =
                  (e.exchange k' now code state w
                    net').1.map User.alone ∧
                (e.exchange k now code state w net).2.1 =
                  (e.exchange k' now code state w
                    net').2.1 := by
  have hTaken : (w.take now state).1 = .ok p :=
    Waiting.take_eq_ok_iff.mpr ⟨hWaits, hYoung⟩
  refine ⟨?_, ?_, ?_, ?_⟩
  · simp only [exchange_eq_ok_iff hTaken,
      exists_resolves_iff]
  · intro user
    exact exchange_eq_ok_iff hTaken
  · intro token profile id hTells
    refine ⟨hTells.named.ne_empty, ?_⟩
    intro m hId hWord
    exact hTells.id_eq_of_isWord hId hWord
  · intro μ k' net' hAgree
    refine ⟨alone_exchange hTaken hAgree, ?_⟩
    rw [waiting_exchange, waiting_exchange]

------------------------------------------------------------
-- Fixed Documents
------------------------------------------------------------

/- A network with a document at each of some addresses. -/
def holding
    (documents : List (String × String)) :
    Network Unit where
  send _ request :=
    ((documents.lookup request.url.write).map
        (fun body => ⟨200, Utf8.encode body⟩),
      ())

/- What is brought depends on the address alone. -/
theorem carry_holding
    (documents : List (String × String))
    {request other : Http.Outgoing}
    (h : request.url = other.url) :
    (holding documents).client.carry () request =
      (holding documents).client.carry () other := by
  simp only [Network.client, holding, h]

/- A login that waits under a state. -/
def oneLogin : Waiting :=
  Table.empty.insert "s" ⟨"v", "http://localhost/a", 0⟩

/- A provider that is asked for memberships as well. -/
def fullEndpoints : Endpoints :=
  { Desk.plainEndpoints with
    orgsUrl := some "http://idp.test/orgs"
    teamsUrl := some "http://idp.test/teams" }

/-
  A user with a number for an id, without a login, in two
  organizations, and with one team that is not well formed.
-/
def annsDocuments : List (String × String) :=
  [("http://idp.test/token",
      "\x7b\"access_token\":\"t\"\x7d"),
   ("http://idp.test/user",
      "\x7b\"id\":12,\"preferred_username\":\"ann\"\x7d"),
   ("http://idp.test/orgs",
      "[\x7b\"login\":\"b\"\x7d,\x7b\"login\":\"a\"\x7d]"),
   ("http://idp.test/teams",
      "[\x7b\"slug\":\"x\"\x7d]")]

/- The user that these documents describe. -/
def ann : User :=
  ⟨"12", "ann", "ann", .hide "t", ["b", "a"], []⟩

/- The user of these documents is found as they tell. -/
theorem exchange_annsDocuments :
    (fullEndpoints.exchange (holding annsDocuments) 0 "c"
          "s" oneLogin ()).1 = .ok ann ∧
      fullEndpoints.Resolves (holding annsDocuments) () "c"
        ⟨"v", "http://localhost/a", 0⟩ ann := by
  have hFound :
      (fullEndpoints.exchange (holding annsDocuments) 0 "c"
        "s" oneLogin ()).1 = .ok ann := by
    decide +kernel
  have hWaits :
      oneLogin.get? "s" =
        some ⟨"v", "http://localhost/a", 0⟩ := by
    decide
  refine ⟨hFound, ?_⟩
  exact
    ((exchange_resolves fullEndpoints
      (holding annsDocuments).client () 0 "c" "s" oneLogin _
      hWaits (by decide)).2.1 ann).mp hFound

/- A token of two lines, and the user it stands for. -/
def twoLineDocuments : List (String × String) :=
  [("http://idp.test/token",
      "\x7b\"access_token\":\"a\\nb\"\x7d"),
   ("http://idp.test/user", "\x7b\"id\":\"1\"\x7d")]

/-
  A token with a line break is granted, and the document of
  its user is there, but no request can carry the token.
-/
theorem exchange_unsendable_token :
    oneLogin.get? "s" =
        some ⟨"v", "http://localhost/a", 0⟩ ∧
      (∃ document,
          (Desk.plainEndpoints.tokenCall "c"
                ⟨"v", "http://localhost/a", 0⟩).Brings
              (holding twoLineDocuments) () document ∧
            Grants document "a\nb") ∧
        (∃ document profile,
            (documentCall Desk.plainEndpoints.userinfoUrl
                  "a\nb").Brings
                (holding twoLineDocuments) () document ∧
              Describes document profile ∧
                profile.IsNamed "1") ∧
          (Desk.plainEndpoints.exchange
              (holding twoLineDocuments) 0 "c" "s" oneLogin
              ()).1 =
            .error (.http
              "GET http://idp.test/user failed: builder error") := by
  refine ⟨by decide, ?_, ?_, by decide +kernel⟩
  · apply requestToken_eq_ok_iff.mp
    decide +kernel
  · have hFound :
        (Desk.plainEndpoints.fetchUser
            (holding twoLineDocuments) () "t").1 =
          .ok ⟨"1", "1", "1", .hide "t", [], []⟩ := by
      decide +kernel
    rcases fetchUser_eq_ok_iff.mp hFound with
      ⟨hToken, profile, ⟨document, hBrings, hDescribes⟩,
        hUser⟩
    rcases hBrings with ⟨u, r, hTargets, hSent, hHolds⟩
    -- The response does not depend on the token.
    have hUrl :
        ((documentCall Desk.plainEndpoints.userinfoUrl
              "a\nb").outgoing u).url =
          ((documentCall Desk.plainEndpoints.userinfoUrl
            "t").outgoing u).url := rfl
    rw [← carry_holding twoLineDocuments hUrl] at hSent
    exact
      ⟨document, profile,
        ⟨u, r,
          ⟨hTargets.parses, hTargets.hasHost,
            hTargets.isReachable⟩,
          hSent, hHolds⟩,
        hDescribes,
        ((requestUser_eq_ok_iff hToken).mp hUser).1⟩

end Endpoints

end Login

end Gatehouse
