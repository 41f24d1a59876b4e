import Gatehouse.Proofs.Text.Pieces
import Gatehouse.Settings.Load

/-
  Which settings are accepted.

  A draft is accepted if its addresses are those of pages,
  its client has an id, its amounts are not zero, and there
  is a secret for it.  The variable with the secret comes
  before the file.  Otherwise the first flaw is told, in the
  order of the checks, and it names its field.

  Key definitions include:
    * `Settings.IsPage`
    * `Settings.Draft.addresses`
    * `Settings.Draft.amounts`
    * `Settings.Draft.Valid`
    * `Settings.Draft.SecretIs`
    * `Settings.Draft.FirstFlaw`
    * `Settings.Flaw.field`

  Main results include:
    * `Settings.Draft.flaw?_eq_none_iff`
    * `Settings.Draft.complete_eq_ok_iff`
    * `Settings.Draft.complete_eq_error_iff`
    * `Settings.load_iff_valid`
-/

namespace Gatehouse

namespace Settings

------------------------------------------------------------
-- What Is Asked of a Draft
------------------------------------------------------------

/- Does an address begin like that of a page? -/
def IsPage
    (address : String) : Prop :=
  "http://".toList <+: address.toList ∨
    "https://".toList <+: address.toList

namespace Draft

/- An address that may be left out, with its field. -/
def given
    (field : String)
    (address : Option String) : List (String × String) :=
  address.toList.map (fun a => (field, a))

/- The addresses of a draft with their fields, in order. -/
def addresses
    (d : Draft) : List (String × String) :=
  let p := d.provider
  [("authorize_url", p.authorizeUrl),
   ("token_url", p.tokenUrl),
   ("userinfo_url", p.userinfoUrl)] ++
    given "orgs_url" p.orgsUrl ++
    given "teams_url" p.teamsUrl ++
    given "revoke_url" p.revokeUrl

/- The amounts of a draft with their fields, in order. -/
def amounts
    (d : Draft) : List (String × Nat) :=
  [("request_timeout_secs", d.provider.timeoutSeconds),
   ("ttl_secs", d.sessions.lifetimeSeconds),
   ("sweep_interval_secs", d.sessions.sweepSeconds),
   ("cleanup_interval_secs", d.shares.cleanupSeconds),
   ("max_connections", d.server.greatestConnections)]

/- Has the client an id that is not blank? -/
def HasClient
    (d : Draft) : Prop :=
  ∃ c ∈ d.provider.clientId.toList, Text.isBlank c = false

/- Is a draft as is asked, apart from its secret? -/
structure Valid
    (d : Draft) : Prop where
  addresses : ∀ a ∈ d.addresses, IsPage a.2
  client : d.HasClient
  amounts : ∀ a ∈ d.amounts, a.2 ≠ 0

/-
  What the secret is: the text of the variable as it is, or
  without the variable the trimmed text of the file.
-/
inductive SecretIs
    (d : Draft)
    (e : Environment)
    (read : FileTree.TextReader) :
    String → Prop where
  | ofVariable {s}
      (hSet : e.text? secretVariable = some s) :
      SecretIs d e read s
  | ofFile {path contents s}
      (hUnset : e.text? secretVariable = none)
      (hNamed : d.provider.secretFile = some path)
      (hRead : read path = .ok contents)
      (hTrims : Text.Trims contents s) :
      SecretIs d e read s

/-
  The first flaw of a draft: all that is asked before it is
  fulfilled.  Addresses come first, then the client, then
  the amounts, and the secret comes last.
-/
inductive FirstFlaw
    (d : Draft)
    (e : Environment)
    (read : FileTree.TextReader) :
    Flaw → Prop where
  | address {before field address after}
      (hSplit :
        d.addresses = before ++ (field, address) :: after)
      (hBefore : ∀ a ∈ before, IsPage a.2)
      (hAddress : ¬IsPage address) :
      FirstFlaw d e read (.notHttp field address)
  | client
      (hAddresses : ∀ a ∈ d.addresses, IsPage a.2)
      (hClient : ¬d.HasClient) :
      FirstFlaw d e read .blankClientId
  | amount {before field after}
      (hAddresses : ∀ a ∈ d.addresses, IsPage a.2)
      (hClient : d.HasClient)
      (hSplit : d.amounts = before ++ (field, 0) :: after)
      (hBefore : ∀ a ∈ before, a.2 ≠ 0) :
      FirstFlaw d e read (.zero field)
  | unreadable {path reason}
      (hValid : d.Valid)
      (hUnset : e.text? secretVariable = none)
      (hNamed : d.provider.secretFile = some path)
      (hRead : read path = .error reason) :
      FirstFlaw d e read (.unreadableSecret path reason)
  | noSecret
      (hValid : d.Valid)
      (hUnset : e.text? secretVariable = none)
      (hUnnamed : d.provider.secretFile = none) :
      FirstFlaw d e read .missingSecret
  | emptySecret
      (hValid : d.Valid)
      (hEmpty : d.SecretIs e read "") :
      FirstFlaw d e read .missingSecret

end Draft

------------------------------------------------------------
-- Single Checks
------------------------------------------------------------

/- The check of an address, as a statement. -/
theorem isHttp_iff
    (address : String) :
    isHttp address = true ↔ IsPage address := by
  unfold isHttp IsPage
  rw [Bool.or_eq_true, List.isPrefixOf_iff_prefix,
    List.isPrefixOf_iff_prefix]

/- An address passes if it is that of a page. -/
theorem checkHttp_eq_none_iff
    (field address : String) :
    checkHttp field address = none ↔ IsPage address := by
  rw [← isHttp_iff]
  unfold checkHttp
  split <;> simp_all

/- An address that does not pass is told with its field. -/
theorem checkHttp_eq_some_iff
    (field address : String)
    (f : Flaw) :
    checkHttp field address = some f ↔
      ¬IsPage address ∧ f = .notHttp field address := by
  rw [← isHttp_iff, eq_comm (a := f)]
  unfold checkHttp
  split <;> simp_all

/- An amount passes if it is not zero. -/
theorem checkPositive_eq_none_iff
    (field : String)
    (n : Nat) :
    checkPositive field n = none ↔ n ≠ 0 := by
  unfold checkPositive
  split <;> simp_all

/- An amount that does not pass is told by its field. -/
theorem checkPositive_eq_some_iff
    (field : String)
    (n : Nat)
    (f : Flaw) :
    checkPositive field n = some f ↔
      n = 0 ∧ f = .zero field := by
  rw [eq_comm (a := f)]
  unfold checkPositive
  split <;> simp_all

namespace Draft

variable (d : Draft)

/- The client passes if its id is not blank. -/
theorem checkClient_eq_none_iff :
    checkClient d.provider.clientId = none ↔
      d.HasClient := by
  unfold checkClient HasClient Text.isBlankText
  split <;> simp_all

/- A client that does not pass has no id. -/
theorem checkClient_eq_some_iff
    (f : Flaw) :
    checkClient d.provider.clientId = some f ↔
      ¬d.HasClient ∧ f = .blankClientId := by
  rw [← checkClient_eq_none_iff, eq_comm (a := f)]
  unfold checkClient
  split <;> simp

------------------------------------------------------------
-- All Checks in Order
------------------------------------------------------------

/- The first find of a list is that of its head, or later. -/
theorem findSome?_cons_eq_or
    {α β : Type}
    (f : α → Option β)
    (a : α)
    (as : List α) :
    (a :: as).findSome? f = (f a).or (as.findSome? f) := by
  rw [List.findSome?_cons]
  cases f a <;> rfl

/- An address that is left out is not checked. -/
theorem findSome?_given
    (field : String)
    (address : Option String) :
    (given field address).findSome?
        (fun a => checkHttp a.1 a.2) =
      address.bind (checkHttp field) := by
  cases address with
  | none => rfl
  | some a => simp [given, findSome?_cons_eq_or]

/- The checks are those of addresses, client and amounts. -/
theorem flaw?_eq :
    d.flaw? =
      (d.addresses.findSome?
          (fun a => checkHttp a.1 a.2)).or
        ((checkClient d.provider.clientId).or
          (d.amounts.findSome?
            (fun a => checkPositive a.1 a.2))) := by
  simp only [flaw?, checks, addresses, amounts,
    findSome?_cons_eq_or, List.findSome?_append,
    findSome?_given, List.findSome?_nil, Option.or_none,
    Option.or_assoc, id_eq]

/- A draft without flaw is one that is as is asked. -/
theorem flaw?_eq_none_iff :
    d.flaw? = none ↔ d.Valid := by
  rw [flaw?_eq, Option.or_eq_none_iff,
    Option.or_eq_none_iff, List.findSome?_eq_none_iff,
    List.findSome?_eq_none_iff, checkClient_eq_none_iff]
  simp only [checkHttp_eq_none_iff,
    checkPositive_eq_none_iff]
  constructor
  · rintro ⟨hAddresses, hClient, hAmounts⟩
    exact ⟨hAddresses, hClient, hAmounts⟩
  · intro h
    exact ⟨h.addresses, h.client, h.amounts⟩

/- The flaw of a draft is that of the first failed check. -/
theorem flaw?_eq_some_iff
    (f : Flaw) :
    d.flaw? = some f ↔
      (∃ before a after,
        d.addresses = before ++ a :: after ∧
          (¬IsPage a.2 ∧ f = .notHttp a.1 a.2) ∧
            ∀ b ∈ before, IsPage b.2) ∨
        (∀ a ∈ d.addresses, IsPage a.2) ∧
          ((¬d.HasClient ∧ f = .blankClientId) ∨
            d.HasClient ∧
              ∃ before a after,
                d.amounts = before ++ a :: after ∧
                  (a.2 = 0 ∧ f = .zero a.1) ∧
                    ∀ b ∈ before, b.2 ≠ 0) := by
  rw [flaw?_eq, Option.or_eq_some_iff,
    Option.or_eq_some_iff, List.findSome?_eq_some_iff,
    List.findSome?_eq_none_iff, List.findSome?_eq_some_iff,
    checkClient_eq_none_iff, checkClient_eq_some_iff]
  simp only [checkHttp_eq_none_iff, checkHttp_eq_some_iff,
    checkPositive_eq_none_iff, checkPositive_eq_some_iff]

/- The flaw that the checks find is the first one. -/
theorem firstFlaw_of_flaw?
    {f : Flaw}
    (e : Environment)
    (read : FileTree.TextReader)
    (h : d.flaw? = some f) :
    d.FirstFlaw e read f := by
  rcases (d.flaw?_eq_some_iff f).mp h with
    ⟨before, a, after, hSplit, ⟨hAddress, rfl⟩, hBefore⟩ |
      ⟨hAddresses, ⟨hClient, rfl⟩ |
        ⟨hClient, before, ⟨field, n⟩, after, hSplit,
          ⟨hZero, rfl⟩, hBefore⟩⟩
  · exact FirstFlaw.address hSplit hBefore hAddress
  · exact FirstFlaw.client hAddresses hClient
  · rw [show n = 0 from hZero] at hSplit
    exact
      FirstFlaw.amount hAddresses hClient hSplit hBefore

------------------------------------------------------------
-- The Secret
------------------------------------------------------------

variable {d}
variable {e : Environment} {read : FileTree.TextReader}

/- A text is accepted as secret if it is not empty. -/
theorem secret_of_secretIs
    {s : String}
    (h : d.SecretIs e read s) :
    d.secret e read =
      if s = "" then .error .missingSecret else .ok ⟨s⟩ := by
  simp only [← String.isEmpty_iff]
  cases h with
  | ofVariable hSet => simp [secret, hSet]
  | ofFile hUnset hNamed hRead hTrims =>
      simp [secret, secretInFile, hUnset, hNamed, hRead,
        hTrims.trim_eq]

/- Without variable and file there is no secret. -/
theorem secret_of_unnamed
    (hUnset : e.text? secretVariable = none)
    (hUnnamed : d.provider.secretFile = none) :
    d.secret e read = .error .missingSecret := by
  simp [secret, secretInFile, hUnset, hUnnamed]

/- A file that cannot be read is told of. -/
theorem secret_of_unreadable
    {path : String}
    {reason : FileTree.ReadFault}
    (hUnset : e.text? secretVariable = none)
    (hNamed : d.provider.secretFile = some path)
    (hRead : read path = .error reason) :
    d.secret e read =
      .error (.unreadableSecret path reason) := by
  simp [secret, secretInFile, hUnset, hNamed, hRead]

/- Where a secret comes from, if it comes from anywhere. -/
theorem secret_cases
    (d : Draft)
    (e : Environment)
    (read : FileTree.TextReader) :
    (∃ s, d.SecretIs e read s) ∨
      e.text? secretVariable = none ∧
        (d.provider.secretFile = none ∨
          ∃ path reason,
            d.provider.secretFile = some path ∧
              read path = .error reason) := by
  cases hSet : e.text? secretVariable with
  | some s => exact Or.inl ⟨s, SecretIs.ofVariable hSet⟩
  | none =>
      cases hNamed : d.provider.secretFile with
      | none => exact Or.inr ⟨rfl, Or.inl rfl⟩
      | some path =>
          cases hRead : read path with
          | error reason =>
              exact
                Or.inr
                  ⟨rfl, Or.inr ⟨path, reason, rfl, hRead⟩⟩
          | ok contents =>
              exact
                Or.inl
                  ⟨_, SecretIs.ofFile hSet hNamed hRead
                    (Text.trims_trim contents)⟩

------------------------------------------------------------
-- Complete Settings
------------------------------------------------------------

/- A draft as is asked is completed by its secret. -/
theorem complete_of_valid
    (h : d.Valid) :
    d.complete e read =
      (d.secret e read).map
        (fun s => ⟨d.withRedirects (d.redirects e), s⟩) := by
  unfold complete
  rw [d.flaw?_eq_none_iff.mpr h]
  cases d.secret e read <;> rfl

/- What the first flaw is, that is told. -/
theorem FirstFlaw.complete_eq
    {f : Flaw}
    (h : d.FirstFlaw e read f) :
    d.complete e read = .error f := by
  have hChecks :
      d.flaw? = some f → d.complete e read = .error f := by
    intro hFlaw
    simp [complete, hFlaw]
  cases h with
  | address hSplit hBefore hAddress =>
      apply hChecks
      rw [flaw?_eq_some_iff]
      exact
        Or.inl
          ⟨_, _, _, hSplit, ⟨hAddress, rfl⟩, hBefore⟩
  | client hAddresses hClient =>
      apply hChecks
      rw [flaw?_eq_some_iff]
      exact Or.inr ⟨hAddresses, Or.inl ⟨hClient, rfl⟩⟩
  | amount hAddresses hClient hSplit hBefore =>
      apply hChecks
      rw [flaw?_eq_some_iff]
      exact
        Or.inr
          ⟨hAddresses,
            Or.inr
              ⟨hClient, _, _, _, hSplit, ⟨rfl, rfl⟩,
                hBefore⟩⟩
  | unreadable hValid hUnset hNamed hRead =>
      rw [complete_of_valid hValid,
        secret_of_unreadable hUnset hNamed hRead]
      rfl
  | noSecret hValid hUnset hUnnamed =>
      rw [complete_of_valid hValid,
        secret_of_unnamed hUnset hUnnamed]
      rfl
  | emptySecret hValid hEmpty =>
      rw [complete_of_valid hValid,
        secret_of_secretIs hEmpty]
      rfl

/-
  A draft is completed, with a secret that is not empty, or
  it has a first flaw.
-/
theorem complete_cases
    (d : Draft)
    (e : Environment)
    (read : FileTree.TextReader) :
    (∃ s,
      d.Valid ∧ d.SecretIs e read s ∧ s ≠ "" ∧
        d.complete e read =
          .ok ⟨d.withRedirects (d.redirects e), ⟨s⟩⟩) ∨
      ∃ f, d.FirstFlaw e read f := by
  cases hFlaw : d.flaw? with
  | some f =>
      exact Or.inr ⟨f, d.firstFlaw_of_flaw? e read hFlaw⟩
  | none =>
      have hValid := d.flaw?_eq_none_iff.mp hFlaw
      rcases d.secret_cases e read with
        ⟨s, hSecret⟩ | ⟨hUnset, hUnnamed |
          ⟨path, reason, hNamed, hRead⟩⟩
      · by_cases hEmpty : s = ""
        · rw [hEmpty] at hSecret
          exact
            Or.inr ⟨_, FirstFlaw.emptySecret hValid hSecret⟩
        · refine Or.inl ⟨s, hValid, hSecret, hEmpty, ?_⟩
          rw [complete_of_valid hValid,
            secret_of_secretIs hSecret, if_neg hEmpty]
          rfl
      · exact
          Or.inr
            ⟨_, FirstFlaw.noSecret hValid hUnset hUnnamed⟩
      · exact
          Or.inr
            ⟨_, FirstFlaw.unreadable hValid hUnset hNamed
              hRead⟩

/- When a draft is completed, and to which settings. -/
theorem complete_eq_ok_iff
    (settings : Settings) :
    d.complete e read = .ok settings ↔
      ∃ s,
        d.Valid ∧ d.SecretIs e read s ∧ s ≠ "" ∧
          settings =
            ⟨d.withRedirects (d.redirects e), ⟨s⟩⟩ := by
  constructor
  · intro hComplete
    rcases d.complete_cases e read with
      ⟨s, hValid, hSecret, hSome, hOther⟩ | ⟨f, hFlaw⟩
    · rw [hComplete] at hOther
      exact
        ⟨s, hValid, hSecret, hSome, Except.ok.inj hOther⟩
    · rw [hFlaw.complete_eq] at hComplete
      cases hComplete
  · rintro ⟨s, hValid, hSecret, hSome, rfl⟩
    rw [complete_of_valid hValid,
      secret_of_secretIs hSecret, if_neg hSome]
    rfl

/- When a draft is not completed, and why. -/
theorem complete_eq_error_iff
    (f : Flaw) :
    d.complete e read = .error f ↔ d.FirstFlaw e read f := by
  constructor
  · intro hComplete
    rcases d.complete_cases e read with
      ⟨s, _, _, _, hOther⟩ | ⟨f', hFlaw⟩
    · rw [hOther] at hComplete
      cases hComplete
    · rw [hFlaw.complete_eq] at hComplete
      cases hComplete
      exact hFlaw
  · exact FirstFlaw.complete_eq

/- With the variable set, the file does not matter. -/
theorem complete_of_variable
    {s : String}
    (hSet : e.text? secretVariable = some s)
    (read read' : FileTree.TextReader) :
    d.complete e read' = d.complete e read := by
  have hSecret : d.secret e read' = d.secret e read := by
    simp [secret, hSet]
  unfold complete
  rw [hSecret]

end Draft

------------------------------------------------------------
-- Fields of Flaws
------------------------------------------------------------

/- The field that a flaw is about. -/
def Flaw.field :
    Flaw → String
  | .notHttp field _ => field
  | .blankClientId => "client_id"
  | .zero field => field
  | .unreadableSecret _ _ => "client_secret_file"
  | .missingSecret => "client_secret_file"

/- A flaw is told by the name of its field. -/
theorem Flaw.field_infix_message
    (f : Flaw) :
    f.field.toList <:+: f.message.toList := by
  cases f with
  | notHttp name value =>
      have hMessage :
          (Flaw.notHttp name value).message =
            name ++
                " must start with http:// or https://, got: " ++
              value := rfl
      rw [hMessage, String.toList_append,
        String.toList_append]
      exact ⟨[], _, (List.append_assoc _ _ _).symm⟩
  | blankClientId =>
      exact ⟨[], " must not be empty".toList, by decide⟩
  | zero name =>
      have hMessage :
          (Flaw.zero name).message =
            name ++ " must be greater than 0" := rfl
      rw [hMessage, String.toList_append]
      exact ⟨[], _, rfl⟩
  | unreadableSecret path reason =>
      have hMessage :
          (Flaw.unreadableSecret path reason).message =
            "failed to read client_secret_file " ++ path ++
              ": " ++ reason.message := rfl
      have hStart :
          "failed to read client_secret_file ".toList =
            "failed to read ".toList ++
              "client_secret_file".toList ++ [' '] := by
        decide
      rw [hMessage, String.toList_append,
        String.toList_append, String.toList_append, hStart]
      simp only [List.append_assoc]
      exact List.infix_append' _ _ _
  | missingSecret =>
      refine
        ⟨"OAuth client secret missing: set ".toList ++
          secretVariable.toList ++ " or ".toList, [], ?_⟩
      decide

------------------------------------------------------------
-- Loaded Settings
------------------------------------------------------------

/- What is loaded is the draft of the text, completed. -/
theorem load_of_draft
    {e : Environment}
    {read : FileTree.TextReader}
    {path contents : String}
    {d : Draft}
    (hRead : read path = .ok contents)
    (hDraft : Draft.ofText? contents = some d) :
    load e read path =
      (d.complete e read).mapError (.flaw ·.message) := by
  simp only [load, hRead, ofText, hDraft]
  cases d.complete e read <;> rfl

/- What is loaded was a draft, and was completed. -/
theorem exists_draft_of_load
    {e : Environment}
    {read : FileTree.TextReader}
    {path : String}
    {settings : Settings}
    (h : load e read path = .ok settings) :
    ∃ d : Draft, d.complete e read = .ok settings := by
  unfold load at h
  cases hRead : read path with
  | error f => simp [hRead] at h
  | ok contents =>
      cases hDraft : Draft.ofText? contents with
      | none => simp [hRead, ofText, hDraft] at h
      | some d =>
          refine ⟨d, ?_⟩
          cases hComplete : d.complete e read with
          | error f =>
              simp [hRead, ofText, hDraft, hComplete] at h
          | ok other =>
              simp only [hRead, ofText, hDraft,
                hComplete] at h
              rw [Except.ok.inj h]

/-
  Settings are accepted exactly if the draft is as is asked
  and its secret is not empty.  They have that secret, the
  return addresses of the variable if it is set, and all
  else from the draft.  If they are not accepted, the first
  flaw is told, by the name of its field.  With the variable
  set, the file with the secret is not read.
-/
theorem load_iff_valid
    {e : Environment}
    {read : FileTree.TextReader}
    {path contents : String}
    {d : Draft}
    (hRead : read path = .ok contents)
    (hDraft : Draft.ofText? contents = some d) :
    ((∃ settings, load e read path = .ok settings) ↔
        d.Valid ∧ ∃ s, d.SecretIs e read s ∧ s ≠ "") ∧
      (∀ settings,
        load e read path = .ok settings →
          d.SecretIs e read settings.clientSecret.reveal ∧
            (∀ s,
              e.text? redirectsVariable = some s →
                settings.draft =
                  d.withRedirects (Draft.entries s)) ∧
              (e.text? redirectsVariable = none →
                settings.draft = d)) ∧
        (∀ fault,
          load e read path = .error fault ↔
            ∃ f, d.FirstFlaw e read f ∧
              fault = .flaw f.message ∧
                f.field.toList <:+: f.message.toList) ∧
          ∀ s, e.text? secretVariable = some s →
            ∀ read', read' path = .ok contents →
              load e read' path = load e read path := by
  have hLoad :
      load e read path =
        (d.complete e read).mapError (.flaw ·.message) :=
    load_of_draft hRead hDraft
  have hOk :
      ∀ settings,
        load e read path = .ok settings ↔
          d.complete e read = .ok settings := by
    intro settings
    rw [hLoad]
    cases d.complete e read <;> simp [Except.mapError]
  refine ⟨?_, ?_, ?_, ?_⟩
  · simp only [hOk, Draft.complete_eq_ok_iff]
    constructor
    · rintro ⟨_, s, hValid, hSecret, hSome, _⟩
      exact ⟨hValid, s, hSecret, hSome⟩
    · rintro ⟨hValid, s, hSecret, hSome⟩
      exact ⟨_, s, hValid, hSecret, hSome, rfl⟩
  · intro settings hAccepted
    rw [hOk, Draft.complete_eq_ok_iff] at hAccepted
    rcases hAccepted with ⟨s, _, hSecret, _, rfl⟩
    refine ⟨hSecret, ?_, ?_⟩
    · intro list hSet
      simp [Draft.redirects, hSet]
    · intro hUnset
      simp [Draft.redirects, Draft.withRedirects, hUnset]
  · intro fault
    rw [hLoad]
    cases hComplete : d.complete e read with
    | ok settings =>
        constructor
        · intro h
          cases h
        · rintro ⟨f, hFlaw, _⟩
          rw [hFlaw.complete_eq] at hComplete
          cases hComplete
    | error f =>
        have hFlaw :=
          (Draft.complete_eq_error_iff f).mp hComplete
        constructor
        · intro h
          cases h
          exact ⟨f, hFlaw, rfl, f.field_infix_message⟩
        · rintro ⟨f', hFlaw', rfl, _⟩
          rw [hFlaw'.complete_eq] at hComplete
          cases hComplete
          rfl
  · intro s hSet read' hRead'
    rw [hLoad, load_of_draft hRead' hDraft,
      Draft.complete_of_variable hSet read read']

/- A document that gives a secret, which is passed over. -/
def document : String :=
  "[server]\nlisten_addr = \"[::]:80\"\n" ++
    "[oauth]\nauthorize_url = \"http://a\"\n" ++
    "token_url = \"http://t\"\n" ++
    "userinfo_url = \"http://u\"\n" ++
    "client_id = \"c\"\nclient_secret = \"x\"\n"

/- A reader that finds the document at every path. -/
def findsDocument : FileTree.TextReader :=
  fun _ => .ok document

/- What the document describes. -/
def drafted : Draft :=
  { server := ⟨.v6 ⟨List.replicate 8 0⟩ 0 80, 1000⟩
    provider :=
      { name := "github"
        authorizeUrl := "http://a"
        tokenUrl := "http://t"
        userinfoUrl := "http://u"
        orgsUrl := none
        teamsUrl := none
        revokeUrl := none
        clientId := "c"
        secretFile := none
        scopes := ""
        redirects := []
        timeoutSeconds := 10 }
    sessions := Sessions.usual
    shares := Shares.usual }

/- The document is read as it should be. -/
theorem ofText?_document :
    Draft.ofText? document = some drafted := by
  decide +kernel

/- The draft is as is asked, but names no secret. -/
theorem valid_drafted :
    drafted.Valid :=
  (Draft.flaw?_eq_none_iff drafted).mp (by decide +kernel)

/- An environment with a secret. -/
def keyed : Environment :=
  Environment.empty.set secretVariable
    (Utf8.encode " key ")

/-
  The secret is that of the variable, with its blanks, and
  not that in the document.  Without the variable there is
  none.
-/
theorem load_document :
    (∃ settings,
      load keyed findsDocument "a" = .ok settings ∧
        settings.clientSecret = ⟨" key "⟩ ∧
          settings.draft = drafted) ∧
      load Environment.empty findsDocument "a" =
        .error
          (.flaw
            ("OAuth client secret missing: set " ++
              "OAUTH_CLIENT_SECRET or client_secret_file")) := by
  have hSet : keyed.text? secretVariable = some " key " := by
    decide +kernel
  have hRead : findsDocument "a" = .ok document := rfl
  have hKeyed :=
    load_iff_valid (e := keyed) hRead ofText?_document
  have hBare :=
    load_iff_valid (e := Environment.empty) hRead
      ofText?_document
  constructor
  · rcases hKeyed.1.mpr
        ⟨valid_drafted, _, .ofVariable hSet, by decide⟩ with
      ⟨settings, hLoaded⟩
    rcases hKeyed.2.1 settings hLoaded with
      ⟨hSecret, _, hDraft⟩
    refine ⟨settings, hLoaded, ?_, hDraft (by decide +kernel)⟩
    cases hSecret with
    | ofVariable hOther =>
        rw [hSet] at hOther
        rw [Option.some.inj hOther]
    | ofFile hUnset =>
        rw [hSet] at hUnset
        cases hUnset
  · rw [hBare.2.2.1]
    exact
      ⟨.missingSecret,
        .noSecret valid_drafted (by decide +kernel) rfl,
        by decide, Flaw.field_infix_message _⟩

end Settings

end Gatehouse
