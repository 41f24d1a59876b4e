import Gatehouse.Proofs.Session.Lifecycle
import Mathlib.Data.List.Basic

/-
  Tokens of the provider are revoked at logout.

  A provider that keeps the tokens that it is given to
  revoke tells what a run has revoked: the tokens of the
  sessions that were logged out, in this order, and no
  others.  Nothing depends on what becomes of a revocation.
  With new ids, no session is logged out twice.

  Key definitions include:
    * `Login.Provider.recording`
    * `Session.tokensOf`
    * `Session.Manager.recorded`
    * `Session.Manager.loggedOutId?`
    * `Session.Manager.loggedOut?`

  Main results include:
    * `Session.Manager.next_recorded`
    * `Session.Manager.ran_recording`
    * `Session.Manager.nodup_loggedOutId?`
    * `Session.Manager.ran_revokes`
-/

namespace Gatehouse

------------------------------------------------------------
-- Recording
------------------------------------------------------------

/- A provider that keeps the tokens it is given to revoke. -/
def Login.Provider.recording {σ : Type}
    (p : Login.Provider σ) :
    Login.Provider (σ × List String) where
  authorize s address :=
    let (answer, after) := p.authorize s.1 address
    (answer, (after, s.2))
  exchange s code state :=
    let (answer, after) := p.exchange s.1 code state
    (answer, (after, s.2))
  revoke s token :=
    let (answer, after) := p.revoke s.1 token
    (answer, (after, s.2 ++ [token]))

namespace Session

/- The tokens of the provider that sessions have. -/
def tokensOf
    (sessions : List Session) : List String :=
  (sessions.map (·.user.providerToken.reveal)).filter
    (· ≠ "")

/- The tokens of two lists of sessions are those of each. -/
theorem tokensOf_append
    (first second : List Session) :
    tokensOf (first ++ second) =
      tokensOf first ++ tokensOf second := by
  unfold tokensOf
  rw [List.map_append, List.filter_append]

namespace Manager

open History (Event Entry run)

variable {σ : Type}

/- A manager whose provider has kept some tokens. -/
def recorded
    (m : Manager σ)
    (tokens : List String) :
    Manager (σ × List String) :=
  { m with providerState := (m.providerState, tokens) }

/- The id that an entry logs out with success. -/
def loggedOutId?
    (p : Login.Provider σ)
    (e : Entry (Manager σ) Call) : Option String :=
  match e.call with
  | .logout id =>
      match (e.before.logout p id).1 with
      | .ok _ => some id
      | .error _ => none
  | _ => none

/- The session that an entry logs out with success. -/
def loggedOut?
    (p : Login.Provider σ)
    (e : Entry (Manager σ) Call) : Option Session :=
  (loggedOutId? p e).bind e.before.sessions.get?

------------------------------------------------------------
-- One Call at a Time
------------------------------------------------------------

variable (p : Login.Provider σ)
variable (m : Manager σ)
variable (tokens : List String)

/- The start of a login revokes nothing. -/
theorem initiate_recorded
    (address : String) :
    ((m.recorded tokens).initiate p.recording address).2 =
      (m.initiate p address).2.recorded tokens := by
  unfold initiate
  dsimp only [recorded]
  cases m.terms.redirects.check address with
  | error e => rfl
  | ok _ =>
      dsimp only [Login.Provider.recording]
      cases ((p.authorize m.providerState address).1.within
        m.terms.patience) <;> rfl

/- The end of a login revokes nothing. -/
theorem complete_recorded
    (now : Instant)
    (id code state : String) :
    ((m.recorded tokens).complete p.recording now id code
        state).2 =
      (m.complete p now id code state).2.recorded
        tokens := by
  unfold complete
  split
  · rfl
  · dsimp only [recorded, Login.Provider.recording]
    cases ((p.exchange m.providerState code state).1.within
      m.terms.patience) <;> rfl

/- A refresh revokes nothing. -/
theorem refresh_recorded
    (now : Instant)
    (id : String) :
    ((m.recorded tokens).refresh now id).2 =
      (m.refresh now id).2.recorded tokens := by
  unfold refresh
  dsimp only [recorded]
  split
  · rfl
  · split
    · rfl
    · split <;> rfl

/- A validation of an id revokes nothing. -/
theorem validateId_recorded
    (now : Instant)
    (id : String) :
    ((m.recorded tokens).validateId now id).2 =
      (m.validateId now id).2.recorded tokens := by
  unfold validateId
  dsimp only [recorded]
  split
  · rfl
  · split <;> rfl

/- A validation of a request revokes nothing. -/
theorem validate_recorded
    (now : Instant)
    (hs : List Http.Header)
    (query : Option (List UInt8)) :
    ((m.recorded tokens).validate now hs query).2 =
      (m.validate now hs query).2.recorded tokens := by
  unfold validate
  split
  · rfl
  · exact validateId_recorded m tokens now _

/- A sweep revokes nothing. -/
theorem sweep_recorded
    (now : Instant) :
    ((m.recorded tokens).sweep now).2 =
      (m.sweep now).2.recorded tokens := by
  unfold sweep
  dsimp only [recorded, live, active]
  split <;> rfl

/- What a logout with success ends is the session it names. -/
theorem loggedOut?_logout
    (now : Instant)
    {id : String}
    (hId : id ≠ "") :
    loggedOut? p ⟨m, now, .logout id⟩ =
      m.sessions.get? id := by
  unfold loggedOut? loggedOutId? logout
  dsimp only
  rw [if_neg (by simpa using hId)]
  cases hFound : m.sessions.get? id with
  | none => rfl
  | some s => exact hFound

/- The revocation of a token is kept, if there is one. -/
theorem revokeToken_recorded
    (s : Session) :
    (m.recorded tokens).revokeToken p.recording
        s.user.providerToken =
      (m.revokeToken p s.user.providerToken).recorded
        (tokens ++ tokensOf [s]) := by
  unfold revokeToken tokensOf Secret.isEmpty
  by_cases hEmpty : s.user.providerToken.reveal = ""
  · simp [hEmpty]
  · simp [hEmpty, recorded, Login.Provider.recording]

/- A logout revokes the token of the session that it ends. -/
theorem logout_recorded
    (now : Instant)
    (id : String) :
    ((m.recorded tokens).logout p.recording id).2 =
      (m.logout p id).2.recorded
        (tokens ++
          tokensOf
            (loggedOut? p ⟨m, now, .logout id⟩).toList) := by
  by_cases hId : id = ""
  · subst hId
    exact
      congrArg m.recorded (List.append_nil tokens).symm
  · rw [loggedOut?_logout p m now hId]
    unfold logout
    rw [if_neg (by simpa using hId),
      if_neg (by simpa using hId)]
    cases hFound : m.sessions.get? id with
    | none =>
        have hNone :
            (m.recorded tokens).sessions.get? id = none :=
          hFound
        rw [hNone]
        exact
          congrArg m.recorded (List.append_nil tokens).symm
    | some s =>
        have hSome :
            (m.recorded tokens).sessions.get? id = some s :=
          hFound
        rw [hSome]
        let ended : Manager σ :=
          { (m.remove id).noteActive with
            tally.logouts := m.tally.logouts + 1 }
        exact revokeToken_recorded p ended tokens s

/- A call revokes the token of a session that it logs out. -/
theorem next_recorded
    (event : Event Call) :
    (m.recorded tokens).next p.recording event =
      (m.next p event).recorded
        (tokens ++
          tokensOf
            (loggedOut? p
              ⟨m, event.now, event.call⟩).toList) := by
  rcases event with ⟨now, call⟩
  have hNothing :
      tokens ++ tokensOf (none : Option Session).toList =
        tokens :=
    List.append_nil tokens
  cases call with
  | initiate address =>
      exact
        (initiate_recorded p m tokens address).trans
          (congrArg _ hNothing.symm)
  | complete draw code state =>
      exact
        (complete_recorded p m tokens now _ code state).trans
          (congrArg _ hNothing.symm)
  | validate hs query =>
      exact
        (validate_recorded m tokens now hs query).trans
          (congrArg _ hNothing.symm)
  | validateId id =>
      exact
        (validateId_recorded m tokens now id).trans
          (congrArg _ hNothing.symm)
  | refresh id =>
      exact
        (refresh_recorded m tokens now id).trans
          (congrArg _ hNothing.symm)
  | logout id => exact logout_recorded p m tokens now id
  | sweep =>
      exact
        (sweep_recorded m tokens now).trans
          (congrArg _ hNothing.symm)

------------------------------------------------------------
-- Runs
------------------------------------------------------------

variable (terms : Terms)
variable (provider : σ)

/- The sessions that a history logs out, in order. -/
def loggedOut
    (entries : List (Entry (Manager σ) Call)) :
    List Session :=
  entries.filterMap (loggedOut? p)

/-
  A run revokes the tokens of the sessions that it logs out,
  in order, and otherwise goes on as if nothing was kept.
-/
theorem ran_recording
    (events : List (Event Call)) :
    ran p.recording terms (provider, []) events =
      (ran p terms provider events).recorded
        (tokensOf
          (loggedOut p (history p terms provider events))) := by
  induction events using List.reverseRecOn with
  | nil => rfl
  | append_singleton events event ih =>
      rw [history_append_singleton, loggedOut,
        History.filterMap_append_singleton, tokensOf_append,
        ran_append_singleton, ran_append_singleton, ih,
        next_recorded]
      rfl

/- A session is stored under its id. -/
theorem id_of_ran
    (events : List (Event Call))
    {i : String}
    {s : Session}
    (hStored :
      (ran p terms provider events).sessions.get? i =
        some s) :
    s.id = i := by
  induction events using List.reverseRecOn generalizing s with
  | nil => cases hStored
  | append_singleton events event ih =>
      cases fate_ran p terms provider events event i with
      | opened user _ hAfter =>
          rw [hStored] at hAfter
          rw [Option.some.inj hAfter]
      | ended _ _ hAfter =>
          rw [hStored] at hAfter
          cases hAfter
      | renewed s' _ _ _ hBefore hAfter =>
          rw [hStored] at hAfter
          rw [Option.some.inj hAfter, id_extendTo]
          exact ih hBefore
      | kept _ _ _ hAfter =>
          rw [hStored] at hAfter
          exact ih hAfter.symm

/- What is logged out with success was stored. -/
theorem stored_of_loggedOutId?
    {p : Login.Provider σ}
    {e : Entry (Manager σ) Call}
    {i : String}
    (h : loggedOutId? p e = some i) :
    e.call = .logout i ∧ i ≠ "" ∧
      ∃ s, e.before.sessions.get? i = some s := by
  rcases e with ⟨m, now, call⟩
  cases call with
  | logout id =>
      by_cases hId : id = ""
      · subst hId
        cases h
      · unfold loggedOutId? logout at h
        dsimp only at h
        rw [if_neg (by simpa using hId)] at h
        cases hFound : m.sessions.get? id with
        | none =>
            rw [hFound] at h
            cases h
        | some s =>
            rw [hFound] at h
            cases h
            exact ⟨rfl, hId, s, hFound⟩
  | _ => cases h

/- After its logout a session is not stored. -/
theorem get?_ran_logout
    (events : List (Event Call))
    (now : Instant)
    {i : String}
    (hId : i ≠ "") :
    (ran p terms provider
        (events ++ [⟨now, .logout i⟩])).sessions.get? i =
      none := by
  have hGone :=
    sessions_logout p (ran p terms provider events) hId i
  rw [if_pos rfl] at hGone
  rw [ran_append_singleton]
  exact hGone

/- The sessions that a run logs out have the ids it is told. -/
theorem map_id_loggedOut
    (events : List (Event Call)) :
    (loggedOut p (history p terms provider events)).map
        Session.id =
      (history p terms provider events).filterMap
        (loggedOutId? p) := by
  unfold loggedOut
  rw [List.map_filterMap]
  apply List.filterMap_congr
  intro e he
  rcases History.exists_split_of_mem_log he with
    ⟨first, event, second, _, rfl⟩
  unfold loggedOut?
  generalize hEntry :
    (⟨run (next p) (start terms provider) first, event.now,
      event.call⟩ : Entry (Manager σ) Call) = e
  cases hId : loggedOutId? p e with
  | none => rfl
  | some i =>
      rcases stored_of_loggedOutId? hId with
        ⟨_, _, s, hFound⟩
      rw [Option.bind_some, hFound, Option.map_some]
      rw [← hEntry] at hFound
      rw [id_of_ran p terms provider first hFound]

variable {p terms provider}

/- With new ids, no id is logged out twice. -/
theorem nodup_loggedOutId?
    (events : List (Event Call))
    (hFresh : Fresh p (history p terms provider events)) :
    ((history p terms provider events).filterMap
      (loggedOutId? p)).Nodup := by
  induction events using List.reverseRecOn with
  | nil => exact List.nodup_nil
  | append_singleton events event ih =>
      rw [history_append_singleton] at hFresh ⊢
      have hOldFresh := (List.pairwise_append.mp hFresh).1
      refine
        History.nodup_filterMap_append_singleton.mpr
          ⟨ih hOldFresh, ?_⟩
      intro i hLast hMem
      rcases stored_of_loggedOutId? hLast with
        ⟨_, _, s, hStored⟩
      rcases List.mem_filterMap.mp hMem with ⟨e, he, hFirst⟩
      rcases History.exists_split_of_mem_log he with
        ⟨first, event', second, rfl, rfl⟩
      rcases stored_of_loggedOutId? hFirst with
        ⟨hCall, hId, hFound⟩
      -- After its logout the session is gone, and with new
      -- ids it stays away.
      rcases event' with ⟨now', call'⟩
      change call' = .logout i at hCall
      subst hCall
      have hAbsent :=
        get?_ran_logout p terms provider first now' hId
      have hOpened :
          ∃ e ∈ history p terms provider
              (first ++ [⟨now', .logout i⟩]),
            ∃ user, Opens p i user e := by
        rcases ((ran_stored_iff p terms provider first i).mp
            hFound).exists_mem with
          ⟨e, he, hOpens⟩
        rw [history_append_singleton]
        exact ⟨e, List.mem_append_left _ he, hOpens⟩
      rw [← List.singleton_append, ← List.append_assoc]
        at hOldFresh hStored
      rw [ran_absent hOldFresh hOpened hAbsent] at hStored
      cases hStored

/-
  With new ids, and whatever becomes of revocations, a
  provider is given to revoke exactly the tokens of the
  sessions that are logged out with success, in this order,
  and none for a session without a token.  These sessions
  have the ids that were logged out, and no id is logged out
  twice.
-/
theorem ran_revokes
    (p : Login.Provider σ)
    (terms : Terms)
    (provider : σ)
    (events : List (Event Call))
    (hFresh : Fresh p (history p terms provider events)) :
    let entries := history p terms provider events
    let tokens :=
      ((loggedOut p entries).map
        (·.user.providerToken.reveal)).filter (· ≠ "")
    ran p.recording terms (provider, []) events =
        (ran p terms provider events).recorded tokens ∧
      (ran p.recording terms (provider,
          []) events).providerState.2 = tokens ∧
        (loggedOut p entries).map Session.id =
            entries.filterMap (loggedOutId? p) ∧
          (entries.filterMap (loggedOutId? p)).Nodup := by
  intro entries tokens
  have hRecorded := ran_recording p terms provider events
  refine
    ⟨hRecorded, ?_, map_id_loggedOut p terms provider events,
      nodup_loggedOutId? events hFresh⟩
  rw [hRecorded]
  rfl

/-
  A provider whose users have their code as their token,
  unless the state is blank, and that revokes too late.
-/
def tardy : Login.Provider Unit where
  authorize := fun _ _ => (⟨0, .ok ⟨"", ""⟩⟩, ())
  exchange := fun _ code state =>
    let token := if state = "blank" then "" else code
    (⟨0, .ok ⟨code, code, code, .hide token, [], []⟩⟩, ())
  revoke := fun _ _ => (⟨1, .ok ()⟩, ())

/-
  Four logins: three log out, one of them twice and one
  without a token, and one lapses before its logout.
-/
def partings : List (Event Call) :=
  [⟨⟨0⟩, .complete (drawOf 0) "ann" "state"⟩,
   ⟨⟨0⟩, .complete (drawOf 1) "bob" "blank"⟩,
   ⟨⟨1⟩, .complete (drawOf 2) "cat" "state"⟩,
   ⟨⟨1⟩, .complete (drawOf 3) "dan" "state"⟩,
   ⟨⟨2⟩, .logout (idOf (drawOf 3))⟩,
   ⟨⟨3⟩, .logout (idOf (drawOf 1))⟩,
   ⟨⟨3⟩, .logout (idOf (drawOf 2))⟩,
   ⟨⟨3⟩, .logout (idOf (drawOf 3))⟩,
   ⟨⟨11⟩, .validateId (idOf (drawOf 0))⟩,
   ⟨⟨4⟩, .logout (idOf (drawOf 0))⟩]

/- Two tokens are revoked, once each. -/
theorem ran_revokes_partings :
    Fresh tardy (history tardy briefTerms () partings) ∧
      (ran tardy.recording briefTerms ((),
        []) partings).providerState.2 = ["dan", "cat"] := by
  have hFresh :
      Fresh tardy (history tardy briefTerms () partings) :=
    fresh_of_nodup (by decide)
  have hRevokes :=
    ran_revokes tardy briefTerms () partings hFresh
  refine ⟨hFresh, hRevokes.2.1.trans ?_⟩
  decide

end Manager

end Session

end Gatehouse
