import Gatehouse.Proofs.Session.Lifecycle

/-
  The counts of a manager agree with its sessions.

  Every session that a login opened is stored, or left by a
  logout, an expired validation, an expired refresh or a
  sweep; no session is counted twice.  The noted number of
  sessions is the one that is stored, each validation has
  one outcome, and so has each exchange of a code.

  Key definitions include:
    * `Session.Manager.Call.isValidation`
    * `Session.Manager.Call.isExchange`
    * `Session.Manager.meetsLapsed`
    * `Session.Manager.Reconciled`
    * `Session.Manager.AgreesWith`

  Main results include:
    * `Session.Manager.AgreesWith.next`
    * `Session.Manager.ran_agreesWith`
    * `Session.Manager.ran_accounts`
-/

namespace Gatehouse

namespace Session

namespace Manager

open History (Event Entry)

variable {σ : Type}

------------------------------------------------------------
-- What Is Counted
------------------------------------------------------------

/- Does a call validate a session or a request? -/
def Call.isValidation :
    Call → Bool
  | .validate _ _ => true
  | .validateId _ => true
  | _ => false

/- Does a call bring a code and a state to exchange? -/
def Call.isExchange :
    Call → Bool
  | .complete _ code state =>
      !(code.isEmpty || state.isEmpty)
  | _ => false

/- Is a refresh told that its session is expired? -/
def meetsLapsed
    (e : Entry (Manager σ) Call) : Bool :=
  match e.call with
  | .refresh id =>
      match (e.before.refresh e.now id).1 with
      | .error refusal =>
          refusal = .unauthorized "session expired"
      | .ok _ => false
  | _ => false

/-
  Do the counts of a manager agree with its sessions, with
  the lapses that refreshes met, and with the validations
  and the exchanges that were asked for?
-/
structure Reconciled
    (m : Manager σ)
    (lapses validations exchanges : Nat) : Prop where
  sessions :
    m.tally.completed =
      m.active + m.tally.logouts + m.tally.expired +
        lapses + m.tally.swept
  gauge : m.tally.active.getD 0 = m.active
  validations :
    m.tally.missing + m.tally.valid + m.tally.unknown +
      m.tally.expired = validations
  exchanges :
    m.tally.completed + m.tally.failed = exchanges

/- A session that is removed takes one place. -/
theorem active_remove
    {m : Manager σ}
    {id : String}
    {s : Session}
    (hFound : m.sessions.get? id = some s) :
    (m.remove id).active + 1 = m.active :=
  Table.size_erase_of_some hFound

/- A session with a new id takes one place more. -/
theorem active_store
    {m : Manager σ}
    {s : Session}
    (hNew : m.sessions.get? s.id = none) :
    (m.store s).active = m.active + 1 := by
  unfold active store
  rw [Table.size_insert, Table.erase_of_none hNew]

------------------------------------------------------------
-- One Call at a Time
------------------------------------------------------------

namespace Reconciled

variable {m : Manager σ}
variable {lapses validations exchanges : Nat}

/- No count depends on the state of the provider. -/
theorem asked
    (h : Reconciled m lapses validations exchanges)
    (after : σ) :
    Reconciled { m with providerState := after } lapses
      validations exchanges :=
  ⟨h.sessions, h.gauge, h.validations, h.exchanges⟩

/- The counts agree with any sessions that are as many. -/
theorem of_size_eq
    (h : Reconciled m lapses validations exchanges)
    {sessions : Table String Session}
    (hSize : sessions.size = m.active) :
    Reconciled { m with sessions := sessions } lapses
      validations exchanges where
  sessions := by
    rw [active, hSize]
    exact h.sessions
  gauge := by
    rw [active, hSize]
    exact h.gauge
  validations := h.validations
  exchanges := h.exchanges

/- The start of a login changes none of these counts. -/
theorem initiate
    (h : Reconciled m lapses validations exchanges)
    (p : Login.Provider σ)
    (address : String) :
    Reconciled (m.initiate p address).2 lapses validations
      exchanges := by
  unfold Manager.initiate
  cases m.terms.redirects.check address with
  | error e => exact h
  | ok _ =>
      have hAsked :=
        h.asked (p.authorize m.providerState address).2
      dsimp only
      cases ((p.authorize m.providerState address).1.within
          m.terms.patience) with
      | done ticket =>
          exact
            ⟨hAsked.sessions, hAsked.gauge,
              hAsked.validations, hAsked.exchanges⟩
      | failed f => exact hAsked
      | timedOut => exact hAsked

/- A session that is opened is a completed login. -/
theorem enroll
    (h : Reconciled m lapses validations exchanges)
    (now : Instant)
    {id : String}
    (user : User)
    (hNew : m.sessions.get? id = none) :
    Reconciled (m.enroll now id user).2 lapses validations
      (exchanges + 1) := by
  have hActive :
      (m.enroll now id user).2.active = m.active + 1 :=
    active_store
      (s := ⟨id, user, now, m.deadline now⟩) hNew
  refine ⟨?_, rfl, h.validations, ?_⟩
  · rw [hActive]
    change m.tally.completed + 1 =
      m.active + 1 + m.tally.logouts + m.tally.expired +
        lapses + m.tally.swept
    rw [h.sessions]
    omega
  · rw [← h.exchanges]
    change m.tally.completed + 1 + m.tally.failed =
      m.tally.completed + m.tally.failed + 1
    omega

/- An exchange that gives no user is a failed login. -/
theorem fail
    (h : Reconciled m lapses validations exchanges) :
    Reconciled { m with tally.failed := m.tally.failed + 1 }
      lapses validations (exchanges + 1) :=
  ⟨h.sessions, h.gauge, h.validations,
    congrArg (· + 1) h.exchanges⟩

/-
  A login with a new id is completed or failed, if there was
  something to exchange.
-/
theorem complete
    (h : Reconciled m lapses validations exchanges)
    (p : Login.Provider σ)
    (now : Instant)
    (id code state : String)
    (hNew :
      ∀ d,
        (m.complete p now id code state).1 = .ok d →
          m.sessions.get? id = none) :
    Reconciled (m.complete p now id code state).2 lapses
      validations
      (exchanges +
        if !(code.isEmpty || state.isEmpty) then
          1
        else
          0) := by
  unfold Manager.complete at hNew ⊢
  cases hEmpty : code.isEmpty || state.isEmpty with
  | true => exact h
  | false =>
      rw [hEmpty] at hNew
      dsimp only [Bool.false_eq_true, if_false] at hNew ⊢
      have hAsked :=
        h.asked (p.exchange m.providerState code state).2
      cases hReply :
          (p.exchange m.providerState code state).1.within
            m.terms.patience with
      | done user =>
          rw [hReply] at hNew
          exact hAsked.enroll now user (hNew _ rfl)
      | failed f => exact hAsked.fail
      | timedOut => exact hAsked.fail

/- A logout counts the session that it removes. -/
theorem logout
    (h : Reconciled m lapses validations exchanges)
    (p : Login.Provider σ)
    (id : String) :
    Reconciled (m.logout p id).2 lapses validations
      exchanges := by
  unfold Manager.logout
  split
  · exact h
  · split
    next => exact h
    next s hFound =>
      have hActive := active_remove hFound
      have hSessions := h.sessions
      have hEnded :
          Reconciled
            { (m.remove id).noteActive with
              tally.logouts := m.tally.logouts + 1 }
            lapses validations exchanges := by
        refine ⟨?_, rfl, h.validations, h.exchanges⟩
        change m.tally.completed =
          (m.remove id).active + (m.tally.logouts + 1) +
            m.tally.expired + lapses + m.tally.swept
        omega
      dsimp only [revokeToken]
      split
      · exact hEnded
      · exact hEnded.asked _

/- A refresh that meets an expired session is a lapse. -/
theorem refresh
    (h : Reconciled m lapses validations exchanges)
    (now : Instant)
    (id : String) :
    Reconciled (m.refresh now id).2
      (lapses +
        if meetsLapsed ⟨m, now, .refresh id⟩ then 1 else 0)
      validations exchanges := by
  unfold meetsLapsed Manager.refresh
  dsimp only
  by_cases hEmpty : id.isEmpty = true
  · simp only [if_pos hEmpty]
    exact h
  · simp only [if_neg hEmpty]
    cases hFound : m.sessions.get? id with
    | none => exact h
    | some s =>
        dsimp only
        by_cases hExpired : s.isExpired now = true
        · simp only [if_pos hExpired]
          have hActive := active_remove hFound
          have hSessions := h.sessions
          refine ⟨?_, rfl, h.validations, h.exchanges⟩
          change m.tally.completed =
            (m.remove id).active + m.tally.logouts +
              m.tally.expired + (lapses + 1) + m.tally.swept
          omega
        · simp only [if_neg hExpired]
          have hActive :
              (m.sessions.insert id
                  (s.extendTo (m.deadline now))).size =
                m.active := by
            rw [Table.size_insert]
            exact Table.size_erase_of_some hFound
          exact h.of_size_eq hActive

/- A validation of an id has one outcome. -/
theorem validateId
    (h : Reconciled m lapses validations exchanges)
    (now : Instant)
    (id : String) :
    Reconciled (m.validateId now id).2 lapses
      (validations + 1) exchanges := by
  have hValidations := h.validations
  unfold Manager.validateId
  cases hFound : m.sessions.get? id with
  | none =>
      refine ⟨h.sessions, h.gauge, ?_, h.exchanges⟩
      dsimp only
      omega
  | some s =>
      dsimp only
      split
      · have hActive := active_remove hFound
        have hSessions := h.sessions
        refine ⟨?_, rfl, ?_, h.exchanges⟩
        · change m.tally.completed =
            (m.remove id).active + m.tally.logouts +
              (m.tally.expired + 1) + lapses + m.tally.swept
          omega
        · dsimp only [noteActive, remove]
          omega
      · refine ⟨h.sessions, h.gauge, ?_, h.exchanges⟩
        dsimp only
        omega

/- A validation of a request has one outcome. -/
theorem validate
    (h : Reconciled m lapses validations exchanges)
    (now : Instant)
    (hs : List Http.Header)
    (query : Option (List UInt8)) :
    Reconciled (m.validate now hs query).2 lapses
      (validations + 1) exchanges := by
  unfold Manager.validate
  split
  · have hValidations := h.validations
    refine ⟨h.sessions, h.gauge, ?_, h.exchanges⟩
    dsimp only
    omega
  · exact h.validateId now _

/- A sweep counts the sessions that it removes. -/
theorem sweep
    (h : Reconciled m lapses validations exchanges)
    (now : Instant) :
    Reconciled (m.sweep now).2 lapses validations
      exchanges := by
  have hSessions := h.sessions
  have hLeft : (m.live now).size ≤ m.active :=
    Table.size_retain_le _ _
  unfold Manager.sweep
  dsimp only
  split
  next hNone =>
    have hSame : (m.live now).size = m.active := by
      dsimp only [active] at hNone hLeft ⊢
      omega
    exact h.of_size_eq hSame
  next =>
    refine ⟨?_, rfl, h.validations, h.exchanges⟩
    dsimp only [noteActive, active] at hSessions hLeft ⊢
    omega

end Reconciled

------------------------------------------------------------
-- Runs
------------------------------------------------------------

/- Does a manager agree with its whole history? -/
def AgreesWith
    (m : Manager σ)
    (entries : List (Entry (Manager σ) Call)) : Prop :=
  Reconciled m (entries.countP meetsLapsed)
    (entries.countP fun e => e.call.isValidation)
    (entries.countP fun e => e.call.isExchange)

/-
  A manager that agrees with its history agrees with it
  after the next call too, unless the call opens a session
  under an id that is stored.
-/
theorem AgreesWith.next
    {m : Manager σ}
    {entries : List (Entry (Manager σ) Call)}
    (h : AgreesWith m entries)
    (p : Login.Provider σ)
    (event : Event Call)
    (hNew :
      ∀ i user,
        Opens p i user ⟨m, event.now, event.call⟩ →
          m.sessions.get? i = none) :
    AgreesWith (m.next p event)
      (entries ++ [⟨m, event.now, event.call⟩]) := by
  rcases event with ⟨now, call⟩
  unfold AgreesWith at h ⊢
  simp only [List.countP_append, List.countP_singleton]
  cases call with
  | initiate address => exact h.initiate p address
  | complete draw code state =>
      have hAbsent :
          ∀ d,
            (m.complete p now (idOf draw) code state).1 =
                .ok d →
              m.sessions.get? (idOf draw) = none := by
        intro d hReply
        rcases m.complete_cases p now (idOf draw) code
            state with
          ⟨user, hGrants, hOk, _⟩ |
            ⟨⟨e, hRefused⟩, _⟩
        · exact
            hNew (idOf draw) user
              ⟨draw, code, state, _, rfl, hOk, rfl, hGrants⟩
        · rw [hRefused] at hReply
          cases hReply
      exact h.complete p now (idOf draw) code state hAbsent
  | validate hs query => exact h.validate now hs query
  | validateId id => exact h.validateId now id
  | refresh id => exact h.refresh now id
  | logout id => exact h.logout p id
  | sweep => exact h.sweep now

variable {p : Login.Provider σ}
variable {terms : Terms}
variable {provider : σ}

/- With new ids, a manager agrees with its history. -/
theorem ran_agreesWith
    (events : List (Event Call))
    (hFresh : Fresh p (history p terms provider events)) :
    AgreesWith (ran p terms provider events)
      (history p terms provider events) := by
  induction events using List.reverseRecOn with
  | nil => exact ⟨rfl, rfl, rfl, rfl⟩
  | append_singleton events event ih =>
      have hNew :
          ∀ i user,
            Opens p i user
                ⟨ran p terms provider events, event.now,
                  event.call⟩ →
              (ran p terms provider
                events).sessions.get? i = none :=
        fun i user hOpens => ran_unused hFresh hOpens
      rw [history_append_singleton] at hFresh ⊢
      have hBefore := ih (List.pairwise_append.mp hFresh).1
      rw [ran_append_singleton]
      exact hBefore.next p event hNew

/-
  With new ids, every completed login is stored, or was left
  by a logout, an expired validation, an expired refresh or
  a sweep.  The noted number of sessions, once there is one,
  is that of the stored sessions, and before it is noted
  none is stored.  The outcomes of validations add up to the
  validations, and those of exchanges to the exchanges.
-/
theorem ran_accounts
    (p : Login.Provider σ)
    (terms : Terms)
    (provider : σ)
    (events : List (Event Call))
    (hFresh : Fresh p (history p terms provider events)) :
    let m := ran p terms provider events
    let entries := history p terms provider events
    m.tally.completed =
        m.active + m.tally.logouts + m.tally.expired +
          entries.countP meetsLapsed + m.tally.swept ∧
      (∀ n, m.tally.active = some n → n = m.active) ∧
        (m.tally.active = none → m.active = 0) ∧
          m.tally.missing + m.tally.valid +
              m.tally.unknown + m.tally.expired =
            entries.countP (fun e => e.call.isValidation) ∧
            m.tally.completed + m.tally.failed =
              entries.countP
                (fun e => e.call.isExchange) := by
  intro m entries
  have hAgrees : AgreesWith m entries :=
    ran_agreesWith events hFresh
  have hGauge := hAgrees.gauge
  refine
    ⟨hAgrees.sessions, ?_, ?_, hAgrees.validations,
      hAgrees.exchanges⟩
  · intro n hNoted
    rw [hNoted] at hGauge
    exact hGauge
  · intro hUnnoted
    rw [hUnnoted] at hGauge
    exact hGauge.symm

/-
  Five logins: one logs out, one is refreshed too late, one
  is validated too late, one is swept, and one stays.  The
  clock steps back twice, and one login has no code.
-/
def everyWayOut : List (Event Call) :=
  [⟨⟨0⟩, .complete (drawOf 0) "ann" "state"⟩,
   ⟨⟨0⟩, .complete (drawOf 1) "bob" "state"⟩,
   ⟨⟨1⟩, .logout (idOf (drawOf 1))⟩,
   ⟨⟨2⟩, .complete (drawOf 2) "cat" "state"⟩,
   ⟨⟨11⟩, .refresh (idOf (drawOf 0))⟩,
   ⟨⟨13⟩, .validateId (idOf (drawOf 2))⟩,
   ⟨⟨3⟩, .complete (drawOf 3) "dan" "state"⟩,
   ⟨⟨3⟩, .complete (drawOf 4) "" "state"⟩,
   ⟨⟨14⟩, .sweep⟩,
   ⟨⟨9⟩, .complete (drawOf 4) "eve" "state"⟩]

/- Each way out is counted once. -/
theorem ran_accounts_everyWayOut :
    Fresh byCode
        (history byCode briefTerms () everyWayOut) ∧
      (ran byCode briefTerms () everyWayOut).active = 1 ∧
        5 =
          (ran byCode briefTerms () everyWayOut).active +
            1 + 1 + 1 + 1 := by
  have hFresh :
      Fresh byCode
        (history byCode briefTerms () everyWayOut) :=
    fresh_of_nodup (by decide)
  have hAccounts :=
    ran_accounts byCode briefTerms () everyWayOut hFresh
  exact ⟨hFresh, by decide, hAccounts.1⟩

end Manager

end Session

end Gatehouse
