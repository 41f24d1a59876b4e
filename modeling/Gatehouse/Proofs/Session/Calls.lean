import Gatehouse.Login.Pkce
import Gatehouse.Proofs.History
import Gatehouse.Session.Manager

/-
  What the calls of a manager do.

  Each call leaves a session as it is, opens it, ends it or
  moves its end forward.  Which of these happens is told by
  the call, its time and the manager that it met.

  Key definitions include:
    * `Session.Manager.Call`
    * `Session.Manager.next`
    * `Session.Manager.Grants`
    * `Session.Manager.Opens`
    * `Session.Manager.Overdue`
    * `Session.Manager.Ends`
    * `Session.Manager.Renews`
    * `Session.Manager.Fate`

  Main results include:
    * `Session.Manager.validateId_eq_ok_iff`
    * `Session.Manager.fate`
-/

namespace Gatehouse

namespace Session

namespace Manager

open History (Event Entry)

variable {σ : Type}

------------------------------------------------------------
-- Calls
------------------------------------------------------------

/- What a manager can be asked to do. -/
inductive Call where
  | initiate (address : String)
  | complete (draw : Vector UInt8 32) (code state : String)
  | validate
      (hs : List Http.Header)
      (query : Option (List UInt8))
  | validateId (id : String)
  | refresh (id : String)
  | logout (id : String)
  | sweep
  deriving DecidableEq

/- The session id of drawn octets. -/
def idOf
    (draw : Vector UInt8 32) : String :=
  Login.tokenOf draw.toList

/- A session id is never empty. -/
theorem idOf_ne_empty
    (draw : Vector UInt8 32) :
    idOf draw ≠ "" := by
  intro hEmpty
  have hLength := congrArg String.length hEmpty
  simp [idOf, Login.length_tokenOf] at hLength

/- The manager after a call. -/
def next
    (p : Login.Provider σ)
    (m : Manager σ)
    (event : Event Call) : Manager σ :=
  match event.call with
  | .initiate address => (m.initiate p address).2
  | .complete draw code state =>
      (m.complete p event.now (idOf draw) code state).2
  | .validate hs query => (m.validate event.now hs query).2
  | .validateId id => (m.validateId event.now id).2
  | .refresh id => (m.refresh event.now id).2
  | .logout id => (m.logout p id).2
  | .sweep => (m.sweep event.now).2

------------------------------------------------------------
-- One Call at a Time
------------------------------------------------------------

/- Does the provider give a user for a code in time? -/
def Grants
    (p : Login.Provider σ)
    (m : Manager σ)
    (code state : String)
    (user : User) : Prop :=
  (p.exchange m.providerState code state).1.within
    m.terms.patience = .done user

/- The start of a login leaves the sessions alone. -/
@[simp]
theorem sessions_initiate
    (p : Login.Provider σ)
    (m : Manager σ)
    (address : String) :
    (m.initiate p address).2.sessions = m.sessions := by
  unfold initiate
  cases m.terms.redirects.check address with
  | error e => rfl
  | ok _ =>
      dsimp only
      cases ((p.authorize m.providerState address).1.within
        m.terms.patience) <;> rfl

/-
  A login opens a session for the user that the provider
  gives, or is refused and leaves the sessions alone.
-/
theorem complete_cases
    (p : Login.Provider σ)
    (m : Manager σ)
    (now : Instant)
    (id code state : String) :
    (∃ user,
      Grants p m code state user ∧
        (m.complete p now id code state).1 =
            .ok ⟨id, m.deadline now, user⟩ ∧
          (m.complete p now id code state).2.sessions =
            m.sessions.insert id
              ⟨id, user, now, m.deadline now⟩) ∨
      ((∃ e,
        (m.complete p now id code state).1 = .error e) ∧
          (m.complete p now id code state).2.sessions =
            m.sessions) := by
  unfold complete
  split
  · exact Or.inr ⟨⟨_, rfl⟩, rfl⟩
  · dsimp only
    cases hReply :
        (p.exchange m.providerState code state).1.within
          m.terms.patience with
    | done user => exact Or.inl ⟨user, hReply, rfl, rfl⟩
    | failed f => exact Or.inr ⟨⟨_, rfl⟩, rfl⟩
    | timedOut => exact Or.inr ⟨⟨_, rfl⟩, rfl⟩

/- A logout removes the session that it names. -/
theorem sessions_logout
    (p : Login.Provider σ)
    (m : Manager σ)
    {id : String}
    (hId : id ≠ "")
    (i : String) :
    (m.logout p id).2.sessions.get? i =
      if id = i then none else m.sessions.get? i := by
  unfold logout
  rw [if_neg (by simpa using hId)]
  cases hFound : m.sessions.get? id with
  | none =>
      by_cases hSame : id = i
      · rw [if_pos hSame, ← hSame]
        exact hFound
      · rw [if_neg hSame]
  | some s =>
      dsimp only [revokeToken]
      split
      · exact Table.get?_erase _ _ _
      · exact Table.get?_erase _ _ _

/- A refresh finds no session, an expired or a live one. -/
theorem refresh_cases
    (m : Manager σ)
    (now : Instant)
    {id : String}
    (hId : id ≠ "") :
    (m.sessions.get? id = none ∧
        m.refresh now id =
          (.error (.notFound "session not found"), m)) ∨
      (∃ s,
        m.sessions.get? id = some s ∧ s.expiresAt < now ∧
          (∃ e, (m.refresh now id).1 = .error e) ∧
            (m.refresh now id).2.sessions =
              m.sessions.erase id) ∨
        ∃ s,
          m.sessions.get? id = some s ∧
            now ≤ s.expiresAt ∧
              (∃ d, (m.refresh now id).1 = .ok d) ∧
                (m.refresh now id).2.sessions =
                  m.sessions.insert id
                    (s.extendTo (m.deadline now)) := by
  unfold refresh
  rw [if_neg (by simpa using hId)]
  cases hFound : m.sessions.get? id with
  | none => exact Or.inl ⟨rfl, rfl⟩
  | some s =>
      by_cases hExpired : s.expiresAt < now
      · refine Or.inr (Or.inl ⟨s, rfl, hExpired, ?_⟩)
        simp [isExpired, hExpired, remove, noteActive]
      · refine Or.inr (Or.inr ⟨s, rfl, ?_, ?_⟩)
        · exact (Instant.not_lt _ _).mp hExpired
        · simp [isExpired, hExpired]

/- A validation finds no session, an expired or a live one. -/
theorem validateId_cases
    (m : Manager σ)
    (now : Instant)
    (id : String) :
    (m.sessions.get? id = none ∧
        (m.validateId now id).1 =
            .error (.unauthorized "session not found") ∧
          (m.validateId now id).2.sessions = m.sessions) ∨
      (∃ s,
        m.sessions.get? id = some s ∧ s.expiresAt < now ∧
          (m.validateId now id).1 =
              .error (.unauthorized "session expired") ∧
            (m.validateId now id).2.sessions =
              m.sessions.erase id) ∨
        ∃ s,
          m.sessions.get? id = some s ∧
            now ≤ s.expiresAt ∧
              (m.validateId now id).1 = .ok s.user ∧
                (m.validateId now id).2.sessions =
                  m.sessions := by
  unfold validateId
  cases hFound : m.sessions.get? id with
  | none => exact Or.inl ⟨rfl, rfl, rfl⟩
  | some s =>
      by_cases hExpired : s.expiresAt < now
      · refine Or.inr (Or.inl ⟨s, rfl, hExpired, ?_⟩)
        simp [isExpired, hExpired, remove, noteActive]
      · refine Or.inr (Or.inr ⟨s, rfl, ?_, ?_⟩)
        · exact (Instant.not_lt _ _).mp hExpired
        · simp [isExpired, hExpired]

/- A session validates for its user while it is live. -/
theorem validateId_eq_ok_iff
    (m : Manager σ)
    (now : Instant)
    (id : String)
    (user : User) :
    (m.validateId now id).1 = .ok user ↔
      ∃ s, m.sessions.get? id = some s ∧
        now ≤ s.expiresAt ∧ s.user = user := by
  rcases m.validateId_cases now id with
    ⟨hFound, hReply, _⟩ | ⟨s, hFound, hExpired, hReply, _⟩ |
      ⟨s, hFound, hLive, hReply, _⟩
  · simp [hReply, hFound]
  · have hOver : ¬now ≤ s.expiresAt := by
      rw [← Instant.not_lt]
      exact not_not.mpr hExpired
    simp [hReply, hFound, hOver]
  · simp [hReply, hFound, hLive]

/- What is said of a session that is not stored. -/
theorem replies_of_absent
    (p : Login.Provider σ)
    {m : Manager σ}
    {id : String}
    (hId : id ≠ "")
    (hAbsent : m.sessions.get? id = none)
    (now : Instant) :
    (m.validateId now id).1 =
        .error (.unauthorized "session not found") ∧
      (m.refresh now id).1 =
          .error (.notFound "session not found") ∧
        (m.logout p id).1 =
          .error (.notFound "session not found") := by
  unfold validateId refresh logout
  simp [hAbsent, hId]

/- A sweep removes the expired sessions. -/
theorem sessions_sweep
    (m : Manager σ)
    (now : Instant)
    (i : String) :
    (m.sweep now).2.sessions.get? i =
      (m.sessions.get? i).filter
        (fun s => !s.isExpired now) := by
  have hLive : (m.sweep now).2.sessions = m.live now := by
    unfold sweep
    dsimp only
    split <;> rfl
  rw [hLive]
  exact Table.get?_retain _ _ _

/- A validation keeps the terms. -/
@[simp]
theorem terms_validateId
    (m : Manager σ)
    (now : Instant)
    (id : String) :
    (m.validateId now id).2.terms = m.terms := by
  unfold validateId
  split
  · rfl
  · split <;> rfl

/- No call changes the terms. -/
@[simp]
theorem terms_next
    (p : Login.Provider σ)
    (m : Manager σ)
    (event : Event Call) :
    (m.next p event).terms = m.terms := by
  unfold next
  cases event.call with
  | initiate address =>
      dsimp only
      unfold initiate
      cases m.terms.redirects.check address with
      | error e => rfl
      | ok _ =>
          dsimp only
          cases ((p.authorize m.providerState
            address).1.within m.terms.patience) <;> rfl
  | complete draw code state =>
      dsimp only
      unfold complete
      split
      · rfl
      · dsimp only
        cases ((p.exchange m.providerState code
          state).1.within m.terms.patience) <;> rfl
  | validate hs query =>
      dsimp only
      unfold validate
      split
      · rfl
      · exact m.terms_validateId _ _
  | validateId id => exact m.terms_validateId _ _
  | refresh id =>
      dsimp only
      unfold refresh
      split
      · rfl
      · split
        · rfl
        · split <;> rfl
  | logout id =>
      dsimp only
      unfold logout
      split
      · rfl
      · split
        · rfl
        · dsimp only [revokeToken]
          split <;> rfl
  | sweep =>
      dsimp only
      unfold sweep
      dsimp only
      split <;> rfl

------------------------------------------------------------
-- The Fate of a Session
------------------------------------------------------------

/- Does an entry open a session for a user of the provider? -/
def Opens
    (p : Login.Provider σ)
    (i : String)
    (user : User)
    (e : Entry (Manager σ) Call) : Prop :=
  ∃ draw code state d,
    e.call = .complete draw code state ∧
      (e.before.complete p e.now (idOf draw) code state).1 =
          .ok d ∧
        d.sessionId = i ∧ Grants p e.before code state user

/- A session is opened under a drawn id. -/
theorem Opens.ne_empty
    {p : Login.Provider σ}
    {i : String}
    {user : User}
    {e : Entry (Manager σ) Call}
    (h : Opens p i user e) :
    i ≠ "" := by
  rcases h with ⟨draw, code, state, d, _, hReply, rfl, _⟩
  rcases e.before.complete_cases p e.now (idOf draw) code
      state with
    ⟨_, _, hOk, _⟩ | ⟨⟨refusal, hRefused⟩, _⟩
  · rw [hOk] at hReply
    rw [← Except.ok.inj hReply]
    exact idOf_ne_empty draw
  · rw [hRefused] at hReply
    cases hReply

/- Does a call look at the session with an id? -/
def Call.Examines
    (i : String) :
    Call → Prop
  | .validate hs query => locate? hs query = some i
  | .validateId id => id = i
  | .refresh id => id = i
  | .sweep => True
  | _ => False

/- Is a session stored whose end is over? -/
def Overdue
    (m : Manager σ)
    (now : Instant)
    (i : String) : Prop :=
  ∃ s, m.sessions.get? i = some s ∧ s.expiresAt < now

/-
  Does an entry end a session: by a logout, or by looking at
  it later than the end that it had then?
-/
def Ends
    (i : String)
    (e : Entry (Manager σ) Call) : Prop :=
  e.call = .logout i ∨
    e.call.Examines i ∧ e.before.Overdue e.now i

/- Does an entry refresh a session with success? -/
def Renews
    (i : String)
    (e : Entry (Manager σ) Call) : Prop :=
  e.call = .refresh i ∧
    ∃ d, (e.before.refresh e.now i).1 = .ok d

/- A session that is refreshed is stored. -/
theorem Renews.stored
    {i : String}
    {e : Entry (Manager σ) Call}
    (h : Renews i e) :
    ∃ s, e.before.sessions.get? i = some s := by
  rcases h with ⟨_, d, hReply⟩
  have hId : i ≠ "" := by
    rintro rfl
    cases hReply
  rcases e.before.refresh_cases e.now hId with
    ⟨_, hNone⟩ | ⟨s, hFound, _⟩ | ⟨s, hFound, _⟩
  · rw [hNone] at hReply
    cases hReply
  · exact ⟨s, hFound⟩
  · exact ⟨s, hFound⟩

/- What an entry makes of the session with an id. -/
inductive Fate
    (p : Login.Provider σ)
    (i : String)
    (e : Entry (Manager σ) Call)
    (after : Option Session) : Prop where
  | opened
      (user : User)
      (hOpens : Opens p i user e)
      (hAfter :
        after =
          some
            ⟨i, user, e.now, e.before.deadline e.now⟩)
  | ended
      (hOpens : ∀ user, ¬Opens p i user e)
      (hEnds : Ends i e)
      (hAfter : after = none)
  | renewed
      (s : Session)
      (hOpens : ∀ user, ¬Opens p i user e)
      (hEnds : ¬Ends i e)
      (hRenews : Renews i e)
      (hBefore : e.before.sessions.get? i = some s)
      (hAfter :
        after =
          some (s.extendTo (e.before.deadline e.now)))
  | kept
      (hOpens : ∀ user, ¬Opens p i user e)
      (hEnds : ¬Ends i e)
      (hRenews : ¬Renews i e)
      (hAfter : after = e.before.sessions.get? i)

/- A session that is not stored is not overdue. -/
theorem not_overdue_of_none
    {m : Manager σ}
    {i : String}
    (now : Instant)
    (hFound : m.sessions.get? i = none) :
    ¬m.Overdue now i := by
  rintro ⟨s, hStored, _⟩
  rw [hFound] at hStored
  cases hStored

/- A session is not overdue while it is live. -/
theorem not_overdue_of_le
    {m : Manager σ}
    {now : Instant}
    {i : String}
    {s : Session}
    (hFound : m.sessions.get? i = some s)
    (hLive : now ≤ s.expiresAt) :
    ¬m.Overdue now i := by
  rintro ⟨s', hStored, hOver⟩
  rw [hFound] at hStored
  rw [← Option.some.inj hStored] at hOver
  exact (Instant.not_lt _ _).mpr hLive hOver

/- Only a login opens a session. -/
theorem not_opens
    (p : Login.Provider σ)
    (i : String)
    (e : Entry (Manager σ) Call)
    (hCall :
      ∀ draw code state, e.call ≠ .complete draw code state)
    (user : User) :
    ¬Opens p i user e := by
  rintro ⟨draw, code, state, d, hComplete, _⟩
  exact hCall draw code state hComplete

/- A login opens its session and keeps the others. -/
theorem fate_complete
    (p : Login.Provider σ)
    (m : Manager σ)
    (now : Instant)
    (draw : Vector UInt8 32)
    (code state : String)
    (i : String) :
    Fate p i ⟨m, now, .complete draw code state⟩
      ((m.next p
        ⟨now, .complete draw code state⟩).sessions.get?
          i) := by
  have hEnds :
      ¬Ends i (⟨m, now, .complete draw code state⟩ :
        Entry (Manager σ) Call) := by
    simp [Ends, Call.Examines]
  have hRenews :
      ¬Renews i (⟨m, now, .complete draw code state⟩ :
        Entry (Manager σ) Call) := by
    simp [Renews]
  dsimp only [next]
  rcases m.complete_cases p now (idOf draw) code state with
    ⟨user, hGrants, hReply, hSessions⟩ |
      ⟨⟨refusal, hReply⟩, hSessions⟩
  · rw [hSessions, Table.get?_insert]
    by_cases hId : idOf draw = i
    · rw [if_pos hId, hId]
      apply Fate.opened user _ rfl
      exact
        ⟨draw, code, state, _, rfl, hReply, hId, hGrants⟩
    · rw [if_neg hId]
      apply Fate.kept _ hEnds hRenews rfl
      rintro user' ⟨draw', _, _, d, hCall, hReply', hSame, _⟩
      cases hCall
      rw [hReply] at hReply'
      rw [← Except.ok.inj hReply'] at hSame
      exact hId hSame
  · rw [hSessions]
    apply Fate.kept _ hEnds hRenews rfl
    rintro user' ⟨draw', _, _, d, hCall, hReply', _⟩
    cases hCall
    rw [hReply] at hReply'
    cases hReply'

/- A validation ends a session that it finds expired. -/
theorem fate_validation
    (p : Login.Provider σ)
    (m : Manager σ)
    (now : Instant)
    (call : Call)
    (id i : String)
    (hOpens :
      ∀ draw code state, call ≠ .complete draw code state)
    (hLogout : call ≠ .logout i)
    (hRefresh : call ≠ .refresh i)
    (hExamines : call.Examines i ↔ id = i) :
    Fate p i ⟨m, now, call⟩
      ((m.validateId now id).2.sessions.get? i) := by
  have hNever := not_opens p i ⟨m, now, call⟩ hOpens
  have hRenews :
      ¬Renews i (⟨m, now, call⟩ :
        Entry (Manager σ) Call) :=
    fun hRenewed => hRefresh hRenewed.1
  have hEndsIff :
      Ends i (⟨m, now, call⟩ : Entry (Manager σ) Call) ↔
        id = i ∧ m.Overdue now i := by
    unfold Ends
    simp only [hLogout, false_or, hExamines]
  rcases m.validateId_cases now id with
    ⟨hFound, _, hSessions⟩ |
      ⟨s, hFound, hExpired, _, hSessions⟩ |
        ⟨s, hFound, hLive, _, hSessions⟩
  · rw [hSessions]
    apply Fate.kept hNever _ hRenews rfl
    rw [hEndsIff]
    rintro ⟨rfl, hOverdue⟩
    exact not_overdue_of_none now hFound hOverdue
  · rw [hSessions, Table.get?_erase]
    by_cases hId : id = i
    · subst hId
      rw [if_pos rfl]
      apply Fate.ended hNever _ rfl
      rw [hEndsIff]
      exact ⟨rfl, s, hFound, hExpired⟩
    · rw [if_neg hId]
      apply Fate.kept hNever _ hRenews rfl
      rw [hEndsIff]
      exact fun hEnded => hId hEnded.1
  · rw [hSessions]
    apply Fate.kept hNever _ hRenews rfl
    rw [hEndsIff]
    rintro ⟨rfl, hOverdue⟩
    exact not_overdue_of_le hFound hLive hOverdue

/- A refresh keeps the other sessions. -/
theorem get?_refresh_of_ne
    (m : Manager σ)
    (now : Instant)
    {id i : String}
    (hId : id ≠ i) :
    (m.refresh now id).2.sessions.get? i =
      m.sessions.get? i := by
  by_cases hEmpty : id = ""
  · subst hEmpty
    rfl
  · rcases m.refresh_cases now hEmpty with
      ⟨_, hReply⟩ | ⟨s, _, _, _, hSessions⟩ |
        ⟨s, _, _, _, hSessions⟩
    · rw [hReply]
    · rw [hSessions, Table.get?_erase, if_neg hId]
    · rw [hSessions, Table.get?_insert, if_neg hId]

/- A refresh of a named session ends or renews it. -/
theorem fate_refresh_self
    (p : Login.Provider σ)
    (m : Manager σ)
    (now : Instant)
    {id : String}
    (hId : id ≠ "") :
    Fate p id ⟨m, now, .refresh id⟩
      ((m.refresh now id).2.sessions.get? id) := by
  have hNever :=
    not_opens p id ⟨m, now, .refresh id⟩ (by simp)
  have hEndsIff :
      Ends id (⟨m, now, .refresh id⟩ :
          Entry (Manager σ) Call) ↔ m.Overdue now id := by
    simp [Ends, Call.Examines]
  rcases m.refresh_cases now hId with
    ⟨hFound, hReply⟩ |
      ⟨s, hFound, hExpired, _, hSessions⟩ |
        ⟨s, hFound, hLive, hReply, hSessions⟩
  · rw [hReply]
    apply Fate.kept hNever _ _ rfl
    · rw [hEndsIff]
      exact not_overdue_of_none now hFound
    · rintro ⟨_, d, hOk⟩
      rw [hReply] at hOk
      cases hOk
  · rw [hSessions, Table.get?_erase, if_pos rfl]
    apply Fate.ended hNever _ rfl
    rw [hEndsIff]
    exact ⟨s, hFound, hExpired⟩
  · rw [hSessions, Table.get?_insert, if_pos rfl]
    refine Fate.renewed s hNever ?_ ⟨rfl, hReply⟩ hFound rfl
    rw [hEndsIff]
    exact not_overdue_of_le hFound hLive

/- A refresh ends an expired session and renews a live one. -/
theorem fate_refresh
    (p : Login.Provider σ)
    (m : Manager σ)
    (now : Instant)
    (id i : String)
    (hUnnamed : m.sessions.get? "" = none) :
    Fate p i ⟨m, now, .refresh id⟩
      ((m.refresh now id).2.sessions.get? i) := by
  have hNever :=
    not_opens p i ⟨m, now, .refresh id⟩ (by simp)
  by_cases hId : id = i
  · subst hId
    by_cases hEmpty : id = ""
    · subst hEmpty
      apply Fate.kept hNever _ _ rfl
      · simpa [Ends, Call.Examines] using
          not_overdue_of_none now hUnnamed
      · rintro ⟨_, d, hOk⟩
        cases hOk
    · exact m.fate_refresh_self p now hEmpty
  · rw [m.get?_refresh_of_ne now hId]
    apply Fate.kept hNever _ _ rfl
    · simp [Ends, Call.Examines, hId]
    · simp [Renews, hId]

/- A logout ends the session that it names. -/
theorem fate_logout
    (p : Login.Provider σ)
    (m : Manager σ)
    (now : Instant)
    (id i : String)
    (hUnnamed : m.sessions.get? "" = none) :
    Fate p i ⟨m, now, .logout id⟩
      ((m.logout p id).2.sessions.get? i) := by
  have hNever :=
    not_opens p i ⟨m, now, .logout id⟩ (by simp)
  have hGone :
      (m.logout p id).2.sessions.get? i =
        if id = i then none else m.sessions.get? i := by
    by_cases hEmpty : id = ""
    · subst hEmpty
      rw [logout_empty]
      by_cases hId : "" = i
      · rw [if_pos hId, ← hId]
        exact hUnnamed
      · rw [if_neg hId]
    · exact m.sessions_logout p hEmpty i
  rw [hGone]
  by_cases hId : id = i
  · rw [if_pos hId]
    apply Fate.ended hNever _ rfl
    rw [hId]
    exact Or.inl rfl
  · rw [if_neg hId]
    apply Fate.kept hNever _ _ rfl
    · simp [Ends, Call.Examines, hId]
    · simp [Renews]

/- A sweep ends the sessions that are expired. -/
theorem fate_sweep
    (p : Login.Provider σ)
    (m : Manager σ)
    (now : Instant)
    (i : String) :
    Fate p i ⟨m, now, .sweep⟩
      ((m.sweep now).2.sessions.get? i) := by
  have hNever := not_opens p i ⟨m, now, .sweep⟩ (by simp)
  have hRenews :
      ¬Renews i (⟨m, now, .sweep⟩ :
        Entry (Manager σ) Call) := by
    simp [Renews]
  have hEndsIff :
      Ends i (⟨m, now, .sweep⟩ : Entry (Manager σ) Call) ↔
        m.Overdue now i := by
    simp [Ends, Call.Examines]
  rw [m.sessions_sweep]
  cases hFound : m.sessions.get? i with
  | none =>
      apply Fate.kept hNever _ hRenews hFound.symm
      rw [hEndsIff]
      exact not_overdue_of_none now hFound
  | some s =>
      by_cases hExpired : s.expiresAt < now
      · apply Fate.ended hNever
        · rw [hEndsIff]
          exact ⟨s, hFound, hExpired⟩
        · simp [Option.filter, isExpired, hExpired]
      · apply Fate.kept hNever _ hRenews
        · rw [hFound]
          simp [Option.filter, isExpired, hExpired]
        · rw [hEndsIff]
          exact
            not_overdue_of_le hFound
              ((Instant.not_lt _ _).mp hExpired)

/-
  Every call opens, ends, renews or keeps a session.  The
  empty id, which refreshes and logouts refuse, is never the
  id of a session.
-/
theorem fate
    (p : Login.Provider σ)
    (m : Manager σ)
    (event : Event Call)
    (i : String)
    (hUnnamed : m.sessions.get? "" = none) :
    Fate p i ⟨m, event.now, event.call⟩
      ((m.next p event).sessions.get? i) := by
  rcases event with ⟨now, call⟩
  cases call with
  | initiate address =>
      dsimp only [next]
      rw [sessions_initiate]
      apply Fate.kept _ _ _ rfl
      · exact not_opens p i _ (by simp)
      · simp [Ends, Call.Examines]
      · simp [Renews]
  | complete draw code state =>
      exact m.fate_complete p now draw code state i
  | validate hs query =>
      dsimp only [next, validate]
      cases hLocated : locate? hs query with
      | none =>
          apply Fate.kept _ _ _ rfl
          · exact not_opens p i _ (by simp)
          · simp [Ends, Call.Examines, hLocated]
          · simp [Renews]
      | some id =>
          apply m.fate_validation p now _ id i
          · simp
          · simp
          · simp
          · simp [Call.Examines, hLocated]
  | validateId id =>
      apply m.fate_validation p now _ id i
      · simp
      · simp
      · simp
      · simp [Call.Examines]
  | refresh id => exact m.fate_refresh p now id i hUnnamed
  | logout id => exact m.fate_logout p now id i hUnnamed
  | sweep => exact m.fate_sweep p now i

end Manager

end Session

end Gatehouse
