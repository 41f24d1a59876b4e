import Gatehouse.Proofs.Pairing
import Gatehouse.Proofs.Session.Lifecycle

/-
  Sweeps do not show.

  Only the live sessions of a manager decide what it says.
  An expired session is refused like one that is gone, and a
  sweep removes expired sessions alone.  So two runs that
  differ in their sweeps give the same sessions to the same
  callers.

  Key definitions include:
    * `Session.Manager.Call.isSweep`
    * `Session.Manager.SameLive`
    * `Session.Manager.Matches`
    * `Session.Manager.Agrees`

  Main results include:
    * `Session.Manager.sameLive_next`
    * `Session.Manager.agrees_of_sameLive`
    * `Session.Manager.runs_agree_despite_sweeps`
-/

namespace Gatehouse

namespace Session

namespace Manager

open History (Event Entry Ordered Simulation Until
  foreground)

variable {σ σ₁ σ₂ : Type}

------------------------------------------------------------
-- Live Sessions
------------------------------------------------------------

/- A session is live if it is stored and its end not over. -/
theorem get?_live
    (m : Manager σ)
    (now : Instant)
    (i : String) :
    (m.live now).get? i =
      (m.sessions.get? i).filter
        (fun s => !s.isExpired now) :=
  Table.get?_retain _ _ _

/- A session is live if it is stored and its end not over. -/
theorem get?_live_eq_some_iff
    (m : Manager σ)
    (now : Instant)
    (i : String)
    (s : Session) :
    (m.live now).get? i = some s ↔
      m.sessions.get? i = some s ∧ now ≤ s.expiresAt := by
  rw [get?_live, Option.filter_eq_some_iff]
  simp [isExpired]

/- What is not stored is not live. -/
theorem get?_live_of_absent
    {m : Manager σ}
    {i : String}
    (now : Instant)
    (hFound : m.sessions.get? i = none) :
    (m.live now).get? i = none := by
  rw [get?_live, hFound]
  rfl

/- What is expired is not live. -/
theorem get?_live_of_expired
    {m : Manager σ}
    {now : Instant}
    {i : String}
    {s : Session}
    (hFound : m.sessions.get? i = some s)
    (hExpired : s.expiresAt < now) :
    (m.live now).get? i = none := by
  rw [get?_live, hFound, Option.filter_eq_none_iff]
  simpa [isExpired, -Instant.not_lt] using hExpired

/- What is live later is what is live now and lasts. -/
theorem get?_live_of_le
    (m : Manager σ)
    {earlier now : Instant}
    (hOrder : earlier ≤ now)
    (i : String) :
    (m.live now).get? i =
      ((m.live earlier).get? i).filter
        (fun s => !s.isExpired now) := by
  apply Option.ext
  intro s
  rw [get?_live_eq_some_iff, Option.filter_eq_some_iff,
    get?_live_eq_some_iff]
  simp only [isExpired, Bool.not_eq_true',
    decide_eq_false_iff_not, Instant.not_lt]
  constructor
  · rintro ⟨hStored, hLive⟩
    have hEarlier := Instant.le_trans hOrder hLive
    exact ⟨⟨hStored, hEarlier⟩, hLive⟩
  · rintro ⟨⟨hStored, _⟩, hLive⟩
    exact ⟨hStored, hLive⟩

/- Removing an expired session leaves the live ones. -/
theorem get?_live_of_erase
    {m m' : Manager σ}
    {now : Instant}
    {id : String}
    {s : Session}
    (hFound : m.sessions.get? id = some s)
    (hExpired : s.expiresAt < now)
    (hErased : m'.sessions = m.sessions.erase id)
    (i : String) :
    (m'.live now).get? i = (m.live now).get? i := by
  by_cases hId : id = i
  · subst hId
    rw [get?_live_of_expired hFound hExpired]
    apply get?_live_of_absent
    rw [hErased, Table.get?_erase, if_pos rfl]
  · rw [get?_live, get?_live, hErased, Table.get?_erase,
      if_neg hId]

/- A sweep leaves the sessions that are live later. -/
theorem get?_live_sweep
    (m : Manager σ)
    {earlier now : Instant}
    (hOrder : earlier ≤ now)
    (i : String) :
    ((m.sweep earlier).2.live now).get? i =
      (m.live now).get? i := by
  rw [m.get?_live_of_le hOrder, get?_live, get?_live,
    m.sessions_sweep]

------------------------------------------------------------
-- Calls and Live Sessions
------------------------------------------------------------

/- A validation gives the user of the live session. -/
theorem validateId_of_live
    (m : Manager σ)
    (now : Instant)
    (id : String) :
    (∃ s, (m.live now).get? id = some s ∧
        (m.validateId now id).1 = .ok s.user) ∨
      (m.live now).get? id = none ∧
        ∃ why,
          (m.validateId now id).1 =
            .error (.unauthorized why) := by
  rcases m.validateId_cases now id with
    ⟨hFound, hReply, _⟩ |
      ⟨s, hFound, hExpired, hReply, _⟩ |
        ⟨s, hFound, hLive, hReply, _⟩
  · have hAbsent := get?_live_of_absent now hFound
    exact Or.inr ⟨hAbsent, _, hReply⟩
  · have hAbsent := get?_live_of_expired hFound hExpired
    exact Or.inr ⟨hAbsent, _, hReply⟩
  · have hStored :=
      (m.get?_live_eq_some_iff now id s).mpr ⟨hFound, hLive⟩
    exact Or.inl ⟨s, hStored, hReply⟩

/- A validation leaves the live sessions. -/
theorem get?_live_validateId
    (m : Manager σ)
    (now : Instant)
    (id i : String) :
    ((m.validateId now id).2.live now).get? i =
      (m.live now).get? i := by
  rcases m.validateId_cases now id with
    ⟨_, _, hSessions⟩ |
      ⟨s, hFound, hExpired, _, hSessions⟩ |
        ⟨s, _, _, _, hSessions⟩
  · rw [get?_live, get?_live, hSessions]
  · exact get?_live_of_erase hFound hExpired hSessions i
  · rw [get?_live, get?_live, hSessions]

/-
  A refresh moves the end of the live session with its id,
  or fails and leaves the live sessions.
-/
theorem refresh_of_live
    (m : Manager σ)
    (now : Instant)
    {id : String}
    (hId : id ≠ "") :
    (∃ s, (m.live now).get? id = some s ∧
        (m.refresh now id).1 =
            .ok (s.extendTo (m.deadline now)).descriptor ∧
          ∀ i, ((m.refresh now id).2.live now).get? i =
            if id = i then
              some (s.extendTo (m.deadline now))
            else
              (m.live now).get? i) ∨
      (m.live now).get? id = none ∧
        (∃ e, (m.refresh now id).1 = .error e) ∧
          ∀ i, ((m.refresh now id).2.live now).get? i =
            (m.live now).get? i := by
  rcases m.refresh_cases now hId with
    ⟨hFound, hReply⟩ |
      ⟨s, hFound, hExpired, hReply, hSessions⟩ |
        ⟨s, hFound, hLive, hReply, hSessions⟩
  · refine Or.inr ⟨get?_live_of_absent now hFound, ?_, ?_⟩
    · exact ⟨_, congrArg Prod.fst hReply⟩
    · intro i
      rw [hReply]
  · refine
      Or.inr
        ⟨get?_live_of_expired hFound hExpired, hReply, ?_⟩
    exact get?_live_of_erase hFound hExpired hSessions
  · refine Or.inl ⟨s, ?_, ?_, ?_⟩
    · rw [get?_live_eq_some_iff]
      exact ⟨hFound, hLive⟩
    · have hNotOver := (Instant.not_lt _ _).mpr hLive
      simp only [refresh, hFound, isExpired, hNotOver,
        decide_false, Bool.false_eq_true, if_false,
        String.isEmpty_iff, hId]
    · intro i
      rw [get?_live, get?_live, hSessions, Table.get?_insert]
      by_cases hSame : id = i
      · have hLasts :=
          Instant.le_trans hLive
            (s.le_extendTo (m.deadline now))
        simp [hSame, isExpired, Option.filter, hLasts]
      · rw [if_neg hSame, if_neg hSame]

/- A logout removes the live session that it names. -/
theorem get?_live_logout
    (p : Login.Provider σ)
    (m : Manager σ)
    (now : Instant)
    {id : String}
    (hId : id ≠ "")
    (i : String) :
    ((m.logout p id).2.live now).get? i =
      if id = i then none else (m.live now).get? i := by
  rw [get?_live, get?_live, m.sessions_logout p hId]
  by_cases hSame : id = i
  · rw [if_pos hSame, if_pos hSame]
    rfl
  · rw [if_neg hSame, if_neg hSame]

/- A logout of a session that is live succeeds. -/
theorem logout_of_live
    (p : Login.Provider σ)
    {m : Manager σ}
    {now : Instant}
    {id : String}
    {s : Session}
    (hId : id ≠ "")
    (hLive : (m.live now).get? id = some s) :
    (m.logout p id).1 = .ok () := by
  have hFound :=
    ((m.get?_live_eq_some_iff now id s).mp hLive).1
  simp [logout, hId, hFound]

------------------------------------------------------------
-- Two Managers
------------------------------------------------------------

/- Two managers with the same terms and live sessions. -/
structure SameLive
    (now : Instant)
    (m₁ : Manager σ₁)
    (m₂ : Manager σ₂) : Prop where
  terms : m₁.terms = m₂.terms
  live :
    ∀ i, (m₁.live now).get? i = (m₂.live now).get? i

/- The same user, or no session for the caller. -/
def SameUser
    (reply₁ reply₂ : Except Refusal User) : Prop :=
  (∃ user, reply₁ = .ok user ∧ reply₂ = .ok user) ∨
    ∃ why₁ why₂,
      reply₁ = .error (.unauthorized why₁) ∧
        reply₂ = .error (.unauthorized why₂)

/- The same descriptor, or a refusal. -/
def SameDescriptor
    (reply₁ reply₂ : Except Refusal Descriptor) : Prop :=
  (∃ d, reply₁ = .ok d ∧ reply₂ = .ok d) ∨
    ∃ e₁ e₂, reply₁ = .error e₁ ∧ reply₂ = .error e₂

section Agreement

variable {m₁ : Manager σ₁} {m₂ : Manager σ₂}
variable {now : Instant}

/- What is live now in both is live later in both. -/
theorem SameLive.later
    {earlier : Instant}
    (hOrder : earlier ≤ now)
    (h : SameLive earlier m₁ m₂) :
    SameLive now m₁ m₂ where
  terms := h.terms
  live i := by
    rw [m₁.get?_live_of_le hOrder,
      m₂.get?_live_of_le hOrder, h.live]

/- Likeness goes both ways. -/
theorem SameLive.symm
    (h : SameLive now m₁ m₂) :
    SameLive now m₂ m₁ where
  terms := h.terms.symm
  live i := (h.live i).symm

/- A sweep in one of two managers leaves them alike. -/
theorem SameLive.sweep_left
    (p : Login.Provider σ₁)
    {earlier : Instant}
    (hOrder : earlier ≤ now)
    (h : SameLive now m₁ m₂) :
    SameLive now (m₁.next p ⟨earlier, .sweep⟩) m₂ where
  terms := by
    rw [terms_next, h.terms]
  live i := by
    rw [← h.live i]
    exact m₁.get?_live_sweep hOrder i

/- A deadline is the same on the same terms. -/
theorem SameLive.deadline_eq
    (h : SameLive now m₁ m₂) :
    m₁.deadline now = m₂.deadline now := by
  unfold deadline
  rw [h.terms]

/- Managers that store the same session more stay alike. -/
theorem SameLive.store
    (h : SameLive now m₁ m₂)
    (s : Session) :
    SameLive now (m₁.store s) (m₂.store s) where
  terms := h.terms
  live i := by
    have hBefore := h.live i
    rw [get?_live, get?_live] at hBefore ⊢
    dsimp only [Manager.store]
    rw [Table.get?_insert, Table.get?_insert]
    by_cases hId : s.id = i
    · rw [if_pos hId, if_pos hId]
    · rw [if_neg hId, if_neg hId]
      exact hBefore

/- A session is opened alike in both. -/
theorem SameLive.enroll
    (h : SameLive now m₁ m₂)
    (id : String)
    (user : User) :
    (m₁.enroll now id user).1 = (m₂.enroll now id user).1 ∧
      SameLive now (m₁.enroll now id user).2
        (m₂.enroll now id user).2 := by
  unfold Manager.enroll
  rw [h.deadline_eq]
  have hStored :=
    h.store ⟨id, user, now, m₂.deadline now⟩
  exact ⟨rfl, hStored.terms, hStored.live⟩

/-
  A login ends alike in both, if the provider says the same
  whenever it is asked.
-/
theorem SameLive.complete
    {p₁ : Login.Provider σ₁}
    {p₂ : Login.Provider σ₂}
    {id code state : String}
    (h : SameLive now m₁ m₂)
    (hAnswer :
      code ≠ "" → state ≠ "" →
        (p₁.exchange m₁.providerState code state).1.within
            m₁.terms.patience =
          (p₂.exchange m₂.providerState code state).1.within
            m₂.terms.patience) :
    (m₁.complete p₁ now id code state).1 =
        (m₂.complete p₂ now id code state).1 ∧
      SameLive now (m₁.complete p₁ now id code state).2
        (m₂.complete p₂ now id code state).2 := by
  unfold Manager.complete
  by_cases hMissing : (code.isEmpty || state.isEmpty) = true
  · rw [if_pos hMissing, if_pos hMissing]
    exact ⟨rfl, h⟩
  · rw [if_neg hMissing, if_neg hMissing]
    simp only [Bool.or_eq_true, String.isEmpty_iff, not_or]
      at hMissing
    dsimp only
    rw [hAnswer hMissing.1 hMissing.2]
    cases (p₂.exchange m₂.providerState code state).1.within
        m₂.terms.patience with
    | done user =>
        have hAsked :
            SameLive now
              { m₁ with
                providerState :=
                  (p₁.exchange m₁.providerState code
                    state).2 }
              { m₂ with
                providerState :=
                  (p₂.exchange m₂.providerState code
                    state).2 } :=
          ⟨h.terms, h.live⟩
        have hEnrolled := hAsked.enroll id user
        exact
          ⟨congrArg Except.ok hEnrolled.1, hEnrolled.2⟩
    | failed f => exact ⟨rfl, h.terms, h.live⟩
    | timedOut => exact ⟨rfl, h.terms, h.live⟩

/- A validation gives the same user in both. -/
theorem SameLive.sameUser
    (h : SameLive now m₁ m₂)
    (id : String) :
    SameUser (m₁.validateId now id).1
      (m₂.validateId now id).1 := by
  have hSame := h.live id
  rcases m₁.validateId_of_live now id with
    ⟨s₁, hLive₁, hReply₁⟩ | ⟨hLive₁, why₁, hReply₁⟩ <;>
  rcases m₂.validateId_of_live now id with
    ⟨s₂, hLive₂, hReply₂⟩ | ⟨hLive₂, why₂, hReply₂⟩ <;>
  rw [hLive₁, hLive₂] at hSame
  · rw [Option.some.inj hSame] at hReply₁
    exact Or.inl ⟨s₂.user, hReply₁, hReply₂⟩
  · cases hSame
  · cases hSame
  · exact Or.inr ⟨why₁, why₂, hReply₁, hReply₂⟩

/- A validation leaves both alike. -/
theorem SameLive.validateId
    (h : SameLive now m₁ m₂)
    (id : String) :
    SameLive now (m₁.validateId now id).2
      (m₂.validateId now id).2 where
  terms := by
    rw [terms_validateId, terms_validateId, h.terms]
  live i := by
    rw [get?_live_validateId, get?_live_validateId, h.live]

/- A refresh gives the same descriptor in both. -/
theorem SameLive.refresh
    (h : SameLive now m₁ m₂)
    (id : String) :
    SameDescriptor (m₁.refresh now id).1
        (m₂.refresh now id).1 ∧
      ∀ i,
        ((m₁.refresh now id).2.live now).get? i =
          ((m₂.refresh now id).2.live now).get? i := by
  by_cases hId : id = ""
  · subst hId
    exact ⟨Or.inr ⟨_, _, rfl, rfl⟩, h.live⟩
  · have hSame := h.live id
    rcases m₁.refresh_of_live now hId with
      ⟨s₁, hLive₁, hReply₁, hAfter₁⟩ |
        ⟨hLive₁, ⟨e₁, hReply₁⟩, hAfter₁⟩ <;>
    rcases m₂.refresh_of_live now hId with
      ⟨s₂, hLive₂, hReply₂, hAfter₂⟩ |
        ⟨hLive₂, ⟨e₂, hReply₂⟩, hAfter₂⟩ <;>
    rw [hLive₁, hLive₂] at hSame
    · rw [Option.some.inj hSame, h.deadline_eq] at hReply₁
      refine ⟨Or.inl ⟨_, hReply₁, hReply₂⟩, ?_⟩
      intro i
      rw [hAfter₁, hAfter₂, Option.some.inj hSame,
        h.deadline_eq, h.live]
    · cases hSame
    · cases hSame
    · refine ⟨Or.inr ⟨e₁, e₂, hReply₁, hReply₂⟩, ?_⟩
      intro i
      rw [hAfter₁, hAfter₂, h.live]

/- A logout leaves the same live sessions in both. -/
theorem SameLive.live_logout
    (h : SameLive now m₁ m₂)
    (p₁ : Login.Provider σ₁)
    (p₂ : Login.Provider σ₂)
    (id i : String) :
    ((m₁.logout p₁ id).2.live now).get? i =
      ((m₂.logout p₂ id).2.live now).get? i := by
  by_cases hId : id = ""
  · subst hId
    exact h.live i
  · rw [m₁.get?_live_logout p₁ now hId,
      m₂.get?_live_logout p₂ now hId, h.live]

/- A logout of a session that is live in one is alike. -/
theorem SameLive.logout_eq
    (h : SameLive now m₁ m₂)
    (p₁ : Login.Provider σ₁)
    (p₂ : Login.Provider σ₂)
    {id : String}
    {s : Session}
    (hLive :
      (m₁.live now).get? id = some s ∨
        (m₂.live now).get? id = some s) :
    (m₁.logout p₁ id).1 = (m₂.logout p₂ id).1 := by
  have hBoth :
      (m₁.live now).get? id = some s ∧
        (m₂.live now).get? id = some s := by
    rw [h.live, or_self] at hLive
    rw [h.live]
    exact ⟨hLive, hLive⟩
  by_cases hId : id = ""
  · subst hId
    rfl
  · rw [logout_of_live p₁ hId hBoth.1,
      logout_of_live p₂ hId hBoth.2]

end Agreement

------------------------------------------------------------
-- Two Runs
------------------------------------------------------------

/- Is the call a sweep? -/
def Call.isSweep :
    Call → Bool
  | .sweep => true
  | _ => false

/-
  The same call at the same time.  If it ends a login and
  the provider is asked, the provider says the same.
-/
structure Matches
    (p₁ : Login.Provider σ₁)
    (p₂ : Login.Provider σ₂)
    (e₁ : Entry (Manager σ₁) Call)
    (e₂ : Entry (Manager σ₂) Call) : Prop where
  now : e₁.now = e₂.now
  call : e₁.call = e₂.call
  answer :
    ∀ draw code state,
      e₁.call = .complete draw code state →
        code ≠ "" → state ≠ "" →
          (p₁.exchange e₁.before.providerState code
              state).1.within e₁.before.terms.patience =
            (p₂.exchange e₂.before.providerState code
              state).1.within e₂.before.terms.patience

/-
  Do two managers say the same to a caller?  Logins have the
  same result, validations the same user, refreshes the same
  descriptor, and logouts of live sessions the same result.
-/
def Agrees
    (p₁ : Login.Provider σ₁)
    (p₂ : Login.Provider σ₂)
    (now : Instant)
    (m₁ : Manager σ₁)
    (m₂ : Manager σ₂) :
    Call → Prop
  | .complete draw code state =>
      (m₁.complete p₁ now (idOf draw) code state).1 =
        (m₂.complete p₂ now (idOf draw) code state).1
  | .validate hs query =>
      SameUser (m₁.validate now hs query).1
        (m₂.validate now hs query).1
  | .validateId id =>
      SameUser (m₁.validateId now id).1
        (m₂.validateId now id).1
  | .refresh id =>
      SameDescriptor (m₁.refresh now id).1
        (m₂.refresh now id).1
  | .logout id =>
      ∀ s, (m₁.live now).get? id = some s ∨
          (m₂.live now).get? id = some s →
        (m₁.logout p₁ id).1 = (m₂.logout p₂ id).1
  | .initiate _ => True
  | .sweep => True

section Runs

variable {p₁ : Login.Provider σ₁} {p₂ : Login.Provider σ₂}

/- Alike managers say the same to a caller. -/
theorem agrees_of_sameLive
    {e₁ : Entry (Manager σ₁) Call}
    {e₂ : Entry (Manager σ₂) Call}
    (hMatches : Matches p₁ p₂ e₁ e₂)
    (h : SameLive e₁.now e₁.before e₂.before) :
    Agrees p₁ p₂ e₁.now e₁.before e₂.before e₁.call := by
  cases hCall : e₁.call with
  | initiate address => trivial
  | complete draw code state =>
      exact
        (h.complete (hMatches.answer draw code state
          hCall)).1
  | validate hs query =>
      dsimp only [Agrees, validate]
      cases locate? hs query with
      | none => exact Or.inr ⟨_, _, rfl, rfl⟩
      | some id => exact h.sameUser id
  | validateId id => exact h.sameUser id
  | refresh id => exact (h.refresh id).1
  | logout id =>
      intro s hLive
      exact h.logout_eq p₁ p₂ hLive
  | sweep => trivial

/- Alike managers stay alike through the same call. -/
theorem sameLive_next
    {m₁ : Manager σ₁}
    {m₂ : Manager σ₂}
    {event₁ event₂ : Event Call}
    (hMatches :
      Matches p₁ p₂ ⟨m₁, event₁.now, event₁.call⟩
        ⟨m₂, event₂.now, event₂.call⟩)
    (h : SameLive event₁.now m₁ m₂) :
    SameLive event₁.now (m₁.next p₁ event₁)
      (m₂.next p₂ event₂) := by
  refine ⟨?_, ?_⟩
  · rw [terms_next, terms_next, h.terms]
  · intro i
    have hNow : event₁.now = event₂.now := hMatches.now
    have hCall : event₁.call = event₂.call := hMatches.call
    unfold next
    rw [← hNow, ← hCall]
    cases hKind : event₁.call with
    | initiate address =>
        dsimp only
        rw [get?_live, get?_live, sessions_initiate,
          sessions_initiate, ← get?_live, ← get?_live]
        exact h.live i
    | complete draw code state =>
        have hAnswer :=
          hMatches.answer draw code state hKind
        exact (h.complete hAnswer).2.live i
    | validate hs query =>
        dsimp only [validate]
        cases locate? hs query with
        | none => exact h.live i
        | some id => exact (h.validateId id).live i
    | validateId id => exact (h.validateId id).live i
    | refresh id => exact (h.refresh id).2 i
    | logout id => exact h.live_logout p₁ p₂ id i
    | sweep =>
        have hTime : event₁.now ≤ event₁.now :=
          Int.le_refl _
        dsimp only
        rw [m₁.get?_live_sweep hTime,
          m₂.get?_live_sweep hTime]
        exact h.live i

/- Sweeps in either run leave two managers alike. -/
theorem simulation :
    Simulation (next p₁) (next p₂) Call.isSweep
      (Matches p₁ p₂) SameLive where
  now_eq hMatches := hMatches.now
  later hOrder h := h.later hOrder
  left {now m₁ m₂ event} hSweep hTime h := by
    rcases event with ⟨time, call⟩
    cases call with
    | sweep => exact h.sweep_left p₁ hTime
    | _ => cases hSweep
  right {now m₁ m₂ event} hSweep hTime h := by
    rcases event with ⟨time, call⟩
    cases call with
    | sweep => exact (h.symm.sweep_left p₂ hTime).symm
    | _ => cases hSweep
  both hMatches h := sameLive_next hMatches h

end Runs

/-
  Sweeps do not show.  Two runs on the same terms, in which
  time never goes back, make the same calls at the same
  times apart from sweeps, and their providers give the same
  answers to the logins that end.  Then at every call the
  same sessions are live in both, and both say the same to
  the caller; and at the end the same sessions are live.
-/
theorem runs_agree_despite_sweeps
    (p₁ : Login.Provider σ₁)
    (p₂ : Login.Provider σ₂)
    (terms : Terms)
    (provider₁ : σ₁)
    (provider₂ : σ₂)
    (events₁ events₂ : List (Event Call))
    (hOrder₁ : Ordered events₁)
    (hOrder₂ : Ordered events₂)
    (hMatches :
      List.Forall₂ (Matches p₁ p₂)
        (foreground Call.isSweep
          (history p₁ terms provider₁ events₁))
        (foreground Call.isSweep
          (history p₂ terms provider₂ events₂))) :
    List.Forall₂
        (fun e₁ e₂ =>
          SameLive e₁.now e₁.before e₂.before ∧
            Agrees p₁ p₂ e₁.now e₁.before e₂.before e₁.call)
        (foreground Call.isSweep
          (history p₁ terms provider₁ events₁))
        (foreground Call.isSweep
          (history p₂ terms provider₂ events₂)) ∧
      ∀ now, Until now events₁ → Until now events₂ →
        ∀ i s,
          ((ran p₁ terms provider₁ events₁).sessions.get?
                i = some s ∧ now ≤ s.expiresAt) ↔
            (ran p₂ terms provider₂ events₂).sessions.get?
                i = some s ∧ now ≤ s.expiresAt := by
  have hStart :
      ∀ now, SameLive now (start terms provider₁)
        (start terms provider₂) :=
    fun now => ⟨rfl, fun i => rfl⟩
  have hPaired :=
    simulation.paired hStart hOrder₁ hOrder₂ hMatches
  refine ⟨?_, ?_⟩
  · apply hPaired.atCalls.imp
    rintro e₁ e₂ ⟨hSame, hLive⟩
    exact ⟨hLive, agrees_of_sameLive hSame hLive⟩
  · intro now hUntil₁ hUntil₂ i s
    have hEnd := hPaired.atEnd now hUntil₁ hUntil₂
    rw [← get?_live_eq_some_iff, ← get?_live_eq_some_iff]
    rw [show
      ((ran p₁ terms provider₁ events₁).live now).get? i =
        ((ran p₂ terms provider₂ events₂).live now).get? i
      from hEnd.live i]

/- A login, a refresh in time, and a look when it is over. -/
def unswept : List (Event Call) :=
  [⟨⟨0⟩,
      .complete (Vector.replicate 32 0) "ann" "state"⟩,
   ⟨⟨3⟩, .refresh zerosId⟩,
   ⟨⟨14⟩, .validateId zerosId⟩]

/- The same calls, with sweeps before the last two. -/
def swept : List (Event Call) :=
  [⟨⟨0⟩,
      .complete (Vector.replicate 32 0) "ann" "state"⟩,
   ⟨⟨1⟩, .sweep⟩,
   ⟨⟨3⟩, .refresh zerosId⟩,
   ⟨⟨14⟩, .sweep⟩,
   ⟨⟨14⟩, .validateId zerosId⟩]

/-
  The look finds an expired session in one run and none in
  the other; the caller is refused in both.
-/
theorem agrees_swept :
    Ordered unswept ∧ Ordered swept ∧
      List.Forall₂ (Matches byCode byCode)
          (foreground Call.isSweep
            (history byCode briefTerms () unswept))
          (foreground Call.isSweep
            (history byCode briefTerms () swept)) ∧
        SameUser
          ((ran byCode briefTerms ()
            (unswept.take 2)).validateId ⟨14⟩ zerosId).1
          ((ran byCode briefTerms ()
            (swept.take 4)).validateId ⟨14⟩ zerosId).1 := by
  have hOrder₁ : Ordered unswept := by
    simp only [Ordered, unswept]
    decide
  have hOrder₂ : Ordered swept := by
    simp only [Ordered, swept]
    decide
  have hMatches :
      List.Forall₂ (Matches byCode byCode)
        (foreground Call.isSweep
          (history byCode briefTerms () unswept))
        (foreground Call.isSweep
          (history byCode briefTerms () swept)) := by
    refine .cons ?_ (.cons ?_ (.cons ?_ .nil)) <;>
      exact ⟨rfl, rfl, fun _ _ _ _ _ _ => rfl⟩
  have hAgree :=
    (runs_agree_despite_sweeps byCode byCode briefTerms ()
      () unswept swept hOrder₁ hOrder₂ hMatches).1
  refine ⟨hOrder₁, hOrder₂, hMatches, ?_⟩
  rcases hAgree with _ | ⟨_, _ | ⟨_, _ | ⟨hLast, _⟩⟩⟩
  exact hLast.2

end Manager

end Session

end Gatehouse
