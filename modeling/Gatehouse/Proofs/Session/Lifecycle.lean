import Gatehouse.Proofs.Session.Calls
import Mathlib.Order.Bounds.Defs
import Mathlib.Data.Set.Insert

/-
  The life of a session, told by its history.

  A session is stored from the login that opened it until a
  logout, or until a call that looks at it finds that its
  end is over.  Its end is the latest of the ends that its
  login and its refreshes gave it.

  Key definitions include:
    * `Session.Manager.Deadlines`
    * `Session.Manager.Account`
    * `Session.Manager.ran`
    * `Session.Manager.history`
    * `Session.Manager.Fresh`

  Main results include:
    * `Session.Manager.ran_stored_iff`
    * `Session.Manager.ran_account`
    * `Session.Manager.ran_absent`
    * `Session.Manager.run_lifecycle`
-/

namespace Gatehouse

namespace Session

namespace Manager

open History (Event Entry Since run log)

variable {σ : Type}

------------------------------------------------------------
-- The Ends of a Session
------------------------------------------------------------

/- Does an entry give a session an end? -/
def GivesEnd
    (p : Login.Provider σ)
    (i : String)
    (e : Entry (Manager σ) Call) : Prop :=
  (∃ user, Opens p i user e) ∨ Renews i e

/-
  The ends that a session was given: by its login and by its
  refreshes.  An end is a lifetime later, at most the last
  date.
-/
def Deadlines
    (p : Login.Provider σ)
    (lifetime : Nat)
    (i : String)
    (entries : List (Entry (Manager σ) Call)) :
    Set Instant :=
  {d | ∃ f ∈ entries, GivesEnd p i f ∧
    d.nanos =
      min (f.now.nanos + lifetime) Instant.latest.nanos}

/- The ends of two histories are the ends of each. -/
theorem mem_deadlines_append
    {p : Login.Provider σ}
    {lifetime : Nat}
    {i : String}
    {first second : List (Entry (Manager σ) Call)}
    {d : Instant} :
    d ∈ Deadlines p lifetime i (first ++ second) ↔
      d ∈ Deadlines p lifetime i first ∨
        d ∈ Deadlines p lifetime i second := by
  simp only [Deadlines, Set.mem_ofPred_eq, List.mem_append,
    or_and_right, exists_or]

/- A history that gives no end has none. -/
theorem not_mem_deadlines
    {p : Login.Provider σ}
    {lifetime : Nat}
    {i : String}
    {entries : List (Entry (Manager σ) Call)}
    (hNone : ∀ f ∈ entries, ¬GivesEnd p i f)
    (d : Instant) :
    d ∉ Deadlines p lifetime i entries := by
  rintro ⟨f, hf, hGives, _⟩
  exact hNone f hf hGives

/- A call that gives no end adds none. -/
theorem deadlines_append_singleton
    {p : Login.Provider σ}
    (lifetime : Nat)
    {i : String}
    (entries : List (Entry (Manager σ) Call))
    {f : Entry (Manager σ) Call}
    (hNone : ¬GivesEnd p i f) :
    Deadlines p lifetime i (entries ++ [f]) =
      Deadlines p lifetime i entries := by
  ext d
  rw [mem_deadlines_append, or_iff_left]
  apply not_mem_deadlines
  intro g hg
  rw [List.mem_singleton.mp hg]
  exact hNone

/- What comes before the first end adds none. -/
theorem deadlines_append_of_none
    {p : Login.Provider σ}
    (lifetime : Nat)
    {i : String}
    {before : List (Entry (Manager σ) Call)}
    (entries : List (Entry (Manager σ) Call))
    (hNone : ∀ f ∈ before, ¬GivesEnd p i f) :
    Deadlines p lifetime i (before ++ entries) =
      Deadlines p lifetime i entries := by
  ext d
  rw [mem_deadlines_append, or_iff_right]
  exact not_mem_deadlines hNone d

/- A call that gives an end gives the one of its time. -/
theorem isGreatest_deadlines_singleton
    {p : Login.Provider σ}
    {lifetime : Nat}
    {i : String}
    {f : Entry (Manager σ) Call}
    {d : Instant}
    (hGives : GivesEnd p i f)
    (hDeadline :
      d.nanos =
        min (f.now.nanos + lifetime)
          Instant.latest.nanos) :
    IsGreatest (Deadlines p lifetime i [f]) d := by
  refine
    ⟨⟨f, List.mem_singleton_self f, hGives, hDeadline⟩, ?_⟩
  rintro d' ⟨g, hg, _, hDeadline'⟩
  rw [List.mem_singleton.mp hg, ← hDeadline] at hDeadline'
  rw [Instant.le_iff, hDeadline']

/- A refresh extends a session to the latest of its ends. -/
theorem isGreatest_deadlines_extendTo
    {p : Login.Provider σ}
    {lifetime : Nat}
    {i : String}
    {entries : List (Entry (Manager σ) Call)}
    {f : Entry (Manager σ) Call}
    {s : Session}
    {last : Instant}
    (hGreatest :
      IsGreatest (Deadlines p lifetime i entries)
        s.expiresAt)
    (hLast :
      IsGreatest (Deadlines p lifetime i [f]) last) :
    IsGreatest (Deadlines p lifetime i (entries ++ [f]))
      (s.extendTo last).expiresAt := by
  constructor
  · rw [mem_deadlines_append]
    unfold extendTo
    split
    · exact Or.inr hLast.1
    · exact Or.inl hGreatest.1
  · intro d hd
    rcases mem_deadlines_append.mp hd with hOld | hNew
    · exact
        Instant.le_trans (hGreatest.2 hOld)
          (s.le_extendTo last)
    · exact
        Instant.le_trans (hLast.2 hNew)
          (s.le_extendTo_last last)

------------------------------------------------------------
-- Accounts
------------------------------------------------------------

/-
  Does a history account for a stored session?  It tells the
  login that opened it, and that it did not end since.
-/
def Account
    (p : Login.Provider σ)
    (lifetime : Nat)
    (i : String)
    (entries : List (Entry (Manager σ) Call))
    (s : Session) : Prop :=
  ∃ before opening after,
    entries = before ++ opening :: after ∧
      Opens p i s.user opening ∧
        (∀ f ∈ after, ¬Ends i f) ∧
          s.id = i ∧ s.createdAt = opening.now ∧
            IsGreatest
              (Deadlines p lifetime i (opening :: after))
              s.expiresAt

/- A call that keeps a session leaves it accounted for. -/
theorem Account.kept
    {p : Login.Provider σ}
    {lifetime : Nat}
    {i : String}
    {entries : List (Entry (Manager σ) Call)}
    {s : Session}
    {f : Entry (Manager σ) Call}
    (h : Account p lifetime i entries s)
    (hEnds : ¬Ends i f)
    (hGives : ¬GivesEnd p i f) :
    Account p lifetime i (entries ++ [f]) s := by
  rcases h with
    ⟨before, opening, after, rfl, hOpens, hNoEnd, hId,
      hCreated, hGreatest⟩
  refine
    ⟨before, opening, after ++ [f], by simp, hOpens, ?_,
      hId, hCreated, ?_⟩
  · exact
      List.forall_mem_append.mpr
        ⟨hNoEnd, List.forall_mem_singleton.mpr hEnds⟩
  · rw [← List.cons_append,
      deadlines_append_singleton lifetime _ hGives]
    exact hGreatest

/- A refreshed session is accounted for. -/
theorem Account.renewed
    {p : Login.Provider σ}
    {lifetime : Nat}
    {i : String}
    {entries : List (Entry (Manager σ) Call)}
    {s : Session}
    {f : Entry (Manager σ) Call}
    {last : Instant}
    (h : Account p lifetime i entries s)
    (hEnds : ¬Ends i f)
    (hLast :
      IsGreatest (Deadlines p lifetime i [f]) last) :
    Account p lifetime i (entries ++ [f])
      (s.extendTo last) := by
  rcases h with
    ⟨before, opening, after, rfl, hOpens, hNoEnd, hId,
      hCreated, hGreatest⟩
  refine
    ⟨before, opening, after ++ [f], by simp, ?_, ?_, ?_,
      ?_, ?_⟩
  · rw [user_extendTo]
    exact hOpens
  · exact
      List.forall_mem_append.mpr
        ⟨hNoEnd, List.forall_mem_singleton.mpr hEnds⟩
  · rw [id_extendTo]
    exact hId
  · rw [createdAt_extendTo]
    exact hCreated
  · rw [← List.cons_append]
    exact isGreatest_deadlines_extendTo hGreatest hLast

/- A session that was just opened is accounted for. -/
theorem Account.opened
    {p : Login.Provider σ}
    {lifetime : Nat}
    {i : String}
    {user : User}
    (entries : List (Entry (Manager σ) Call))
    {f : Entry (Manager σ) Call}
    {last : Instant}
    (hOpens : Opens p i user f)
    (hLast :
      IsGreatest (Deadlines p lifetime i [f]) last) :
    Account p lifetime i (entries ++ [f])
      ⟨i, user, f.now, last⟩ :=
  ⟨entries, f, [], rfl, hOpens, by simp, rfl, rfl, hLast⟩

------------------------------------------------------------
-- Runs
------------------------------------------------------------

/- A manager after a run from an empty one. -/
def ran
    (p : Login.Provider σ)
    (terms : Terms)
    (provider : σ)
    (events : List (Event Call)) : Manager σ :=
  run (next p) (start terms provider) events

/- The history of a run from an empty manager. -/
def history
    (p : Login.Provider σ)
    (terms : Terms)
    (provider : σ)
    (events : List (Event Call)) :
    List (Entry (Manager σ) Call) :=
  log (next p) (start terms provider) events

variable (p : Login.Provider σ)
variable (terms : Terms)
variable (provider : σ)

/- The history of a run with one more event. -/
theorem history_append_singleton
    (events : List (Event Call))
    (event : Event Call) :
    history p terms provider (events ++ [event]) =
      history p terms provider events ++
        [⟨ran p terms provider events, event.now,
          event.call⟩] :=
  History.log_append_singleton _ _ _ _

/- A run with one more event goes on with its call. -/
theorem ran_append_singleton
    (events : List (Event Call))
    (event : Event Call) :
    ran p terms provider (events ++ [event]) =
      (ran p terms provider events).next p event :=
  History.run_append_singleton _ _ _ _

/- A manager keeps the terms that it started with. -/
theorem terms_ran
    (events : List (Event Call)) :
    (ran p terms provider events).terms = terms := by
  induction events using List.reverseRecOn with
  | nil => rfl
  | append_singleton events event ih =>
      unfold ran at ih ⊢
      rw [History.run_append_singleton, terms_next]
      exact ih

/- No session is stored under the empty id. -/
theorem get?_empty_ran
    (events : List (Event Call)) :
    (ran p terms provider events).sessions.get? "" =
      none := by
  induction events using List.reverseRecOn with
  | nil => rfl
  | append_singleton events event ih =>
      unfold ran at ih ⊢
      rw [History.run_append_singleton]
      cases fate p _ event "" ih with
      | opened user hOpens _ =>
          exact absurd rfl hOpens.ne_empty
      | ended _ _ hAfter => exact hAfter
      | renewed s _ _ _ hBefore _ =>
          rw [ih] at hBefore
          cases hBefore
      | kept _ _ _ hAfter => exact hAfter.trans ih

/- What the last event of a run makes of a session. -/
theorem fate_ran
    (events : List (Event Call))
    (event : Event Call)
    (i : String) :
    Fate p i
      ⟨ran p terms provider events, event.now, event.call⟩
      ((ran p terms provider
        (events ++ [event])).sessions.get? i) := by
  have hFate :=
    fate p (ran p terms provider events) event i
      (get?_empty_ran p terms provider events)
  unfold ran at hFate ⊢
  rw [History.run_append_singleton]
  exact hFate

/-
  A session is stored while it was opened and has not ended
  since.
-/
theorem ran_stored_iff
    (events : List (Event Call))
    (i : String) :
    (∃ s, (ran p terms provider events).sessions.get? i =
        some s) ↔
      Since (fun e => ∃ user, Opens p i user e) (Ends i)
        (history p terms provider events) := by
  induction events using List.reverseRecOn with
  | nil =>
      refine iff_of_false ?_ (History.not_since_nil _ _)
      rintro ⟨s, hStored⟩
      cases hStored
  | append_singleton events event ih =>
      rw [history_append_singleton,
        History.since_append_singleton, ← ih]
      cases fate_ran p terms provider events event i with
      | opened user hOpens hAfter =>
          exact
            iff_of_true ⟨_, hAfter⟩ (Or.inl ⟨user, hOpens⟩)
      | ended hOpens hEnds hAfter =>
          simp [hAfter, hOpens, hEnds]
      | renewed s hOpens hEnds _ hBefore hAfter =>
          simp [hAfter, hOpens, hEnds, hBefore]
      | kept hOpens hEnds _ hAfter =>
          simp [hAfter, hOpens, hEnds]

/- A history accounts for every session that is stored. -/
theorem ran_account
    (events : List (Event Call))
    (hDates :
      ∀ event ∈ events, Instant.earliest ≤ event.now)
    (i : String)
    (s : Session)
    (hStored :
      (ran p terms provider events).sessions.get? i =
        some s) :
    Account p terms.lifetime i
      (history p terms provider events) s := by
  induction events using List.reverseRecOn generalizing s with
  | nil => cases hStored
  | append_singleton events event ih =>
      have hParts := List.forall_mem_append.mp hDates
      have hBefore := ih hParts.1
      have hDeadline :
          ((ran p terms provider events).deadline
              event.now).nanos =
            min (event.now.nanos + terms.lifetime)
              Instant.latest.nanos := by
        unfold deadline
        rw [terms_ran]
        exact
          Instant.nanos_moveOrLatest _ _
            (hParts.2 event (List.mem_singleton_self event))
      rw [history_append_singleton]
      cases fate_ran p terms provider events event i with
      | opened user hOpens hAfter =>
          rw [hStored] at hAfter
          rw [Option.some.inj hAfter]
          refine Account.opened _ hOpens ?_
          exact
            isGreatest_deadlines_singleton
              (Or.inl ⟨user, hOpens⟩) hDeadline
      | ended _ _ hAfter =>
          rw [hStored] at hAfter
          cases hAfter
      | renewed s' hOpens hEnds hRenews hFound hAfter =>
          rw [hStored] at hAfter
          rw [Option.some.inj hAfter]
          refine Account.renewed (hBefore s' hFound) hEnds ?_
          exact
            isGreatest_deadlines_singleton
              (Or.inr hRenews) hDeadline
      | kept hOpens hEnds hRenews hAfter =>
          rw [hStored] at hAfter
          refine Account.kept (hBefore s hAfter.symm) hEnds ?_
          rintro (⟨user, hOpened⟩ | hRenewed)
          · exact hOpens user hOpened
          · exact hRenews hRenewed

------------------------------------------------------------
-- New Ids
------------------------------------------------------------

/- Does no login of a history give an id that was given? -/
def Fresh
    (entries : List (Entry (Manager σ) Call)) : Prop :=
  entries.Pairwise (fun e f =>
    ∀ i user user', Opens p i user e → ¬Opens p i user' f)

variable {p terms provider}

/- The id that an entry gives to a session that it opens. -/
def givenId?
    (p : Login.Provider σ)
    (e : Entry (Manager σ) Call) : Option String :=
  match e.call with
  | .complete draw code state =>
      (e.before.complete p e.now (idOf draw) code
        state).1.toOption.map Descriptor.sessionId
  | _ => none

/- Ids are new if none is given twice. -/
theorem fresh_of_nodup
    {entries : List (Entry (Manager σ) Call)}
    (h : (entries.filterMap (givenId? p)).Nodup) :
    Fresh p entries := by
  have hGiven :
      ∀ (e : Entry (Manager σ) Call) i user,
        Opens p i user e → givenId? p e = some i := by
    rintro e i user
      ⟨draw, code, state, d, hCall, hReply, hId, _⟩
    simp only [givenId?, hCall, hReply, Except.toOption,
      Option.map_some, hId]
  refine (List.pairwise_filterMap.mp h).imp ?_
  intro e f hApart i user user' hFirst hSecond
  exact
    hApart i (hGiven e i user hFirst) i
      (hGiven f i user' hSecond) rfl

/- What a run refreshed was opened before. -/
theorem opened_of_renews
    {events : List (Event Call)}
    {i : String}
    {f : Entry (Manager σ) Call}
    (hf : f ∈ history p terms provider events)
    (hRenews : Renews i f) :
    ∃ e ∈ history p terms provider events,
      ∃ user, Opens p i user e := by
  induction events using List.reverseRecOn with
  | nil => cases hf
  | append_singleton events event ih =>
      rw [history_append_singleton] at hf ⊢
      have hBefore :
          ∃ e ∈ history p terms provider events,
            ∃ user, Opens p i user e := by
        rcases List.mem_append.mp hf with hOld | hNew
        · exact ih hOld
        · rw [List.mem_singleton.mp hNew] at hRenews
          have hSince :=
            (ran_stored_iff p terms provider events i).mp
              hRenews.stored
          exact hSince.exists_mem
      rcases hBefore with ⟨e, he, hOpened⟩
      exact ⟨e, List.mem_append_left _ he, hOpened⟩

/- A session with a new id has no end before its login. -/
theorem not_givesEnd_of_fresh
    {events : List (Event Call)}
    {i : String}
    {user : User}
    {before after : List (Entry (Manager σ) Call)}
    {opening : Entry (Manager σ) Call}
    (hFresh : Fresh p (history p terms provider events))
    (hSplit :
      history p terms provider events =
        before ++ opening :: after)
    (hOpens : Opens p i user opening) :
    ∀ f ∈ before, ¬GivesEnd p i f := by
  have hNotOpened :
      ∀ e ∈ before, ∀ user', ¬Opens p i user' e := by
    intro e he user' hOpened
    rw [hSplit] at hFresh
    have hPairs := (List.pairwise_append.mp hFresh).2.2
    exact
      hPairs e he opening List.mem_cons_self i user' user
        hOpened hOpens
  have hPrefix :
      history p terms provider
          (events.take before.length) = before := by
    unfold history at hSplit ⊢
    rw [History.log_take, hSplit]
    exact List.take_left
  rintro f hf (⟨user', hOpened⟩ | hRenewed)
  · exact hNotOpened f hf user' hOpened
  · rw [← hPrefix] at hf
    rcases opened_of_renews hf hRenewed with
      ⟨e, he, user', hOpened⟩
    rw [hPrefix] at he
    exact hNotOpened e he user' hOpened

/-
  With new ids, a stored session is the one that the login
  of its id opened, and its end is the latest of all ends
  that its id was given.
-/
theorem ran_tells
    {events : List (Event Call)}
    (hDates :
      ∀ event ∈ events, Instant.earliest ≤ event.now)
    (hFresh : Fresh p (history p terms provider events))
    {i : String}
    {s : Session}
    (hStored :
      (ran p terms provider events).sessions.get? i =
        some s) :
    (s.id = i ∧
        ∃ opening ∈ history p terms provider events,
          Opens p i s.user opening ∧
            s.createdAt = opening.now) ∧
      IsGreatest
        (Deadlines p terms.lifetime i
          (history p terms provider events))
        s.expiresAt := by
  rcases ran_account p terms provider events hDates i s
      hStored with
    ⟨before, opening, after, hSplit, hOpens, _, hId,
      hCreated, hGreatest⟩
  refine ⟨⟨hId, opening, ?_, hOpens, hCreated⟩, ?_⟩
  · rw [hSplit]
    exact List.mem_append_right _ List.mem_cons_self
  · have hNone :=
      not_givesEnd_of_fresh hFresh hSplit hOpens
    rw [hSplit, deadlines_append_of_none _ _ hNone]
    exact hGreatest

/- With new ids, a login opens what is not stored. -/
theorem ran_unused
    {events : List (Event Call)}
    {event : Event Call}
    (hFresh :
      Fresh p
        (history p terms provider (events ++ [event])))
    {i : String}
    {user : User}
    (hOpens :
      Opens p i user
        ⟨ran p terms provider events, event.now,
          event.call⟩) :
    (ran p terms provider events).sessions.get? i =
      none := by
  cases hFound :
      (ran p terms provider events).sessions.get? i with
  | none => rfl
  | some s =>
      have hSince :=
        (ran_stored_iff p terms provider events i).mp
          ⟨s, hFound⟩
      rcases hSince.exists_mem with ⟨e, he, user', hOpened⟩
      rw [history_append_singleton] at hFresh
      have hNever :=
        (List.pairwise_append.mp hFresh).2.2 e he _
          (List.mem_singleton_self _) i user' user hOpened
      exact absurd hOpens hNever

/- With new ids, a session that went stays away. -/
theorem ran_absent
    {first second : List (Event Call)}
    (hFresh :
      Fresh p
        (history p terms provider (first ++ second)))
    {i : String}
    (hOpened :
      ∃ e ∈ history p terms provider first,
        ∃ user, Opens p i user e)
    (hAbsent :
      (ran p terms provider first).sessions.get? i = none) :
    (ran p terms provider
      (first ++ second)).sessions.get? i = none := by
  induction second using List.reverseRecOn with
  | nil =>
      rw [List.append_nil]
      exact hAbsent
  | append_singleton second event ih =>
      rw [← List.append_assoc] at hFresh ⊢
      rw [history_append_singleton] at hFresh
      have hPairs := List.pairwise_append.mp hFresh
      have hGone := ih hPairs.1
      cases fate_ran p terms provider (first ++ second)
          event i with
      | opened user hOpens _ =>
          rcases hOpened with ⟨e, he, user', hOpened⟩
          unfold history at he hPairs
          rw [History.log_append] at hPairs
          have hNever :=
            hPairs.2.2 e (List.mem_append_left _ he) _
              (List.mem_singleton_self _) i user' user
              hOpened
          exact absurd hOpens hNever
      | ended _ _ hAfter => exact hAfter
      | renewed s _ _ _ hBefore _ =>
          rw [hGone] at hBefore
          cases hBefore
      | kept _ _ _ hAfter => exact hAfter.trans hGone

/- With new ids, the end of a session never moves back. -/
theorem ran_expiresAt_le
    {first second : List (Event Call)}
    (hDates :
      ∀ event ∈ first ++ second,
        Instant.earliest ≤ event.now)
    (hFresh :
      Fresh p
        (history p terms provider (first ++ second)))
    {i : String}
    {s s' : Session}
    (hFirst :
      (ran p terms provider first).sessions.get? i = some s)
    (hSecond :
      (ran p terms provider
        (first ++ second)).sessions.get? i = some s') :
    s.expiresAt ≤ s'.expiresAt := by
  have hLast := (ran_tells hDates hFresh hSecond).2
  have hDatesFirst := (List.forall_mem_append.mp hDates).1
  unfold history at hLast hFresh
  rw [History.log_append] at hLast hFresh
  have hFreshFirst := (List.pairwise_append.mp hFresh).1
  have hEarlier := (ran_tells hDatesFirst hFreshFirst hFirst).2
  exact hLast.2 (mem_deadlines_append.mpr (Or.inl hEarlier.1))

/-
  The life of a session.  All times are dates, and each
  login gives a new id.  A session is stored while it was
  opened and has not ended since.  Its user and its start
  are those of its login, and its end is the latest that its
  login and its refreshes gave it; so the end never moves
  back.  It validates for its user while it is stored and
  not over.  Once it is gone, nothing finds it again.
-/
theorem run_lifecycle
    (p : Login.Provider σ)
    (terms : Terms)
    (provider : σ)
    (events : List (Event Call))
    (i : String)
    (hDates :
      ∀ event ∈ events, Instant.earliest ≤ event.now)
    (hFresh : Fresh p (history p terms provider events)) :
    let m := ran p terms provider events
    let entries := history p terms provider events
    ((∃ s, m.sessions.get? i = some s) ↔
        Since (fun e => ∃ user, Opens p i user e) (Ends i)
          entries) ∧
      (∀ s, m.sessions.get? i = some s →
        (s.id = i ∧
            ∃ opening ∈ entries,
              Opens p i s.user opening ∧
                s.createdAt = opening.now) ∧
          IsGreatest (Deadlines p terms.lifetime i entries)
            s.expiresAt) ∧
        (∀ now user,
          (m.validateId now i).1 = .ok user ↔
            ∃ s, m.sessions.get? i = some s ∧
              now ≤ s.expiresAt ∧ s.user = user) ∧
          ∀ first second, events = first ++ second →
            (∀ s s',
              (ran p terms provider first).sessions.get? i =
                  some s →
                m.sessions.get? i = some s' →
                  s.expiresAt ≤ s'.expiresAt) ∧
              ((∃ e ∈ history p terms provider first,
                  ∃ user, Opens p i user e) →
                (ran p terms provider
                    first).sessions.get? i = none →
                  m.sessions.get? i = none ∧
                    ∀ now,
                      (m.validateId now i).1 =
                          .error (.unauthorized
                            "session not found") ∧
                        (m.refresh now i).1 =
                            .error (.notFound
                              "session not found") ∧
                          (m.logout p i).1 =
                            .error (.notFound
                              "session not found")) := by
  intro m entries
  refine ⟨?_, ?_, ?_, ?_⟩
  · exact ran_stored_iff p terms provider events i
  · intro s hStored
    exact ran_tells hDates hFresh hStored
  · intro now user
    exact m.validateId_eq_ok_iff now i user
  · rintro first second rfl
    constructor
    · intro s s' hFirst hSecond
      exact ran_expiresAt_le hDates hFresh hFirst hSecond
    · intro hOpened hAbsent
      have hGone := ran_absent hFresh hOpened hAbsent
      rcases hOpened with ⟨e, _, user, hOpens⟩
      refine ⟨hGone, ?_⟩
      intro now
      exact replies_of_absent p hOpens.ne_empty hGone now

/- A provider that takes every code for the user it names. -/
def byCode : Login.Provider Unit where
  authorize := fun _ _ => (⟨0, .ok ⟨"", ""⟩⟩, ())
  exchange := fun _ code _ =>
    (⟨0, .ok ⟨code, code, code, .hide "", [], []⟩⟩, ())
  revoke := fun _ _ => (⟨0, .ok ()⟩, ())

/- Sessions that live for ten nanoseconds. -/
def briefTerms : Terms :=
  ⟨.localOnly, 10, 0⟩

/- The draw of one octet all over. -/
def drawOf
    (octet : UInt8) : Vector UInt8 32 :=
  Vector.replicate 32 octet

/- The session id that zeros give. -/
def zerosId : String :=
  idOf (Vector.replicate 32 0)

/-
  A login, a refresh in time, and a look at the session when
  it is over; then the clock steps back.
-/
def lapsedLogin : List (Event Call) :=
  [⟨⟨0⟩,
      .complete (Vector.replicate 32 0) "ann" "state"⟩,
   ⟨⟨3⟩, .refresh zerosId⟩,
   ⟨⟨14⟩, .validateId zerosId⟩,
   ⟨⟨9⟩, .validateId zerosId⟩]

/- A session that has lapsed is not found again. -/
theorem refresh_lapsedLogin :
    (∀ event ∈ lapsedLogin,
        Instant.earliest ≤ event.now) ∧
      Fresh byCode
          (history byCode briefTerms () lapsedLogin) ∧
        ((ran byCode briefTerms () lapsedLogin).refresh
            ⟨9⟩ zerosId).1 =
          .error (.notFound "session not found") := by
  have hDates :
      ∀ event ∈ lapsedLogin,
        Instant.earliest ≤ event.now := by
    decide
  have hFresh :
      Fresh byCode
        (history byCode briefTerms () lapsedLogin) := by
    simp [Fresh, history, lapsedLogin, log, Opens]
  have hOpened :
      ∃ e ∈ history byCode briefTerms ()
          (lapsedLogin.take 3),
        ∃ user, Opens byCode zerosId user e :=
    ⟨_, List.mem_cons_self, _, Vector.replicate 32 0,
      "ann", "state", _, rfl, rfl, rfl, rfl⟩
  have hAbsent :
      (ran byCode briefTerms ()
          (lapsedLogin.take 3)).sessions.get? zerosId =
        none := by
    decide
  have hLife :=
    run_lifecycle byCode briefTerms () lapsedLogin zerosId
      hDates hFresh
  have hGone :=
    (hLife.2.2.2 (lapsedLogin.take 3) (lapsedLogin.drop 3)
      rfl).2 hOpened hAbsent
  exact ⟨hDates, hFresh, (hGone.2 ⟨9⟩).2.1⟩

end Manager

end Session

end Gatehouse
