import Gatehouse.Session.Manager
import Mathlib.Data.List.Forall2

/-
  Managers that are alike.

  Two managers are alike when they hold the same sessions,
  but perhaps for different users, and have counted the
  same.  If their providers answer alike, then so do they,
  and they stay alike.  The details of a failure and the
  fate of a revoked token do not matter.

  Key definitions include:
    * `Table.Alike`
    * `Login.Reply.Alike`
    * `Refusal.SameOutcome`
    * `Session.Alike`
    * `Session.Manager.Alike`

  Main results include:
    * `Session.Manager.Alike.initiate`
    * `Session.Manager.Alike.complete`
    * `Session.Manager.Alike.logout`
    * `Session.Manager.Alike.refresh`
    * `Session.Manager.Alike.validate`
    * `Session.Manager.Alike.sweep`
-/

namespace Gatehouse

------------------------------------------------------------
-- Tables
------------------------------------------------------------

namespace Table

variable {κ α β : Type}
variable {R : α → β → Prop}

/- Do two entries have one key, and values in relation? -/
def AlikeEntries
    (R : α → β → Prop)
    (e : κ × α)
    (f : κ × β) : Prop :=
  e.1 = f.1 ∧ R e.2 f.2

/- Do two tables have the same keys, for values in relation? -/
def Alike
    (R : α → β → Prop)
    (t : Table κ α)
    (u : Table κ β) : Prop :=
  List.Forall₂ (AlikeEntries R) t.entries u.entries

namespace Alike

variable {t : Table κ α}
variable {u : Table κ β}

/- Tables that are alike are of one size. -/
theorem size
    (h : t.Alike R u) :
    t.size = u.size :=
  h.length_eq

/- What is kept by tests that agree is alike. -/
theorem retain
    (h : t.Alike R u)
    {p : κ → α → Bool}
    {q : κ → β → Bool}
    (hTests : ∀ k v w, R v w → p k v = q k w) :
    (t.retain p).Alike R (u.retain q) := by
  apply List.rel_filter _ h
  rintro e f ⟨hKey, hValue⟩
  dsimp only
  rw [hKey, hTests f.1 _ _ hValue]

variable [DecidableEq κ]

/- Entries that are alike are found under one key. -/
theorem find?_cases
    {es : List (κ × α)}
    {fs : List (κ × β)}
    (h : List.Forall₂ (AlikeEntries R) es fs)
    (k : κ) :
    es.find? (fun e => e.1 = k) = none ∧
        fs.find? (fun f => f.1 = k) = none ∨
      ∃ e f,
        es.find? (fun e => e.1 = k) = some e ∧
          fs.find? (fun f => f.1 = k) = some f ∧
            R e.2 f.2 := by
  induction h with
  | nil => exact Or.inl ⟨rfl, rfl⟩
  | @cons e f es fs hEntries _ ih =>
      rw [List.find?_cons, List.find?_cons, hEntries.1]
      by_cases hKey : f.1 = k
      · simp only [hKey, decide_true]
        exact Or.inr ⟨e, f, rfl, rfl, hEntries.2⟩
      · simpa only [hKey, decide_false] using ih

/- A key has values in relation in both tables, or in none. -/
theorem get?_cases
    (h : t.Alike R u)
    (k : κ) :
    t.get? k = none ∧ u.get? k = none ∨
      ∃ v w,
        t.get? k = some v ∧ u.get? k = some w ∧ R v w := by
  unfold Table.get?
  rcases find?_cases h k with
    ⟨hNone, hNone'⟩ | ⟨e, f, hFound, hFound', hValues⟩
  · rw [hNone, hNone']
    exact Or.inl ⟨rfl, rfl⟩
  · rw [hFound, hFound']
    exact Or.inr ⟨_, _, rfl, rfl, hValues⟩

/- Without one key, tables that are alike still are. -/
theorem erase
    (h : t.Alike R u)
    (k : κ) :
    (t.erase k).Alike R (u.erase k) :=
  h.retain (fun _ _ _ _ => rfl)

/- With one more pair in relation, they still are. -/
theorem insert
    (h : t.Alike R u)
    (k : κ)
    {v : α}
    {w : β}
    (hValues : R v w) :
    (t.insert k v).Alike R (u.insert k w) :=
  List.Forall₂.cons ⟨rfl, hValues⟩ (h.erase k)

end Alike

/- Tables are the same if related values are. -/
theorem Alike.eq
    {R : α → α → Prop}
    {t u : Table κ α}
    (h : t.Alike R u)
    (hR : ∀ v w, R v w → v = w) :
    t = u := by
  have hEntries : t.entries = u.entries := by
    rw [← List.forall₂_eq_eq_eq]
    apply h.imp
    intro e f hAlike
    exact Prod.ext hAlike.1 (hR _ _ hAlike.2)
  cases t
  cases u
  congr

end Table

------------------------------------------------------------
-- Replies and Outcomes
------------------------------------------------------------

section Outcomes

variable {α : Type}

/- Does a reply bring something? -/
def Login.Reply.isDone :
    Reply α → Bool
  | .done _ => true
  | _ => false

/- Do two replies bring things in relation, or nothing? -/
inductive Login.Reply.Alike
    (S : α → α → Prop) :
    Reply α → Reply α → Prop where
  | done {a b}
      (hGiven : S a b) :
      Alike S (.done a) (.done b)
  | undone {x y}
      (hLeft : x.isDone = false)
      (hRight : y.isDone = false) :
      Alike S x y

/- Do two refusals differ at most in what is concealed? -/
inductive Refusal.Alike :
    Refusal → Refusal → Prop where
  | same {e} :
      Alike e e
  | failed {d d'} :
      Alike (.failed d) (.failed d')

/- Do two outcomes look the same, up to a relation? -/
inductive Refusal.SameOutcome
    (S : α → α → Prop) :
    Except Refusal α → Except Refusal α → Prop where
  | ok {a b}
      (hGiven : S a b) :
      SameOutcome S (.ok a) (.ok b)
  | error {e e'}
      (hRefusals : e.Alike e') :
      SameOutcome S (.error e) (.error e')

end Outcomes

namespace Session

open Refusal (SameOutcome)

variable {R : User → User → Prop}

------------------------------------------------------------
-- Sessions
------------------------------------------------------------

/- Are two sessions the same but for their users? -/
structure Alike
    (R : User → User → Prop)
    (s t : Session) : Prop where
  id : s.id = t.id
  user : R s.user t.user
  createdAt : s.createdAt = t.createdAt
  expiresAt : s.expiresAt = t.expiresAt

namespace Alike

variable {s t : Session}

/- Sessions that are alike expire together. -/
theorem isExpired
    (h : s.Alike R t)
    (now : Instant) :
    s.isExpired now = t.isExpired now := by
  unfold Session.isExpired
  rw [h.expiresAt]

/- Sessions that are alike are extended alike. -/
theorem extendTo
    (h : s.Alike R t)
    (last : Instant) :
    (s.extendTo last).Alike R (t.extendTo last) where
  id := by simpa using h.id
  user := by simpa using h.user
  createdAt := by simpa using h.createdAt
  expiresAt := by
    unfold Session.extendTo
    rw [h.expiresAt]
    split
    · rfl
    · exact h.expiresAt

/- Sessions that are alike are the same for one user. -/
theorem eq
    (h : s.Alike Eq t) :
    s = t := by
  rcases s with ⟨id, user, createdAt, expiresAt⟩
  rcases t with ⟨id', user', createdAt', expiresAt'⟩
  rcases h with ⟨rfl, rfl, rfl, rfl⟩
  rfl

end Alike

/- Are two descriptors the same but for their users? -/
structure Descriptor.Alike
    (R : User → User → Prop)
    (d e : Descriptor) : Prop where
  sessionId : d.sessionId = e.sessionId
  expiresAt : d.expiresAt = e.expiresAt
  user : R d.user e.user

/- Sessions that are alike are described alike. -/
theorem Alike.descriptor
    {s t : Session}
    (h : s.Alike R t) :
    s.descriptor.Alike R t.descriptor :=
  ⟨h.id, h.expiresAt, h.user⟩

------------------------------------------------------------
-- Managers
------------------------------------------------------------

namespace Manager

variable {σ₁ σ₂ : Type}

/-
  Do two managers have the same terms, counts and sessions,
  but perhaps for different users?  Their providers do not
  matter.
-/
structure Alike
    (R : User → User → Prop)
    (m₁ : Manager σ₁)
    (m₂ : Manager σ₂) : Prop where
  terms : m₁.terms = m₂.terms
  sessions :
    m₁.sessions.Alike (Session.Alike R) m₂.sessions
  tally : m₁.tally = m₂.tally

/- New managers with the same terms are alike. -/
theorem alike_start
    (R : User → User → Prop)
    (terms : Terms)
    (provider₁ : σ₁)
    (provider₂ : σ₂) :
    (start terms provider₁).Alike R
      (start terms provider₂) :=
  ⟨rfl, List.Forall₂.nil, rfl⟩

namespace Alike

variable {m₁ : Manager σ₁}
variable {m₂ : Manager σ₂}

/- Managers that are alike have as many sessions. -/
theorem active
    (h : m₁.Alike R m₂) :
    m₁.active = m₂.active :=
  h.sessions.size

/- Managers that are alike set the same deadlines. -/
theorem deadline
    (h : m₁.Alike R m₂)
    (now : Instant) :
    m₁.deadline now = m₂.deadline now := by
  unfold Manager.deadline
  rw [h.terms]

/- Counting keeps managers alike if it counts the same. -/
theorem withTally
    (h : m₁.Alike R m₂)
    {tally₁ tally₂ : Tally}
    (hTally : tally₁ = tally₂) :
    { m₁ with tally := tally₁ }.Alike R
      { m₂ with tally := tally₂ } :=
  { h with tally := hTally }

/- Providers may do as they like. -/
theorem withProvider
    (h : m₁.Alike R m₂)
    (after₁ : σ₁)
    (after₂ : σ₂) :
    { m₁ with providerState := after₁ }.Alike R
      { m₂ with providerState := after₂ } :=
  { h with }

/- Noting how many sessions there are keeps them alike. -/
theorem noteActive
    (h : m₁.Alike R m₂) :
    m₁.noteActive.Alike R m₂.noteActive := by
  apply h.withTally
  rw [h.tally, h.active]

/- Storing sessions that are alike keeps them alike. -/
theorem store
    (h : m₁.Alike R m₂)
    {s t : Session}
    (hSessions : s.Alike R t) :
    (m₁.store s).Alike R (m₂.store t) := by
  refine { h with sessions := ?_ }
  unfold Manager.store
  rw [hSessions.id]
  exact h.sessions.insert t.id hSessions

/- Removing a session keeps them alike. -/
theorem remove
    (h : m₁.Alike R m₂)
    (id : String) :
    (m₁.remove id).Alike R (m₂.remove id) :=
  { h with sessions := h.sessions.erase id }

------------------------------------------------------------
-- Calls
------------------------------------------------------------

variable {p₁ : Login.Provider σ₁}
variable {p₂ : Login.Provider σ₂}

/- A login that was to start ends without anything. -/
theorem initiated_of_undone
    {σ : Type}
    (m : Manager σ)
    {x : Login.Reply Login.Ticket}
    (hUndone : x.isDone = false) :
    ∃ details,
      m.initiated x = (.error (.failed details), m) := by
  cases x with
  | done ticket => cases hUndone
  | failed f => exact ⟨_, rfl⟩
  | timedOut => exact ⟨_, rfl⟩

/- Replies that are alike start a login alike. -/
theorem initiated
    (h : m₁.Alike R m₂)
    {x y : Login.Reply Login.Ticket}
    (hReplies : x.Alike Eq y) :
    SameOutcome Eq (m₁.initiated x).1
        (m₂.initiated y).1 ∧
      (m₁.initiated x).2.Alike R (m₂.initiated y).2 := by
  cases hReplies with
  | done hTickets =>
      refine ⟨.ok hTickets, h.withTally ?_⟩
      rw [h.tally]
  | undone hLeft hRight =>
      rcases initiated_of_undone m₁ hLeft with
        ⟨details₁, hResult₁⟩
      rcases initiated_of_undone m₂ hRight with
        ⟨details₂, hResult₂⟩
      rw [hResult₁, hResult₂]
      exact ⟨.error .failed, h⟩

/- Starting a login goes alike if the providers say so. -/
theorem initiate
    (h : m₁.Alike R m₂)
    (address : String)
    (hReplies :
      m₁.terms.redirects.check address = .ok () →
        Login.Reply.Alike Eq
          ((p₁.authorize m₁.providerState address).1.within
            m₁.terms.patience)
          ((p₂.authorize m₂.providerState address).1.within
            m₂.terms.patience)) :
    SameOutcome Eq (m₁.initiate p₁ address).1
        (m₂.initiate p₂ address).1 ∧
      (m₁.initiate p₁ address).2.Alike R
        (m₂.initiate p₂ address).2 := by
  unfold Manager.initiate
  have hSame :
      m₂.terms.redirects.check address =
        m₁.terms.redirects.check address := by
    rw [h.terms]
  rw [hSame]
  cases hCheck : m₁.terms.redirects.check address with
  | error e => exact ⟨.error .same, h⟩
  | ok _ =>
      exact (h.withProvider _ _).initiated (hReplies hCheck)

/- A login that was to end is refused without a user. -/
theorem completed_of_undone
    {σ : Type}
    (m : Manager σ)
    (now : Instant)
    (id : String)
    {x : Login.Reply User}
    (hUndone : x.isDone = false) :
    m.completed now id x =
      (.error (.unauthorized "code exchange failed"),
        { m with tally.failed := m.tally.failed + 1 }) := by
  cases x with
  | done user => cases hUndone
  | failed f => rfl
  | timedOut => rfl

/- Opening sessions for users in relation goes alike. -/
theorem enroll
    (h : m₁.Alike R m₂)
    (now : Instant)
    (id : String)
    {u v : User}
    (hUsers : R u v) :
    (m₁.enroll now id u).1.Alike R (m₂.enroll now id v).1 ∧
      (m₁.enroll now id u).2.Alike R
        (m₂.enroll now id v).2 := by
  have hSessions :
      Session.Alike R ⟨id, u, now, m₁.deadline now⟩
        ⟨id, v, now, m₂.deadline now⟩ :=
    ⟨rfl, hUsers, rfl, h.deadline now⟩
  have hStored := (h.store hSessions).noteActive
  refine ⟨hSessions.descriptor, hStored.withTally ?_⟩
  rw [hStored.tally]

/- Replies that are alike finish a login alike. -/
theorem completed
    (h : m₁.Alike R m₂)
    (now : Instant)
    (id : String)
    {x y : Login.Reply User}
    (hReplies : x.Alike R y) :
    SameOutcome (Descriptor.Alike R)
        (m₁.completed now id x).1
        (m₂.completed now id y).1 ∧
      (m₁.completed now id x).2.Alike R
        (m₂.completed now id y).2 := by
  cases hReplies with
  | done hUsers =>
      rcases h.enroll now id hUsers with
        ⟨hDescriptors, hEnrolled⟩
      exact ⟨.ok hDescriptors, hEnrolled⟩
  | undone hLeft hRight =>
      rw [completed_of_undone m₁ now id hLeft,
        completed_of_undone m₂ now id hRight]
      refine ⟨.error .same, h.withTally ?_⟩
      rw [h.tally]

/- Finishing a login goes alike if the providers say so. -/
theorem complete
    (h : m₁.Alike R m₂)
    (now : Instant)
    (id : String)
    {code state : String}
    (hReplies :
      code ≠ "" → state ≠ "" →
        Login.Reply.Alike R
          ((p₁.exchange m₁.providerState code state).1.within
            m₁.terms.patience)
          ((p₂.exchange m₂.providerState code state).1.within
            m₂.terms.patience)) :
    SameOutcome (Descriptor.Alike R)
        (m₁.complete p₁ now id code state).1
        (m₂.complete p₂ now id code state).1 ∧
      (m₁.complete p₁ now id code state).2.Alike R
        (m₂.complete p₂ now id code state).2 := by
  unfold Manager.complete
  by_cases hMissing : (code.isEmpty || state.isEmpty) = true
  · rw [if_pos hMissing, if_pos hMissing]
    exact ⟨.error .same, h⟩
  · rw [if_neg hMissing, if_neg hMissing]
    simp only [Bool.or_eq_true, String.isEmpty_iff, not_or]
      at hMissing
    exact
      (h.withProvider _ _).completed now id
        (hReplies hMissing.1 hMissing.2)

/- What the providers make of a token does not matter. -/
theorem revokeToken
    (h : m₁.Alike R m₂)
    (token₁ token₂ : Secret) :
    (m₁.revokeToken p₁ token₁).Alike R
      (m₂.revokeToken p₂ token₂) := by
  unfold Manager.revokeToken
  split
  · split
    · exact h
    · exact { h with }
  · split
    · exact { h with }
    · exact h.withProvider _ _

variable (p₁ p₂) in
/- A logout goes alike. -/
theorem logout
    (h : m₁.Alike R m₂)
    (id : String) :
    SameOutcome Eq (m₁.logout p₁ id).1
        (m₂.logout p₂ id).1 ∧
      (m₁.logout p₁ id).2.Alike R
        (m₂.logout p₂ id).2 := by
  unfold Manager.logout
  split
  · exact ⟨.error .same, h⟩
  · rcases h.sessions.get?_cases id with
      ⟨hNone₁, hNone₂⟩ | ⟨s, t, hFound₁, hFound₂, _⟩
    · rw [hNone₁, hNone₂]
      exact ⟨.error .same, h⟩
    · rw [hFound₁, hFound₂]
      have hLeft := (h.remove id).noteActive
      refine ⟨.ok rfl, ?_⟩
      apply Alike.revokeToken
      apply hLeft.withTally
      rw [hLeft.tally]

/- A refresh goes alike. -/
theorem refresh
    (h : m₁.Alike R m₂)
    (now : Instant)
    (id : String) :
    SameOutcome (Descriptor.Alike R)
        (m₁.refresh now id).1 (m₂.refresh now id).1 ∧
      (m₁.refresh now id).2.Alike R
        (m₂.refresh now id).2 := by
  unfold Manager.refresh
  split
  · exact ⟨.error .same, h⟩
  · rcases h.sessions.get?_cases id with
      ⟨hNone₁, hNone₂⟩ | ⟨s, t, hFound₁, hFound₂, hSessions⟩
    · rw [hNone₁, hNone₂]
      exact ⟨.error .same, h⟩
    · rw [hFound₁, hFound₂]
      dsimp only
      rw [hSessions.isExpired now]
      split
      · exact ⟨.error .same, (h.remove id).noteActive⟩
      · have hExtended :
            (s.extendTo (m₁.deadline now)).Alike R
              (t.extendTo (m₂.deadline now)) := by
          rw [h.deadline now]
          exact hSessions.extendTo _
        refine ⟨.ok hExtended.descriptor, ?_⟩
        exact
          { h with
            sessions := h.sessions.insert id hExtended }

/- A validation of a session id goes alike. -/
theorem validateId
    (h : m₁.Alike R m₂)
    (now : Instant)
    (id : String) :
    SameOutcome R (m₁.validateId now id).1
        (m₂.validateId now id).1 ∧
      (m₁.validateId now id).2.Alike R
        (m₂.validateId now id).2 := by
  unfold Manager.validateId
  rcases h.sessions.get?_cases id with
    ⟨hNone₁, hNone₂⟩ | ⟨s, t, hFound₁, hFound₂, hSessions⟩
  · rw [hNone₁, hNone₂]
    refine ⟨.error .same, h.withTally ?_⟩
    rw [h.tally]
  · rw [hFound₁, hFound₂]
    dsimp only
    rw [hSessions.isExpired now]
    split
    · have hLeft := (h.remove id).noteActive
      refine ⟨.error .same, hLeft.withTally ?_⟩
      rw [hLeft.tally]
    · refine ⟨.ok hSessions.user, h.withTally ?_⟩
      rw [h.tally]

/- A validation goes alike. -/
theorem validate
    (h : m₁.Alike R m₂)
    (now : Instant)
    (hs : List Http.Header)
    (query : Option (List UInt8)) :
    SameOutcome R (m₁.validate now hs query).1
        (m₂.validate now hs query).1 ∧
      (m₁.validate now hs query).2.Alike R
        (m₂.validate now hs query).2 := by
  unfold Manager.validate
  cases locate? hs query with
  | none =>
      refine ⟨.error .same, h.withTally ?_⟩
      rw [h.tally]
  | some id => exact h.validateId now id

/- A sweep goes alike. -/
theorem sweep
    (h : m₁.Alike R m₂)
    (now : Instant) :
    (m₁.sweep now).2.Alike R (m₂.sweep now).2 := by
  have hLive :
      { m₁ with sessions := m₁.live now }.Alike R
        { m₂ with sessions := m₂.live now } := by
    refine { h with sessions := ?_ }
    apply h.sessions.retain
    intro _ s t hSessions
    rw [hSessions.isExpired now]
  unfold Manager.sweep
  dsimp only
  rw [h.active, hLive.active]
  split
  · exact hLive
  · have hNoted := hLive.noteActive
    apply hNoted.withTally
    rw [hNoted.tally]

end Alike

end Manager

end Session

end Gatehouse
