import Gatehouse.Share.Store
import Mathlib.Data.Finset.Card

/-
  The set of shares that a store represents.

  A store represents a set of shares when each of its two
  indexes tells of the same shares: the shares by their
  tokens, and the tokens by the sessions.  Every change of a
  store is a change of that set.

  Key definitions include:
    * `Share.Collection.put`
    * `Share.Collection.Held`
    * `Share.Store.Holds`
    * `Share.Store.Represents`
    * `Share.Store.without`
    * `Share.Store.including`

  Main results include:
    * `Share.Store.Represents.save`
    * `Share.Store.Represents.deleteToken`
    * `Share.Store.Represents.deleteSession`
    * `Share.Store.Represents.cleanup`
-/

namespace Gatehouse

namespace Share

------------------------------------------------------------
-- Sets of Shares
------------------------------------------------------------

namespace Collection

/-
  What a set becomes when a share is put into it: the shares
  with its token or of its session give way.
-/
def put
    (c : Finset Share)
    (x : Share) : Finset Share :=
  insert x
    (c.filter (fun y =>
      y.token ≠ x.token ∧ y.sessionId ≠ x.sessionId))

/- Does a live share of another creator hold the session? -/
def Held
    (c : Finset Share)
    (now : Instant)
    (x : Share) : Prop :=
  ∃ y ∈ c,
    y.sessionId = x.sessionId ∧
      y.createdBy ≠ x.createdBy ∧
        y.isExpired now = false

/- Who is in a set into which a share was put. -/
theorem mem_put_iff
    (c : Finset Share)
    (x y : Share) :
    y ∈ put c x ↔
      y = x ∨
        y ∈ c ∧ y.token ≠ x.token ∧
          y.sessionId ≠ x.sessionId := by
  unfold put
  rw [Finset.mem_insert, Finset.mem_filter]

end Collection

namespace Store

/- Does the store find a share, unchanged, by its token? -/
def Holds
    (s : Store)
    (x : Share) : Prop :=
  s.byToken.get? x.token = some x

/- The indexes of the store are those of a set of shares. -/
structure Represents
    (s : Store)
    (c : Finset Share) : Prop where
  token_iff :
    ∀ token x,
      s.byToken.get? token = some x ↔
        x ∈ c ∧ x.token = token
  session_iff :
    ∀ sessionId token,
      s.bySession.get? sessionId = some token ↔
        ∃ x ∈ c, x.sessionId = sessionId ∧ x.token = token

/- The store without shares represents the empty set. -/
theorem represents_empty :
    empty.Represents ∅ where
  token_iff := by simp [empty]
  session_iff := by simp [empty]

namespace Represents

variable {s : Store} {c c' : Finset Share}

------------------------------------------------------------
-- One Set
------------------------------------------------------------

/- The set has the shares that the store holds. -/
theorem mem_iff
    (h : s.Represents c)
    (x : Share) :
    x ∈ c ↔ s.Holds x := by
  unfold Holds
  rw [h.token_iff]
  simp

/- A store represents one set at most. -/
theorem unique
    (h : s.Represents c)
    (h' : s.Represents c') :
    c = c' := by
  ext x
  rw [h.mem_iff, h'.mem_iff]

/- Shares with the same token are the same. -/
theorem eq_of_token_eq
    (h : s.Represents c)
    {x y : Share}
    (hx : x ∈ c)
    (hy : y ∈ c)
    (hToken : x.token = y.token) :
    x = y := by
  have hFound : s.byToken.get? y.token = some x :=
    (h.token_iff y.token x).mpr ⟨hx, hToken⟩
  have hHeld : s.byToken.get? y.token = some y :=
    (h.mem_iff y).mp hy
  exact Option.some.inj (hFound.symm.trans hHeld)

/- Shares of the same session are the same. -/
theorem eq_of_session_eq
    (h : s.Represents c)
    {x y : Share}
    (hx : x ∈ c)
    (hy : y ∈ c)
    (hSession : x.sessionId = y.sessionId) :
    x = y := by
  have hOfX :
      s.bySession.get? y.sessionId = some x.token :=
    (h.session_iff _ _).mpr ⟨x, hx, hSession, rfl⟩
  have hOfY :
      s.bySession.get? y.sessionId = some y.token :=
    (h.session_iff _ _).mpr ⟨y, hy, rfl, rfl⟩
  exact
    h.eq_of_token_eq hx hy
      (Option.some.inj (hOfX.symm.trans hOfY))

------------------------------------------------------------
-- Lookups
------------------------------------------------------------

/- A token without share is the token of no member. -/
theorem token_eq_none_iff
    (h : s.Represents c)
    (token : String) :
    s.byToken.get? token = none ↔
      ∀ x ∈ c, x.token ≠ token := by
  rw [Option.eq_none_iff_forall_ne_some]
  constructor
  · intro hNone x hx hToken
    exact hNone x ((h.token_iff token x).mpr ⟨hx, hToken⟩)
  · intro hAbsent x hFound
    have hx := (h.token_iff token x).mp hFound
    exact hAbsent x hx.1 hx.2

/- A session without token is the session of no member. -/
theorem session_eq_none_iff
    (h : s.Represents c)
    (sessionId : String) :
    s.bySession.get? sessionId = none ↔
      ∀ x ∈ c, x.sessionId ≠ sessionId := by
  rw [Option.eq_none_iff_forall_ne_some]
  constructor
  · intro hNone x hx hSession
    exact
      hNone x.token
        ((h.session_iff _ _).mpr ⟨x, hx, hSession, rfl⟩)
  · intro hAbsent token hFound
    rcases (h.session_iff _ _).mp hFound with
      ⟨x, hx, hSession, _⟩
    exact hAbsent x hx hSession

/- The current share of a session is its member. -/
theorem current?_eq_some_iff
    (h : s.Represents c)
    (sessionId : String)
    (x : Share) :
    s.current? sessionId = some x ↔
      x ∈ c ∧ x.sessionId = sessionId := by
  unfold current?
  rw [Option.bind_eq_some_iff]
  constructor
  · rintro ⟨token, hOfSession, hOfToken⟩
    rcases (h.session_iff _ _).mp hOfSession with
      ⟨y, hy, hSession, hToken⟩
    rcases (h.token_iff _ _).mp hOfToken with ⟨hx, hSame⟩
    have hEq : x = y :=
      h.eq_of_token_eq hx hy (hSame.trans hToken.symm)
    rw [hEq]
    exact ⟨hy, hSession⟩
  · rintro ⟨hx, hSession⟩
    exact
      ⟨x.token,
        (h.session_iff _ _).mpr ⟨x, hx, hSession, rfl⟩,
        (h.mem_iff x).mp hx⟩

/- A session without current share is that of no member. -/
theorem current?_eq_none_iff
    (h : s.Represents c)
    (sessionId : String) :
    s.current? sessionId = none ↔
      ∀ x ∈ c, x.sessionId ≠ sessionId := by
  rw [Option.eq_none_iff_forall_ne_some]
  constructor
  · intro hNone x hx hSession
    exact
      hNone x
        ((h.current?_eq_some_iff _ _).mpr ⟨hx, hSession⟩)
  · intro hAbsent x hCurrent
    have hx := (h.current?_eq_some_iff _ _).mp hCurrent
    exact hAbsent x hx.1 hx.2

end Represents

------------------------------------------------------------
-- One Share Less, One Share More
------------------------------------------------------------

/- The store with one share less, in both indexes. -/
def without
    (s : Store)
    (x : Share) : Store :=
  ⟨s.byToken.erase x.token, s.bySession.erase x.sessionId⟩

/- The store with one share more, in both indexes. -/
def including
    (s : Store)
    (x : Share) : Store :=
  ⟨s.byToken.insert x.token x,
    s.bySession.insert x.sessionId x.token⟩

namespace Represents

variable {s : Store} {c : Finset Share}

/- One share less in the store is one less in the set. -/
theorem without
    (h : s.Represents c)
    {x : Share}
    (hx : x ∈ c) :
    (s.without x).Represents (c.erase x) where
  token_iff token y := by
    simp only [Store.without, Table.get?_erase]
    constructor
    · intro hFound
      by_cases hToken : x.token = token
      · simp [hToken] at hFound
      · rw [if_neg hToken, h.token_iff] at hFound
        refine ⟨Finset.mem_erase.mpr ⟨?_, hFound.1⟩,
          hFound.2⟩
        rintro rfl
        exact hToken hFound.2
    · rintro ⟨hErased, hToken⟩
      rcases Finset.mem_erase.mp hErased with ⟨hNe, hy⟩
      have hOther : x.token ≠ token := by
        intro hSame
        exact
          hNe
            (h.eq_of_token_eq hy hx
              (hToken.trans hSame.symm))
      rw [if_neg hOther, h.token_iff]
      exact ⟨hy, hToken⟩
  session_iff sessionId token := by
    simp only [Store.without, Table.get?_erase]
    constructor
    · intro hFound
      by_cases hSession : x.sessionId = sessionId
      · simp [hSession] at hFound
      · rw [if_neg hSession, h.session_iff] at hFound
        rcases hFound with ⟨y, hy, hOfY, hToken⟩
        refine ⟨y, Finset.mem_erase.mpr ⟨?_, hy⟩, hOfY,
          hToken⟩
        rintro rfl
        exact hSession hOfY
    · rintro ⟨y, hErased, hOfY, hToken⟩
      rcases Finset.mem_erase.mp hErased with ⟨hNe, hy⟩
      have hOther : x.sessionId ≠ sessionId := by
        intro hSame
        exact
          hNe
            (h.eq_of_session_eq hy hx
              (hOfY.trans hSame.symm))
      rw [if_neg hOther, h.session_iff]
      exact ⟨y, hy, hOfY, hToken⟩

/-
  One share more in the store is one more in the set, if
  its token and its session are free.
-/
theorem including
    (h : s.Represents c)
    {x : Share}
    (hToken : ∀ y ∈ c, y.token ≠ x.token)
    (hSession : ∀ y ∈ c, y.sessionId ≠ x.sessionId) :
    (s.including x).Represents (insert x c) where
  token_iff token y := by
    simp only [Store.including, Table.get?_insert]
    by_cases hSame : x.token = token
    · rw [if_pos hSame]
      constructor
      · intro hFound
        have hEq : x = y := Option.some.inj hFound
        rw [← hEq]
        exact ⟨Finset.mem_insert_self x c, hSame⟩
      · rintro ⟨hy, hOfY⟩
        rcases Finset.mem_insert.mp hy with rfl | hOld
        · rfl
        · exact
            absurd (hOfY.trans hSame.symm) (hToken y hOld)
    · rw [if_neg hSame, h.token_iff]
      constructor
      · rintro ⟨hy, hOfY⟩
        exact ⟨Finset.mem_insert_of_mem hy, hOfY⟩
      · rintro ⟨hy, hOfY⟩
        rcases Finset.mem_insert.mp hy with rfl | hOld
        · exact absurd hOfY hSame
        · exact ⟨hOld, hOfY⟩
  session_iff sessionId token := by
    simp only [Store.including, Table.get?_insert]
    by_cases hSame : x.sessionId = sessionId
    · rw [if_pos hSame]
      constructor
      · intro hFound
        exact
          ⟨x, Finset.mem_insert_self x c, hSame,
            Option.some.inj hFound⟩
      · rintro ⟨y, hy, hOfY, hFound⟩
        rcases Finset.mem_insert.mp hy with rfl | hOld
        · rw [hFound]
        · exact
            absurd (hOfY.trans hSame.symm) (hSession y hOld)
    · rw [if_neg hSame, h.session_iff]
      constructor
      · rintro ⟨y, hy, hOfY, hFound⟩
        exact
          ⟨y, Finset.mem_insert_of_mem hy, hOfY, hFound⟩
      · rintro ⟨y, hy, hOfY, hFound⟩
        rcases Finset.mem_insert.mp hy with rfl | hOld
        · exact absurd hOfY hSame
        · exact ⟨y, hOld, hOfY, hFound⟩

------------------------------------------------------------
-- Removal by Token and by Session
------------------------------------------------------------

/- Removing by the token of a member removes that member. -/
theorem deleteToken_eq_without
    (h : s.Represents c)
    {x : Share}
    (hx : x ∈ c) :
    s.deleteToken x.token = s.without x := by
  have hOfToken : s.byToken.get? x.token = some x :=
    (h.mem_iff x).mp hx
  have hOfSession :
      s.bySession.get? x.sessionId = some x.token :=
    (h.session_iff _ _).mpr ⟨x, hx, rfl, rfl⟩
  simp [Store.deleteToken, Store.without, hOfToken,
    hOfSession]

/- Removing by the session of a member does the same. -/
theorem deleteSession_eq_without
    (h : s.Represents c)
    {x : Share}
    (hx : x ∈ c) :
    s.deleteSession x.sessionId = s.without x := by
  have hOfSession :
      s.bySession.get? x.sessionId = some x.token :=
    (h.session_iff _ _).mpr ⟨x, hx, rfl, rfl⟩
  simp [Store.deleteSession, Store.without, hOfSession]

/-
  What is left of a set, if exactly one member has a mark
  that is filtered out.
-/
theorem filter_ne_eq_erase
    (mark : Share → String)
    {x : Share}
    (hOnly : ∀ y ∈ c, mark y = mark x → y = x) :
    c.filter (fun y => mark y ≠ mark x) = c.erase x := by
  ext y
  rw [Finset.mem_filter, Finset.mem_erase]
  constructor
  · rintro ⟨hy, hMark⟩
    refine ⟨?_, hy⟩
    rintro rfl
    exact hMark rfl
  · rintro ⟨hNe, hy⟩
    exact ⟨hy, fun hMark => hNe (hOnly y hy hMark)⟩

/- Removing a token keeps the shares with other tokens. -/
theorem deleteToken
    (h : s.Represents c)
    (token : String) :
    (s.deleteToken token).Represents
      (c.filter (fun y => y.token ≠ token)) := by
  by_cases hAbsent : ∀ y ∈ c, y.token ≠ token
  · have hNone := (h.token_eq_none_iff token).mpr hAbsent
    have hSame : s.deleteToken token = s := by
      simp [Store.deleteToken, hNone]
    rw [hSame, Finset.filter_true_of_mem hAbsent]
    exact h
  · push Not at hAbsent
    rcases hAbsent with ⟨x, hx, rfl⟩
    rw [h.deleteToken_eq_without hx,
      filter_ne_eq_erase Share.token
        (fun y hy => h.eq_of_token_eq hy hx)]
    exact h.without hx

/- Removing a session keeps the shares of other sessions. -/
theorem deleteSession
    (h : s.Represents c)
    (sessionId : String) :
    (s.deleteSession sessionId).Represents
      (c.filter (fun y => y.sessionId ≠ sessionId)) := by
  by_cases hAbsent : ∀ y ∈ c, y.sessionId ≠ sessionId
  · have hNone :=
      (h.session_eq_none_iff sessionId).mpr hAbsent
    have hSame : s.deleteSession sessionId = s := by
      simp [Store.deleteSession, hNone]
    rw [hSame, Finset.filter_true_of_mem hAbsent]
    exact h
  · push Not at hAbsent
    rcases hAbsent with ⟨x, hx, rfl⟩
    rw [h.deleteSession_eq_without hx,
      filter_ne_eq_erase Share.sessionId
        (fun y hy => h.eq_of_session_eq hy hx)]
    exact h.without hx

------------------------------------------------------------
-- Saves
------------------------------------------------------------

/-
  A saved share takes the place of the shares with its token
  and of the shares of its session.
-/
theorem save
    (h : s.Represents c)
    (x : Share) :
    (s.save x).Represents (Collection.put c x) := by
  have hFreed :=
    (h.deleteSession x.sessionId).deleteToken x.token
  rw [Finset.filter_filter] at hFreed
  have hSwap :
      c.filter (fun y =>
        y.sessionId ≠ x.sessionId ∧ y.token ≠ x.token) =
        c.filter (fun y =>
          y.token ≠ x.token ∧
            y.sessionId ≠ x.sessionId) := by
    simp only [and_comm]
  rw [hSwap] at hFreed
  apply hFreed.including
  · intro y hy
    exact (Finset.mem_filter.mp hy).2.1
  · intro y hy
    exact (Finset.mem_filter.mp hy).2.2

/- A session is held in the store as it is in the set. -/
theorem isHeldByOther_iff
    (h : s.Represents c)
    (now : Instant)
    (x : Share) :
    s.isHeldByOther now x = true ↔
      Collection.Held c now x := by
  unfold isHeldByOther Collection.Held
  cases hCurrent : s.current? x.sessionId with
  | none =>
      have hAbsent :=
        (h.current?_eq_none_iff x.sessionId).mp hCurrent
      constructor
      · intro hFalse
        exact absurd hFalse Bool.false_ne_true
      · rintro ⟨y, hy, hSession, _⟩
        exact absurd hSession (hAbsent y hy)
  | some held =>
      have hHeld :=
        (h.current?_eq_some_iff x.sessionId held).mp
          hCurrent
      simp only [ne_eq, Bool.and_eq_true, decide_eq_true_iff,
        Bool.not_eq_true']
      constructor
      · rintro ⟨hOther, hLive⟩
        exact ⟨held, hHeld.1, hHeld.2, hOther, hLive⟩
      · rintro ⟨y, hy, hSession, hOther, hLive⟩
        have hSame : y = held :=
          h.eq_of_session_eq hy hHeld.1
            (hSession.trans hHeld.2.symm)
        rw [← hSame]
        exact ⟨hOther, hLive⟩

/- A claim of a session that is free saves the share. -/
theorem claim_of_free
    (h : s.Represents c)
    {now : Instant}
    {x : Share}
    (hFree : ¬Collection.Held c now x) :
    s.claim now x = (.ok (), s.save x) := by
  unfold Store.claim
  rw [if_neg]
  rw [h.isHeldByOther_iff]
  exact hFree

/- A claim of a session that is held changes nothing. -/
theorem claim_of_held
    (h : s.Represents c)
    {now : Instant}
    {x : Share}
    (hHeld : Collection.Held c now x) :
    s.claim now x = (.error .notFound, s) := by
  unfold Store.claim
  rw [if_pos ((h.isHeldByOther_iff now x).mpr hHeld)]

------------------------------------------------------------
-- What Lookups Find
------------------------------------------------------------

/- What a lookup by token finds. -/
theorem findToken_cases
    (h : s.Represents c)
    (token : String) :
    ((∀ x ∈ c, x.token ≠ token) ∧
        s.findToken token = .error .notFound) ∨
      ∃ x ∈ c,
        x.token = token ∧ s.findToken token = .ok x := by
  unfold findToken
  cases hFound : s.byToken.get? token with
  | none =>
      exact
        Or.inl ⟨(h.token_eq_none_iff token).mp hFound, rfl⟩
  | some x =>
      rcases (h.token_iff token x).mp hFound with
        ⟨hx, hToken⟩
      exact Or.inr ⟨x, hx, hToken, rfl⟩

/- What a lookup of a live share finds and changes. -/
theorem findLive_cases
    (h : s.Represents c)
    (now : Instant)
    (token : String) :
    ((∀ x ∈ c, x.token ≠ token) ∧
        s.findLive now token = (.error .notFound, s)) ∨
      (∃ x ∈ c,
        x.token = token ∧ x.isExpired now = false ∧
          s.findLive now token = (.ok x, s)) ∨
      ∃ x ∈ c,
        x.token = token ∧ x.isExpired now = true ∧
          s.findLive now token =
            (.error .expired, s.without x) := by
  unfold findLive
  cases hFound : s.byToken.get? token with
  | none =>
      exact
        Or.inl ⟨(h.token_eq_none_iff token).mp hFound, rfl⟩
  | some x =>
      rcases (h.token_iff token x).mp hFound with
        ⟨hx, hToken⟩
      cases hExpired : x.isExpired now with
      | false =>
          refine Or.inr (Or.inl ⟨x, hx, hToken, hExpired, ?_⟩)
          simp [hExpired]
      | true =>
          refine Or.inr (Or.inr ⟨x, hx, hToken, hExpired, ?_⟩)
          rw [← hToken, h.deleteToken_eq_without hx]
          simp [hExpired]

------------------------------------------------------------
-- Cleanup
------------------------------------------------------------

/- Removing tokens one by one keeps the shares without them. -/
theorem foldl_deleteToken
    (tokens : List String) :
    ∀ {s : Store} {c : Finset Share},
      s.Represents c →
        (tokens.foldl Store.deleteToken s).Represents
          (c.filter (fun y => y.token ∉ tokens)) := by
  induction tokens with
  | nil =>
      intro s c h
      simpa using h
  | cons token tokens ih =>
      intro s c h
      have hRest := ih (h.deleteToken token)
      rw [Finset.filter_filter] at hRest
      simpa only [List.foldl_cons, List.mem_cons, not_or]
        using hRest

/- The tokens of the expired shares are those of members. -/
theorem mem_expiredTokens_iff
    (h : s.Represents c)
    (now : Instant)
    (token : String) :
    token ∈ s.expiredTokens now ↔
      ∃ x ∈ c, x.isExpired now = true ∧ x.token = token := by
  simp only [expiredTokens, List.mem_map, List.mem_filter,
    Table.mem_values_iff]
  constructor
  · rintro ⟨x, ⟨⟨key, hFound⟩, hExpired⟩, hToken⟩
    have hx := (h.token_iff key x).mp hFound
    exact ⟨x, hx.1, hExpired, hToken⟩
  · rintro ⟨x, hx, hExpired, hToken⟩
    exact
      ⟨x, ⟨⟨x.token, (h.mem_iff x).mp hx⟩, hExpired⟩,
        hToken⟩

/- The cleaned store has the shares that are not expired. -/
theorem cleanup
    (h : s.Represents c)
    (now : Instant) :
    (s.cleanup now).2.Represents
      (c.filter (fun y => y.isExpired now = false)) := by
  have hLive :
      c.filter (fun y => y.isExpired now = false) =
        c.filter (fun y =>
          y.token ∉ s.expiredTokens now) := by
    apply Finset.filter_congr
    intro y hy
    rw [h.mem_expiredTokens_iff, ← Bool.not_eq_true]
    apply not_congr
    constructor
    · intro hExpired
      exact ⟨y, hy, hExpired, rfl⟩
    · rintro ⟨x, hx, hExpired, hToken⟩
      have hSame : x = y := h.eq_of_token_eq hx hy hToken
      rw [← hSame]
      exact hExpired
  rw [hLive]
  exact foldl_deleteToken (s.expiredTokens now) h

/- The values of the first index are the members. -/
theorem nodup_values
    (h : s.Represents c) :
    s.byToken.values.Nodup := by
  have hKeys :
      s.byToken.entries.map Prod.fst =
        s.byToken.values.map Share.token := by
    unfold Table.values
    rw [List.map_map]
    apply List.map_congr_left
    intro e he
    have hFound : s.byToken.get? e.1 = some e.2 :=
      (s.byToken.get?_eq_some_iff e.1 e.2).mpr he
    exact ((h.token_iff _ _).mp hFound).2.symm
  have hDistinct := s.byToken.distinct
  rw [hKeys] at hDistinct
  exact hDistinct.of_map Share.token

/- As many shares are stored as the set has. -/
theorem toFinset_values
    (h : s.Represents c) :
    s.byToken.values.toFinset = c := by
  ext x
  rw [List.mem_toFinset, Table.mem_values_iff]
  constructor
  · rintro ⟨key, hFound⟩
    exact ((h.token_iff key x).mp hFound).1
  · intro hx
    exact ⟨x.token, (h.mem_iff x).mp hx⟩

/- A cleanup counts the expired shares of the set. -/
theorem cleanup_count
    (h : s.Represents c)
    (now : Instant) :
    (s.cleanup now).1 =
      (c.filter (fun y => y.isExpired now = true)).card := by
  have hCount :
      (s.byToken.values.filter
        (·.isExpired now)).toFinset =
        c.filter (fun y => y.isExpired now = true) := by
    rw [List.toFinset_filter, h.toFinset_values]
  rw [← hCount,
    List.toFinset_card_of_nodup (h.nodup_values.filter _)]
  simp [Store.cleanup, expiredTokens]

end Represents

end Store

end Share

end Gatehouse
