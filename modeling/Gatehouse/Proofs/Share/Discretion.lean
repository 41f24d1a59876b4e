import Gatehouse.Proofs.Share.Issuance

/-
  What a registry keeps to itself.

  Two registries are the same for a user if they hold the
  same shares of that user, whatever else they hold.  To
  revoke tokens gives the user the same answers in both,
  keeps them the same for the user, and leaves the shares of
  others alone.  Two stores that differ in the creators of
  their shares only find the same shares at the same times,
  and go on to differ in the creators only.

  Key definitions include:
    * `Share.SameButCreator`
    * `Share.Store.Consistent`
    * `Share.Store.AgreeOn`
    * `Share.Store.SameButCreators`
    * `Share.Registry.SameFor`
    * `Share.Registry.revokeAll`

  Main results include:
    * `Share.Registry.holds_revoke_iff`
    * `Share.Registry.SameFor.revokeAll`
    * `Share.Registry.others_revokeAll`
    * `Share.Store.SameButCreators.findLive`
-/

namespace Gatehouse

namespace Share

------------------------------------------------------------
-- Shares in Common
------------------------------------------------------------

namespace Store

/- Do the indexes of the store tell of the same shares? -/
def Consistent
    (s : Store) : Prop :=
  ∃ c, s.Represents c

/- Do two stores hold the same shares of a kind? -/
def AgreeOn
    (s₁ s₂ : Store)
    (kind : Share → Prop) : Prop :=
  ∀ x, kind x → (s₁.Holds x ↔ s₂.Holds x)

variable {s s₁ s₂ s₃ : Store}
variable {kind : Share → Prop}

/- A store agrees with itself. -/
theorem AgreeOn.refl
    (s : Store)
    (kind : Share → Prop) :
    s.AgreeOn s kind :=
  fun _ _ => Iff.rfl

/- What agrees with the same store agrees. -/
theorem AgreeOn.trans
    (h : s₁.AgreeOn s₂ kind)
    (h' : s₂.AgreeOn s₃ kind) :
    s₁.AgreeOn s₃ kind :=
  fun x hx => (h x hx).trans (h' x hx)

end Store

------------------------------------------------------------
-- Revocations
------------------------------------------------------------

namespace Registry

/- Revoke tokens, one after another, on behalf of a user. -/
def revokeAll
    (r : Registry)
    (requester : String) :
    List String → List (Except Fault Unit) × Registry
  | [] => ([], r)
  | token :: tokens =>
      let (result, r') := r.revoke token requester
      let (results, r'') := r'.revokeAll requester tokens
      (result :: results, r'')

/-
  Are two registries consistent, with the same shares of a
  user?
-/
structure SameFor
    (user : String)
    (r₁ r₂ : Registry) : Prop where
  left : r₁.store.Consistent
  right : r₂.store.Consistent
  own : r₁.store.AgreeOn r₂.store (·.createdBy = user)

section OneRegistry

variable {r : Registry} {c : Finset Share}

/- Who owns no share with a token cannot revoke it. -/
theorem revoke_of_not_own
    (h : r.store.Consistent)
    {token requester : String}
    (hOthers :
      ∀ x, r.store.Holds x → x.token = token →
        x.createdBy ≠ requester) :
    r.revoke token requester = (.error .notFound, r) := by
  rcases h with ⟨c, h⟩
  rcases revoke_cases h token requester with
    ⟨x, hx, hToken, hOwn, _⟩ | ⟨_, hRevoked⟩
  · rw [h.mem_iff] at hx
    exact absurd hOwn (hOthers x hx hToken)
  · exact hRevoked

/- Who owns a share with a token can revoke it. -/
theorem revoke_of_own
    (h : r.store.Consistent)
    {x : Share}
    (hHolds : r.store.Holds x) :
    (r.revoke x.token x.createdBy).1 = .ok () := by
  rcases h with ⟨c, h⟩
  rw [← h.mem_iff] at hHolds
  rcases revoke_cases h x.token x.createdBy with
    ⟨_, _, _, _, hRevoked⟩ | ⟨hOthers, _⟩
  · rw [hRevoked]
  · exact absurd rfl (hOthers x hHolds rfl)

/- The indexes still agree after a revocation. -/
theorem consistent_revoke
    (h : r.store.Consistent)
    (token requester : String) :
    (r.revoke token requester).2.store.Consistent := by
  rcases h with ⟨c, h⟩
  rcases revoke_cases h token requester with
    ⟨x, hx, _, _, hRevoked⟩ | ⟨_, hRevoked⟩
  · rw [hRevoked]
    exact ⟨c.erase x, h.without hx⟩
  · rw [hRevoked]
    exact ⟨c, h⟩

/- What is held after a revocation. -/
theorem holds_revoke_iff
    (h : r.store.Consistent)
    (token requester : String)
    (x : Share) :
    (r.revoke token requester).2.store.Holds x ↔
      r.store.Holds x ∧
        ¬(x.token = token ∧ x.createdBy = requester) := by
  rcases h with ⟨c, h⟩
  rcases revoke_cases h token requester with
    ⟨y, hy, hToken, hOwn, hRevoked⟩ | ⟨hOthers, hRevoked⟩
  · rw [hRevoked, ← (h.without hy).mem_iff, ← h.mem_iff,
      Finset.mem_erase, and_comm]
    apply and_congr_right
    intro hx
    apply not_congr
    constructor
    · rintro rfl
      exact ⟨hToken, hOwn⟩
    · rintro ⟨hSame, _⟩
      exact h.eq_of_token_eq hx hy (hSame.trans hToken.symm)
  · rw [hRevoked, ← h.mem_iff, iff_self_and]
    rintro hx ⟨hToken, hOwn⟩
    exact hOthers x hx hToken hOwn

/- A revocation leaves the shares of others alone. -/
theorem others_revoke
    (h : r.store.Consistent)
    (token requester : String) :
    (r.revoke token requester).2.store.AgreeOn r.store
      (·.createdBy ≠ requester) := by
  intro x hOther
  rw [holds_revoke_iff h, and_iff_left]
  exact fun hOwn => hOther hOwn.2

/- All revocations leave the shares of others alone. -/
theorem others_revokeAll
    (requester : String)
    (tokens : List String) :
    ∀ {r : Registry},
      r.store.Consistent →
        (r.revokeAll requester tokens).2.store.AgreeOn
          r.store (·.createdBy ≠ requester) := by
  induction tokens with
  | nil => exact fun _ => Store.AgreeOn.refl _ _
  | cons token tokens ih =>
      intro r h
      have hFirst := others_revoke h token requester
      have hRest := ih (consistent_revoke h token requester)
      exact hRest.trans hFirst

end OneRegistry

namespace SameFor

variable {user : String}
variable {r₁ r₂ : Registry}

/- To revoke a token has the same result in both. -/
theorem revoke_result
    (h : SameFor user r₁ r₂)
    (token : String) :
    (r₁.revoke token user).1 = (r₂.revoke token user).1 := by
  by_cases hOwn :
      ∃ x, r₁.store.Holds x ∧ x.token = token ∧
        x.createdBy = user
  · rcases hOwn with ⟨x, hHolds, rfl, rfl⟩
    have hHolds₂ := (h.own x rfl).mp hHolds
    rw [revoke_of_own h.left hHolds,
      revoke_of_own h.right hHolds₂]
  · push Not at hOwn
    have hOwn₂ :
        ∀ x, r₂.store.Holds x → x.token = token →
          x.createdBy ≠ user := by
      intro x hHolds hToken hUser
      have hHolds₁ := (h.own x hUser).mpr hHolds
      exact hOwn x hHolds₁ hToken hUser
    rw [revoke_of_not_own h.left hOwn,
      revoke_of_not_own h.right hOwn₂]

/- After a revocation both are still the same for the user. -/
theorem revoke
    (h : SameFor user r₁ r₂)
    (token : String) :
    SameFor user (r₁.revoke token user).2
      (r₂.revoke token user).2 where
  left := consistent_revoke h.left token user
  right := consistent_revoke h.right token user
  own := by
    intro x hUser
    rw [holds_revoke_iff h.left, holds_revoke_iff h.right,
      h.own x hUser]

/-
  To revoke tokens has the same results in both, and both
  stay the same for the user.
-/
theorem revokeAll
    (tokens : List String) :
    ∀ {r₁ r₂ : Registry},
      SameFor user r₁ r₂ →
        (r₁.revokeAll user tokens).1 =
            (r₂.revokeAll user tokens).1 ∧
          SameFor user (r₁.revokeAll user tokens).2
            (r₂.revokeAll user tokens).2 := by
  induction tokens with
  | nil => exact fun h => ⟨rfl, h⟩
  | cons token tokens ih =>
      intro r₁ r₂ h
      rcases ih (h.revoke token) with ⟨hResults, hAfter⟩
      refine ⟨?_, hAfter⟩
      dsimp only [Registry.revokeAll]
      rw [h.revoke_result token, hResults]

end SameFor

end Registry

------------------------------------------------------------
-- Creators
------------------------------------------------------------

/- Are two shares the same but for their creators? -/
def SameButCreator
    (x y : Share) : Prop :=
  { x with createdBy := y.createdBy } = y

namespace SameButCreator

variable {x y : Share}

/- Such shares are of one session. -/
theorem sessionId
    (h : x.SameButCreator y) :
    x.sessionId = y.sessionId := by
  rw [← h]

/- Such shares expire together. -/
theorem isExpired
    (h : x.SameButCreator y)
    (now : Instant) :
    x.isExpired now = y.isExpired now := by
  rw [← h]
  rfl

end SameButCreator

namespace Store

/- Are two stores the same but for the creators of shares? -/
structure SameButCreators
    (s₁ s₂ : Store) : Prop where
  shares :
    ∀ token,
      Option.Rel SameButCreator (s₁.byToken.get? token)
        (s₂.byToken.get? token)
  sessions :
    ∀ sessionId,
      s₁.bySession.get? sessionId =
        s₂.bySession.get? sessionId

namespace SameButCreators

variable {s₁ s₂ : Store}

/- A token has a share in both stores or in neither. -/
theorem cases
    (h : s₁.SameButCreators s₂)
    (token : String) :
    (s₁.byToken.get? token = none ∧
        s₂.byToken.get? token = none) ∨
      ∃ x y,
        s₁.byToken.get? token = some x ∧
          s₂.byToken.get? token = some y ∧
            x.SameButCreator y := by
  have hBoth := h.shares token
  cases hFound₁ : s₁.byToken.get? token with
  | none =>
      cases hFound₂ : s₂.byToken.get? token with
      | none => exact Or.inl ⟨rfl, rfl⟩
      | some y =>
          rw [hFound₁, hFound₂] at hBoth
          cases hBoth
  | some x =>
      cases hFound₂ : s₂.byToken.get? token with
      | none =>
          rw [hFound₁, hFound₂] at hBoth
          cases hBoth
      | some y =>
          rw [hFound₁, hFound₂] at hBoth
          cases hBoth with
          | some hSame => exact Or.inr ⟨x, y, rfl, rfl, hSame⟩

/- Both stores remove a token alike. -/
theorem deleteToken
    (h : s₁.SameButCreators s₂)
    (token : String) :
    (s₁.deleteToken token).SameButCreators
      (s₂.deleteToken token) := by
  unfold Store.deleteToken
  rcases h.cases token with
    ⟨hNone₁, hNone₂⟩ | ⟨x, y, hFound₁, hFound₂, hSame⟩
  · rw [hNone₁, hNone₂]
    exact h
  · rw [hFound₁, hFound₂]
    dsimp only
    rw [hSame.sessionId, h.sessions]
    refine ⟨?_, ?_⟩
    · intro token'
      dsimp only
      rw [Table.get?_erase, Table.get?_erase]
      split
      · exact Option.Rel.none
      · exact h.shares token'
    · intro sessionId
      dsimp only
      split
      · rw [Table.get?_erase, Table.get?_erase, h.sessions]
      · exact h.sessions sessionId

/-
  A look for the live share of a token goes alike in both
  stores: it finds shares that differ in their creators, or
  fails over the same fault.
-/
theorem findLive
    (h : s₁.SameButCreators s₂)
    (now : Instant)
    (token : String) :
    ((∃ e,
      (s₁.findLive now token).1 = .error e ∧
        (s₂.findLive now token).1 = .error e) ∨
      ∃ x y,
        (s₁.findLive now token).1 = .ok x ∧
          (s₂.findLive now token).1 = .ok y ∧
            x.SameButCreator y) ∧
      (s₁.findLive now token).2.SameButCreators
        (s₂.findLive now token).2 := by
  unfold Store.findLive
  rcases h.cases token with
    ⟨hNone₁, hNone₂⟩ | ⟨x, y, hFound₁, hFound₂, hSame⟩
  · rw [hNone₁, hNone₂]
    exact ⟨Or.inl ⟨_, rfl, rfl⟩, h⟩
  · rw [hFound₁, hFound₂]
    dsimp only
    rw [hSame.isExpired now]
    split
    · exact ⟨Or.inl ⟨_, rfl, rfl⟩, h.deleteToken token⟩
    · exact ⟨Or.inr ⟨x, y, rfl, rfl, hSame⟩, h⟩

end SameButCreators

end Store

namespace Registry

/- A resolution answers what its store finds. -/
theorem resolve_eq_findLive
    (r : Registry)
    (now : Instant)
    (token : String) :
    (r.resolve now token).1 =
        (r.store.findLive now token).1 ∧
      (r.resolve now token).2.store =
        (r.store.findLive now token).2 := by
  unfold resolve
  split
  next hFound =>
    rw [hFound]
    exact ⟨rfl, rfl⟩
  next hFound =>
    rw [hFound]
    exact ⟨rfl, rfl⟩

end Registry

end Share

end Gatehouse
