import Gatehouse.Proofs.Share.Interleaving

/-
  Calls that overlap stay out of each other's way.

  However the steps of creations, resolutions, revocations
  and cleanups fall between each other, a session has one
  share at most, a revocation deletes no share of another
  creator, and a revoked token never resolves again.

  Key definitions include:
    * `Share.Registry.mintedIn`
    * `Share.Registry.Fresh`
    * `Share.Registry.Known`
    * `Share.Registry.Crowd.Pending`
    * `Share.Registry.Crowd.Sound`

  Main results include:
    * `Share.Registry.Crowd.Sound.next`
    * `Share.Registry.Crowd.Sound.creator_of_lost`
    * `Share.Registry.Crowd.sound_run`
-/

namespace Gatehouse

namespace Share

namespace Registry

open Collection (Distinct)
open History (Event Entry run log)

------------------------------------------------------------
-- Minted Shares
------------------------------------------------------------

/- The share that a step has minted, if it has minted one. -/
def minted?
    (e : Entry Crowd Nat) : Option Share :=
  match (e.before.next ⟨e.now, e.call⟩).stages[e.call]? with
  | some (.claiming x) => some x
  | _ => none

/- The shares that were minted in a history, in order. -/
def mintedIn
    (entries : List (Entry Crowd Nat)) : List Share :=
  entries.filterMap minted?

/- Is no token minted twice, and none that was stored? -/
def Fresh
    (stored : Finset Share)
    (entries : List (Entry Crowd Nat)) : Prop :=
  ((mintedIn entries).map Share.token).Nodup ∧
    ∀ x ∈ mintedIn entries, ∀ y ∈ stored,
      x.token ≠ y.token

/- Was a share stored at first or minted since? -/
def Known
    (stored : Finset Share)
    (entries : List (Entry Crowd Nat))
    (x : Share) : Prop :=
  x ∈ stored ∨ x ∈ mintedIn entries

section Tokens

variable {stored : Finset Share}
variable {entries : List (Entry Crowd Nat)}
variable {e : Entry Crowd Nat}

/- What is known stays known. -/
theorem Known.append_singleton
    {x : Share}
    (h : Known stored entries x)
    (e : Entry Crowd Nat) :
    Known stored (entries ++ [e]) x := by
  rcases h with hStored | hMinted
  · exact Or.inl hStored
  · exact
      Or.inr
        (History.mem_filterMap_append_singleton.mpr
          (Or.inl hMinted))

/- What was just minted is known. -/
theorem known_of_minted
    {x : Share}
    (h : minted? e = some x) :
    Known stored (entries ++ [e]) x :=
  Or.inr
    (History.mem_filterMap_append_singleton.mpr
      (Or.inr h))

namespace Fresh

/- Known shares with one token are the same. -/
theorem eq_of_token
    (h : Fresh stored entries)
    (hDistinct : Distinct stored)
    {x y : Share}
    (hx : Known stored entries x)
    (hy : Known stored entries y)
    (hToken : x.token = y.token) :
    x = y := by
  rcases hx with hx | hx
  · rcases hy with hy | hy
    · exact hDistinct.token x hx y hy hToken
    · exact absurd hToken.symm (h.2 y hy x hx)
  · rcases hy with hy | hy
    · exact absurd hToken (h.2 x hx y hy)
    · exact List.inj_on_of_nodup_map h.1 hx hy hToken

/- The beginning of a history mints fresh tokens, too. -/
theorem of_append
    {later : List (Entry Crowd Nat)}
    (h : Fresh stored (entries ++ later)) :
    Fresh stored entries := by
  unfold Fresh mintedIn at h ⊢
  rw [List.filterMap_append, List.map_append,
    List.nodup_append] at h
  refine ⟨h.1.1, ?_⟩
  intro x hx
  exact h.2 x (List.mem_append_left _ hx)

/- What was just minted has a token of its own. -/
theorem token_ne_of_minted
    (h : Fresh stored (entries ++ [e]))
    {x y : Share}
    (hMinted : minted? e = some x)
    (hKnown : Known stored entries y) :
    x.token ≠ y.token := by
  rcases hKnown with hStored | hOld
  · apply h.2 x _ y hStored
    exact
      History.mem_filterMap_append_singleton.mpr
        (Or.inr hMinted)
  · have hNodup := h.1
    unfold mintedIn at hNodup
    rw [List.filterMap_append, List.map_append,
      List.nodup_append] at hNodup
    intro hToken
    apply hNodup.2.2 y.token (List.mem_map_of_mem hOld)
      x.token _ hToken.symm
    simp [hMinted]

end Fresh

end Tokens

------------------------------------------------------------
-- The Invariant
------------------------------------------------------------

namespace Crowd

/- Does a call still wait to claim with a token? -/
def Pending
    (w : Crowd)
    (token : String) : Prop :=
  ∃ (i : Nat) (x : Share),
    w.stages[i]? = some (.claiming x) ∧ x.token = token

/-
  What holds of a crowd after a history, if its store stands
  for a set of shares.  Every share that is stored, claimed
  with or looked at for its deletion is known, and from then
  on no call claims with its token again.
-/
structure Sound
    (calls : List Call)
    (stored : Finset Share)
    (entries : List (Entry Crowd Nat))
    (w : Crowd)
    (c : Finset Share) : Prop where
  represents : w.registry.store.Represents c
  serves :
    ∀ {i : Nat} {stage : Stage},
      w.stages[i]? = some stage →
        ∃ call, calls[i]? = some call ∧ Serves call stage
  members :
    ∀ {x : Share}, x ∈ c →
      Known stored entries x ∧ ¬w.Pending x.token
  claims :
    ∀ {i : Nat} {x : Share},
      w.stages[i]? = some (.claiming x) →
        Known stored entries x
  apart :
    ∀ {i j : Nat} {x y : Share},
      w.stages[i]? = some (.claiming x) →
        w.stages[j]? = some (.claiming y) →
          x.token = y.token → i = j
  deletes :
    ∀ {i : Nat} {token requester : String},
      calls[i]? = some (.revoke token requester) →
        w.stages[i]? = some (.deleting token) →
          ∃ x, Known stored entries x ∧ x.token = token ∧
            x.createdBy = requester ∧ ¬w.Pending token
  revoked :
    ∀ {i : Nat} {token requester : String},
      calls[i]? = some (.revoke token requester) →
        w.stages[i]? = some (.answered (.ok .nothing)) →
          (∃ x, Known stored entries x ∧
              x.token = token) ∧
            ¬w.Pending token ∧ ∀ x ∈ c, x.token ≠ token

/- A crowd stays sound if more is known. -/
theorem Sound.mono
    {calls : List Call}
    {stored c : Finset Share}
    {entries entries' : List (Entry Crowd Nat)}
    {w : Crowd}
    (h : Sound calls stored entries w c)
    (hKnown :
      ∀ x, Known stored entries x →
        Known stored entries' x) :
    Sound calls stored entries' w c where
  represents := h.represents
  serves := h.serves
  members hx :=
    ⟨hKnown _ (h.members hx).1, (h.members hx).2⟩
  claims hStage := hKnown _ (h.claims hStage)
  apart := h.apart
  deletes hCall hStage := by
    rcases h.deletes hCall hStage with ⟨x, hx, hRest⟩
    exact ⟨x, hKnown x hx, hRest⟩
  revoked hCall hStage := by
    rcases h.revoked hCall hStage with
      ⟨⟨x, hx, hToken⟩, hRest⟩
    exact ⟨⟨x, hKnown x hx, hToken⟩, hRest⟩

/- A crowd whose calls are all just asked is sound. -/
theorem sound_ofCalls
    {r : Registry}
    {stored : Finset Share}
    (h : r.store.Represents stored)
    (calls : List Call) :
    Sound calls stored [] (ofCalls r calls) stored := by
  have hAsked :
      ∀ {i : Nat} {stage : Stage},
        (ofCalls r calls).stages[i]? = some stage →
          ∃ call, calls[i]? = some call ∧
            stage = .asked call := by
    intro i stage hStage
    unfold ofCalls at hStage
    rw [List.getElem?_map] at hStage
    rcases Option.map_eq_some_iff.mp hStage with
      ⟨call, hCall, hSame⟩
    exact ⟨call, hCall, hSame.symm⟩
  constructor
  · exact h
  · intro i stage hStage
    rcases hAsked hStage with ⟨call, hCall, rfl⟩
    exact ⟨call, hCall, Serves.asked⟩
  · intro x hx
    refine ⟨Or.inl hx, ?_⟩
    rintro ⟨i, y, hStage, _⟩
    rcases hAsked hStage with ⟨_, _, hSame⟩
    cases hSame
  · intro i x hStage
    rcases hAsked hStage with ⟨_, _, hSame⟩
    cases hSame
  · intro i j x y hStage
    rcases hAsked hStage with ⟨_, _, hSame⟩
    cases hSame
  · intro i token requester _ hStage
    rcases hAsked hStage with ⟨_, _, hSame⟩
    cases hSame
  · intro i token requester _ hStage
    rcases hAsked hStage with ⟨_, _, hSame⟩
    cases hSame

------------------------------------------------------------
-- One Step
------------------------------------------------------------

/- What is stored after a move was, or is claimed by it. -/
theorem mem_or_claimed
    {now : Instant}
    {c c' : Finset Share}
    {stage stage' : Stage}
    (hMove : Move now c stage stage' c')
    {y : Share}
    (hy : y ∈ c') :
    y ∈ c ∨
      stage = .claiming y ∧ ∀ x, stage' ≠ .claiming x := by
  cases hMove with
  | claimed =>
      rcases (Collection.mem_put_iff _ _ _).mp hy with
        rfl | ⟨hOld, _⟩
      · exact Or.inr ⟨rfl, by simp⟩
      · exact Or.inl hOld
  | deleted => exact Or.inl (Finset.mem_filter.mp hy).1
  | performed hCall hStep =>
      refine Or.inl ((hStep.issued_or_mem hy).resolve_left ?_)
      intro hIssued
      rcases create_of_issued hIssued with ⟨_, _, rfl, _⟩
      cases hCall
  | _ => exact Or.inl hy

section Next

variable {calls : List Call}
variable {stored c c' : Finset Share}
variable {entries : List (Entry Crowd Nat)}
variable {w : Crowd}
variable {event : Event Nat}
variable {stage stage' : Stage}

/- The stages after a step, told apart by their places. -/
theorem stage_next_cases
    (hStages :
      (w.next event).stages =
        w.stages.set event.call stage')
    {i : Nat}
    {st : Stage}
    (hStage : (w.next event).stages[i]? = some st) :
    event.call = i ∧ stage' = st ∨
      event.call ≠ i ∧ w.stages[i]? = some st := by
  rw [hStages] at hStage
  by_cases hSame : event.call = i
  · subst hSame
    have hBound :
        event.call < w.stages.length := by
      have hLess := (List.getElem?_eq_some_iff.mp hStage).1
      rwa [List.length_set] at hLess
    rw [List.getElem?_set_self hBound] at hStage
    exact Or.inl ⟨rfl, Option.some.inj hStage⟩
  · rw [List.getElem?_set_ne hSame] at hStage
    exact Or.inr ⟨hSame, hStage⟩

/- Who claims after a step has minted just now, or did. -/
theorem claiming_next_cases
    (hStages :
      (w.next event).stages =
        w.stages.set event.call stage')
    {i : Nat}
    {x : Share}
    (hStage :
      (w.next event).stages[i]? = some (.claiming x)) :
    event.call = i ∧
        minted? ⟨w, event.now, event.call⟩ = some x ∨
      w.stages[i]? = some (.claiming x) := by
  rcases stage_next_cases hStages hStage with
    ⟨rfl, _⟩ | ⟨_, hBefore⟩
  · refine Or.inl ⟨rfl, ?_⟩
    unfold minted?
    rw [hStage]
  · exact Or.inr hBefore

/- Only a token that is minted comes to be pending. -/
theorem Pending.of_next
    {token : String}
    (h : (w.next event).Pending token) :
    w.Pending token ∨
      ∃ x, minted? ⟨w, event.now, event.call⟩ = some x ∧
        x.token = token := by
  rcases h with ⟨i, x, hStage, hToken⟩
  by_cases hSame : event.call = i
  · subst hSame
    refine Or.inr ⟨x, ?_, hToken⟩
    unfold minted?
    rw [hStage]
  · refine Or.inl ⟨i, x, ?_, hToken⟩
    unfold next at hStage
    cases hOld : w.stages[event.call]? with
    | none =>
        rw [hOld] at hStage
        exact hStage
    | some stage =>
        rw [hOld] at hStage
        dsimp only at hStage
        rwa [List.getElem?_set_ne hSame] at hStage

/- A known token that is not pending is never so again. -/
theorem not_pending_next
    (hFresh :
      Fresh stored
        (entries ++ [⟨w, event.now, event.call⟩]))
    {x : Share}
    (hKnown : Known stored entries x)
    (hSettled : ¬w.Pending x.token) :
    ¬(w.next event).Pending x.token := by
  intro hPending
  rcases hPending.of_next with
    hOld | ⟨y, hMinted, hToken⟩
  · exact hSettled hOld
  · exact hFresh.token_ne_of_minted hMinted hKnown hToken

namespace Sound

variable
  (h : Sound calls stored entries w c)
  (hFresh :
    Fresh stored (entries ++ [⟨w, event.now, event.call⟩]))
  (hStage : w.stages[event.call]? = some stage)
  (hMove : Move event.now c stage stage' c')
  (hStages :
    (w.next event).stages = w.stages.set event.call stage')

include h hFresh hStage hMove hStages

/- What is stored after a step is known and not pending. -/
theorem members_next
    {x : Share}
    (hx : x ∈ c') :
    Known stored
        (entries ++ [⟨w, event.now, event.call⟩]) x ∧
      ¬(w.next event).Pending x.token := by
  rcases mem_or_claimed hMove hx with
    hOld | ⟨hClaimed, hOver⟩
  · rcases h.members hOld with ⟨hKnown, hSettled⟩
    exact
      ⟨hKnown.append_singleton _,
        not_pending_next hFresh hKnown hSettled⟩
  · rw [hClaimed] at hStage
    refine ⟨(h.claims hStage).append_singleton _, ?_⟩
    rintro ⟨i, y, hStage', hToken⟩
    rcases stage_next_cases hStages hStage' with
      ⟨_, hSame⟩ | ⟨hOther, hBefore⟩
    · exact hOver y hSame
    · exact hOther (h.apart hStage hBefore hToken.symm)

omit hStage hMove in
/- No two calls claim with one token after a step. -/
theorem apart_next
    {i j : Nat}
    {x y : Share}
    (hX : (w.next event).stages[i]? = some (.claiming x))
    (hY : (w.next event).stages[j]? = some (.claiming y))
    (hToken : x.token = y.token) :
    i = j := by
  rcases claiming_next_cases hStages hX with
    ⟨rfl, hMinted⟩ | hBefore
  · rcases claiming_next_cases hStages hY with
      ⟨rfl, _⟩ | hBefore
    · rfl
    · exact
        absurd hToken
          (hFresh.token_ne_of_minted hMinted
            (h.claims hBefore))
  · rcases claiming_next_cases hStages hY with
      ⟨rfl, hMinted⟩ | hBefore'
    · exact
        absurd hToken.symm
          (hFresh.token_ne_of_minted hMinted
            (h.claims hBefore))
    · exact h.apart hBefore hBefore' hToken

/- Who deletes after a step has looked at the creator. -/
theorem deletes_next
    {i : Nat}
    {token requester : String}
    (hCall : calls[i]? = some (.revoke token requester))
    (hStage' :
      (w.next event).stages[i]? =
        some (.deleting token)) :
    ∃ x,
      Known stored
          (entries ++ [⟨w, event.now, event.call⟩]) x ∧
        x.token = token ∧ x.createdBy = requester ∧
          ¬(w.next event).Pending token := by
  rcases stage_next_cases hStages hStage' with
    ⟨rfl, rfl⟩ | ⟨_, hBefore⟩
  · cases hMove with
    | @entitled x requester' hx hOwn =>
        rcases h.serves hStage with
          ⟨call, hCall', hServes⟩
        rw [hCall] at hCall'
        cases hCall'
        cases hServes
        rcases h.members hx with ⟨hKnown, hSettled⟩
        exact
          ⟨x, hKnown.append_singleton _, rfl, hOwn,
            not_pending_next hFresh hKnown hSettled⟩
  · rcases h.deletes hCall hBefore with
      ⟨x, hKnown, rfl, hOwn, hSettled⟩
    exact
      ⟨x, hKnown.append_singleton _, rfl, hOwn,
        not_pending_next hFresh hKnown hSettled⟩

/- A token that is revoked after a step is gone for good. -/
theorem revoked_next
    {i : Nat}
    {token requester : String}
    (hCall : calls[i]? = some (.revoke token requester))
    (hStage' :
      (w.next event).stages[i]? =
        some (.answered (.ok .nothing))) :
    (∃ x,
      Known stored
          (entries ++ [⟨w, event.now, event.call⟩]) x ∧
        x.token = token) ∧
      ¬(w.next event).Pending token ∧
        ∀ x ∈ c', x.token ≠ token := by
  rcases stage_next_cases hStages hStage' with
    ⟨rfl, rfl⟩ | ⟨_, hBefore⟩
  · rcases h.serves hStage with ⟨call, hCall', hServes⟩
    rw [hCall] at hCall'
    cases hCall'
    cases hMove with
    | deleted =>
        cases hServes
        rcases h.deletes hCall hStage with
          ⟨x, hKnown, rfl, _, hSettled⟩
        refine
          ⟨⟨x, hKnown.append_singleton _, rfl⟩,
            not_pending_next hFresh hKnown hSettled, ?_⟩
        intro y hy
        exact (Finset.mem_filter.mp hy).2
    | performed hUndivided =>
        cases hServes
        cases hUndivided
    | rested =>
        rcases h.revoked hCall hStage with
          ⟨⟨x, hKnown, rfl⟩, hSettled, hGone⟩
        exact
          ⟨⟨x, hKnown.append_singleton _, rfl⟩,
            not_pending_next hFresh hKnown hSettled, hGone⟩
  · rcases h.revoked hCall hBefore with
      ⟨⟨x, hKnown, rfl⟩, hSettled, hGone⟩
    refine
      ⟨⟨x, hKnown.append_singleton _, rfl⟩,
        not_pending_next hFresh hKnown hSettled, ?_⟩
    intro y hy hToken
    rcases mem_or_claimed hMove hy with hOld | ⟨hClaimed, _⟩
    · exact hGone y hOld hToken
    · rw [hClaimed] at hStage
      exact hSettled ⟨event.call, y, hStage, hToken⟩

end Sound

/- Every step keeps a crowd sound. -/
theorem Sound.next
    (h : Sound calls stored entries w c)
    (hFresh :
      Fresh stored
        (entries ++ [⟨w, event.now, event.call⟩])) :
    ∃ c', Sound calls stored
      (entries ++ [⟨w, event.now, event.call⟩])
      (w.next event) c' := by
  rcases next_cases h.represents event with
    ⟨hSame, _⟩ |
      ⟨stage, stage', c', hStage, hMove, h', hStages⟩
  · refine ⟨c, ?_⟩
    rw [hSame]
    exact h.mono (fun x hx => hx.append_singleton _)
  · refine ⟨c', ?_⟩
    constructor
    · exact h'
    · intro i st hStage'
      rcases stage_next_cases hStages hStage' with
        ⟨rfl, rfl⟩ | ⟨_, hBefore⟩
      · rcases h.serves hStage with ⟨call, hCall, hServes⟩
        exact ⟨call, hCall, hMove.serves hServes⟩
      · exact h.serves hBefore
    · exact h.members_next hFresh hStage hMove hStages
    · intro i x hStage'
      rcases claiming_next_cases hStages hStage' with
        ⟨_, hMinted⟩ | hBefore
      · exact known_of_minted hMinted
      · exact (h.claims hBefore).append_singleton _
    · exact h.apart_next hFresh hStages
    · exact h.deletes_next hFresh hStage hMove hStages
    · exact h.revoked_next hFresh hStage hMove hStages

/-
  What goes by a step of a revocation has its token, and is
  by who asked for it.
-/
theorem Sound.creator_of_lost
    (h : Sound calls stored entries w c)
    (hFresh : Fresh stored entries)
    (hDistinct : Distinct stored)
    {token requester : String}
    (hCall :
      calls[event.call]? = some (.revoke token requester))
    (h' : (w.next event).registry.store.Represents c')
    {x : Share}
    (hx : x ∈ c)
    (hLost : x ∉ c') :
    x.token = token ∧ x.createdBy = requester := by
  rcases next_cases h.represents event with
    ⟨hSame, _⟩ | ⟨stage, stage', c'', hStage, hMove, h'', _⟩
  · rw [hSame] at h'
    rw [h'.unique h.represents] at hLost
    exact absurd hx hLost
  · rw [h'.unique h''] at hLost
    rcases h.serves hStage with ⟨call, hCall', hServes⟩
    rw [hCall] at hCall'
    cases hCall'
    cases hMove with
    | claimed => cases hServes
    | @deleted _ =>
        cases hServes
        rcases h.deletes hCall hStage with
          ⟨y, hKnown, rfl, hOwn, _⟩
        have hToken : x.token = y.token := by
          by_contra hOther
          exact hLost (Finset.mem_filter.mpr ⟨hx, hOther⟩)
        have hSame :=
          hFresh.eq_of_token hDistinct (h.members hx).1
            hKnown hToken
        exact ⟨hToken, hSame ▸ hOwn⟩
    | performed hUndivided =>
        cases hServes
        cases hUndivided
    | _ => exact absurd hx hLost

end Next

------------------------------------------------------------
-- Whole Runs
------------------------------------------------------------

/- A crowd is sound after any steps with fresh tokens. -/
theorem sound_run
    {r : Registry}
    {stored : Finset Share}
    (h : r.store.Represents stored)
    (calls : List Call)
    (events : List (Event Nat))
    (hFresh :
      Fresh stored (log next (ofCalls r calls) events)) :
    ∃ c, Sound calls stored
      (log next (ofCalls r calls) events)
      (run next (ofCalls r calls) events) c := by
  induction events using List.reverseRecOn with
  | nil => exact ⟨stored, sound_ofCalls h calls⟩
  | append_singleton events event ih =>
      rw [History.log_append_singleton] at hFresh ⊢
      rw [History.run_append_singleton]
      rcases ih hFresh.of_append with ⟨c, hSound⟩
      exact hSound.next hFresh

end Crowd

end Registry

end Share

end Gatehouse
