import Gatehouse.Proofs.Share.Issuance

/-
  When a token resolves.

  What a registry resolves is told by its history alone: a
  token resolves to the share that was issued with it, until
  the session is shared anew, the token is revoked, either
  is deleted, or the share expires.  Neither lookups nor
  cleanups matter.

  Key definitions include:
    * `Share.Registry.issued?`
    * `Share.Registry.Ends`
    * `Share.Registry.Valid`

  Main results include:
    * `Share.Registry.run_store_valid`
    * `Share.Registry.resolve_run_iff`
-/

namespace Gatehouse

namespace Share

namespace Registry

open History (Event Entry Since run log)
open Store (Reply)
open Collection (Distinct)

------------------------------------------------------------
-- Validity
------------------------------------------------------------

/- The share that a call with its reply has issued. -/
def issued?
    (reply : Reply) :
    Call → Option Share
  | .create _ _ =>
      match reply with
      | .ok (.share x) => some x
      | _ => none
  | _ => none

/- Does a call with its reply put an end to a share? -/
def Ends
    (x : Share)
    (reply : Reply) :
    Call → Prop
  | .create _ _ =>
      ∃ y, reply = .ok (.share y) ∧
        y.sessionId = x.sessionId
  | .revoke token _ =>
      token = x.token ∧ reply = .ok .nothing
  | .deleteSession sessionId => sessionId = x.sessionId
  | .deleteToken token => token = x.token
  | _ => False

/- What a call in a history gave. -/
def replyOf
    (e : Entry Registry Call) : Reply :=
  (e.before.perform e.now e.call).1

/- The shares that were issued in a history, in order. -/
def issuedIn
    (entries : List (Entry Registry Call)) : List Share :=
  entries.filterMap (fun e => issued? (replyOf e) e.call)

/-
  Was a share issued in a history, and has nothing put an
  end to it since?
-/
def Valid
    (entries : List (Entry Registry Call))
    (x : Share) : Prop :=
  Since (fun e => issued? (replyOf e) e.call = some x)
    (fun e => Ends x (replyOf e) e.call) entries

/- Only creations issue shares. -/
theorem create_of_issued
    {reply : Reply}
    {call : Call}
    {x : Share}
    (h : issued? reply call = some x) :
    ∃ draw o,
      call = .create draw o ∧ reply = .ok (.share x) := by
  unfold issued? at h
  split at h
  next draw o =>
    split at h
    next y =>
      rw [Option.some.inj h]
      exact ⟨draw, o, rfl, rfl⟩
    next => cases h
  next => cases h

/- A valid share was issued. -/
theorem Valid.mem_issuedIn
    {entries : List (Entry Registry Call)}
    {x : Share}
    (h : Valid entries x) :
    x ∈ issuedIn entries := by
  rcases h.exists_mem with ⟨e, he, hIssued⟩
  exact List.mem_filterMap.mpr ⟨e, he, hIssued⟩

------------------------------------------------------------
-- One Call
------------------------------------------------------------

section Step

variable {now : Instant} {c c' : Finset Share}
variable {call : Call} {reply : Reply}

/- What is stored after a call was issued by it or stays. -/
theorem Step.issued_or_mem
    (hStep : Step now c call reply c')
    {y : Share}
    (hy : y ∈ c') :
    issued? reply call = some y ∨ y ∈ c := by
  cases hStep with
  | incomplete => exact Or.inr hy
  | endless => exact Or.inr hy
  | held => exact Or.inr hy
  | created =>
      rcases (Collection.mem_put_iff _ _ _).mp hy with
        rfl | hOld
      · exact Or.inl rfl
      · exact Or.inr hOld.1
  | resolved => exact Or.inr hy
  | expired => exact Or.inr (Finset.mem_of_mem_erase hy)
  | unresolved => exact Or.inr hy
  | foundToken => exact Or.inr hy
  | foundSession => exact Or.inr hy
  | revoked => exact Or.inr (Finset.mem_of_mem_erase hy)
  | notRevoked => exact Or.inr hy
  | deletedSession =>
      exact Or.inr (Finset.mem_filter.mp hy).1
  | deletedToken =>
      exact Or.inr (Finset.mem_filter.mp hy).1
  | cleaned => exact Or.inr (Finset.mem_filter.mp hy).1

/- What is stored after a call was not ended by it. -/
theorem Step.not_ends
    (hStep : Step now c call reply c')
    (hDistinct : Distinct c)
    {y : Share}
    (hy : y ∈ c')
    (hNew : issued? reply call ≠ some y) :
    ¬Ends y reply call := by
  cases hStep with
  | incomplete => simp [Ends]
  | endless => simp [Ends]
  | held => simp [Ends]
  | created =>
      rcases (Collection.mem_put_iff _ _ _).mp hy with
        rfl | ⟨_, _, hSession⟩
      · exact absurd rfl hNew
      · simpa [Ends] using fun hSame => hSession hSame.symm
  | resolved => exact id
  | expired => exact id
  | unresolved => exact id
  | foundToken => exact id
  | foundSession => exact id
  | revoked hx =>
      rcases Finset.mem_erase.mp hy with ⟨hNe, hOld⟩
      rintro ⟨hToken, _⟩
      exact hNe (hDistinct.token _ hOld _ hx hToken.symm)
  | notRevoked => simp [Ends]
  | deletedSession =>
      intro hSession
      exact (Finset.mem_filter.mp hy).2 hSession.symm
  | deletedToken =>
      intro hToken
      exact (Finset.mem_filter.mp hy).2 hToken.symm
  | cleaned => exact id

/- What a call issues is stored after it. -/
theorem Step.mem_of_issued
    (hStep : Step now c call reply c')
    {y : Share}
    (hIssued : issued? reply call = some y) :
    y ∈ c' := by
  cases hStep with
  | created =>
      rw [← Option.some.inj hIssued]
      exact Finset.mem_insert_self _ _
  | _ => simp [issued?] at hIssued

/-
  What is live and not ended by a call stays, if the call
  issues no share with the same token.
-/
theorem Step.mem_of_live
    (hStep : Step now c call reply c')
    {y : Share}
    (hy : y ∈ c)
    (hLive : y.isExpired now = false)
    (hEnds : ¬Ends y reply call)
    (hFresh :
      ∀ x, issued? reply call = some x →
        x.token ≠ y.token) :
    y ∈ c' := by
  cases hStep with
  | incomplete => exact hy
  | endless => exact hy
  | held => exact hy
  | created =>
      refine (Collection.mem_put_iff _ _ _).mpr (Or.inr ?_)
      refine ⟨hy, ?_, ?_⟩
      · intro hToken
        exact hFresh _ rfl hToken.symm
      · intro hSession
        exact hEnds ⟨_, rfl, hSession.symm⟩
  | resolved => exact hy
  | expired _ _ hExpired =>
      refine Finset.mem_erase.mpr ⟨?_, hy⟩
      rintro rfl
      rw [hLive] at hExpired
      exact Bool.false_ne_true hExpired
  | unresolved => exact hy
  | foundToken => exact hy
  | foundSession => exact hy
  | revoked =>
      refine Finset.mem_erase.mpr ⟨?_, hy⟩
      rintro rfl
      exact hEnds ⟨rfl, rfl⟩
  | notRevoked => exact hy
  | deletedSession =>
      refine Finset.mem_filter.mpr ⟨hy, ?_⟩
      intro hSession
      exact hEnds hSession.symm
  | deletedToken =>
      refine Finset.mem_filter.mpr ⟨hy, ?_⟩
      intro hToken
      exact hEnds hToken.symm
  | cleaned => exact Finset.mem_filter.mpr ⟨hy, hLive⟩

/-
  Only its creator takes the place of a live share, and only
  its creator revokes it.
-/
theorem Step.creator_of_ends
    (hStep : Step now c call reply c')
    (hDistinct : Distinct c)
    {x : Share}
    (hx : x ∈ c)
    (hLive : x.isExpired now = false)
    (hEnds : Ends x reply call) :
    (∀ draw o, call = .create draw o →
        ∀ y, reply = .ok (.share y) →
          x.createdBy = y.createdBy) ∧
      ∀ token requester,
        call = .revoke token requester →
          x.createdBy = requester := by
  cases hStep with
  | created _ _ hFree =>
      refine ⟨?_, by simp⟩
      rintro draw o - y hReply
      cases hReply
      rcases hEnds with ⟨y', hReply', hSession⟩
      cases hReply'
      by_contra hOther
      exact hFree ⟨x, hx, hSession.symm, hOther, hLive⟩
  | revoked hOwn hCreator =>
      refine ⟨by simp, ?_⟩
      rintro token requester hCall
      cases hCall
      rw [hDistinct.token x hx _ hOwn hEnds.1.symm]
      exact hCreator
  | notRevoked => cases hEnds.2
  | _ => simp

end Step

------------------------------------------------------------
-- Whole Runs
------------------------------------------------------------

/- The shares issued in a history with one more event. -/
theorem issuedIn_append_singleton
    (entries : List (Entry Registry Call))
    (e : Entry Registry Call) :
    issuedIn (entries ++ [e]) =
      issuedIn entries ++
        (issued? (replyOf e) e.call).toList :=
  History.filterMap_append_singleton _ _ _

/-
  After a run in which no token was drawn twice, every
  stored share is valid, and every valid share is stored
  until it expires.
-/
theorem run_store_valid
    (events : List (Event Call))
    (hTokens :
      ((issuedIn (log next empty events)).map
        Share.token).Nodup) :
    ∃ c, (run next empty events).store.Represents c ∧
      (∀ x ∈ c, Valid (log next empty events) x) ∧
        ∀ x now,
          Valid (log next empty events) x →
            x.isExpired now = false →
              (∀ event ∈ events, event.now ≤ now) →
                x ∈ c := by
  induction events using List.reverseRecOn with
  | nil =>
      refine ⟨∅, Store.represents_empty, by simp, ?_⟩
      intro x now hValid
      exact absurd hValid (History.not_since_nil _ _)
  | append_singleton events event ih =>
      rw [History.log_append_singleton,
        issuedIn_append_singleton, List.map_append,
        List.nodup_append] at hTokens
      rcases hTokens with ⟨hOldTokens, _, hDisjoint⟩
      rcases ih hOldTokens with ⟨c, h, hSound, hComplete⟩
      rcases perform_step h event.now event.call with
        ⟨c', h', hStep⟩
      rw [History.run_append_singleton,
        History.log_append_singleton]
      refine ⟨c', h', ?_, ?_⟩
      · intro x hx
        apply (History.since_append_singleton _ _ _ _).mpr
        by_cases hNew :
            issued? (replyOf
              ⟨run next empty events, event.now,
                event.call⟩) event.call = some x
        · exact Or.inl hNew
        · have hOld : x ∈ c :=
            (hStep.issued_or_mem hx).resolve_left hNew
          exact
            Or.inr ⟨hSound x hOld,
              hStep.not_ends h.distinct hx hNew⟩
      · intro x now hValid hLive hClock
        rcases (History.since_append_singleton _ _ _ _).mp
            hValid with
          hNew | ⟨hOld, hEnds⟩
        · exact hStep.mem_of_issued hNew
        · have hOldClock :
              ∀ earlier ∈ events, earlier.now ≤ now := by
            intro earlier hEarlier
            exact
              hClock earlier
                (List.mem_append_left _ hEarlier)
          have hx : x ∈ c :=
            hComplete x now hOld hLive hOldClock
          have hLiveThen : x.isExpired event.now = false :=
            x.isExpired_eq_false_of_le hLive
              (hClock event (by simp))
          apply hStep.mem_of_live hx hLiveThen hEnds
          intro y hIssued hSame
          apply hDisjoint x.token
            (List.mem_map_of_mem (Valid.mem_issuedIn hOld))
            y.token
          · apply List.mem_map_of_mem
            rw [Option.mem_toList]
            exact hIssued
          · exact hSame.symm

/- A token that was spent is not stored again. -/
theorem not_mem_of_spent
    (token : String)
    (events : List (Event Call)) :
    ∀ {r : Registry} {c : Finset Share},
      r.store.Represents c →
        (∀ x ∈ c, x.token ≠ token) →
          (∀ x ∈ issuedIn (log next r events),
            x.token ≠ token) →
            ∃ c', (run next r events).store.Represents c' ∧
              ∀ x ∈ c', x.token ≠ token := by
  induction events with
  | nil =>
      intro r c h hAbsent _
      exact ⟨c, h, hAbsent⟩
  | cons event events ih =>
      intro r c h hAbsent hIssued
      rcases perform_step h event.now event.call with
        ⟨c', h', hStep⟩
      have hLater :
          ∀ x ∈ issuedIn (log next (r.next event) events),
            x.token ≠ token := by
        intro x hx
        rcases List.mem_filterMap.mp hx with ⟨e, he, hNew⟩
        apply hIssued x
        exact
          List.mem_filterMap.mpr
            ⟨e, List.mem_cons_of_mem _ he, hNew⟩
      apply ih h' _ hLater
      intro x hx
      rcases hStep.issued_or_mem hx with hNew | hOld
      · apply hIssued x
        exact
          List.mem_filterMap.mpr
            ⟨_, List.mem_cons_self, hNew⟩
      · exact hAbsent x hOld

------------------------------------------------------------
-- Resolution
------------------------------------------------------------

section Resolution

variable {r : Registry} {c : Finset Share}

/- What a token resolves to is its live member. -/
theorem resolve_eq_ok_iff
    (h : r.store.Represents c)
    (now : Instant)
    (token : String)
    (x : Share) :
    (r.resolve now token).1 = .ok x ↔
      x ∈ c ∧ x.token = token ∧
        x.isExpired now = false := by
  unfold resolve
  rcases h.findLive_cases now token with
    ⟨hAbsent, hFound⟩ |
      ⟨y, hy, hToken, hLive, hFound⟩ |
        ⟨y, hy, hToken, hExpired, hFound⟩
  · rw [hFound]
    constructor
    · intro hError
      cases hError
    · rintro ⟨hx, hToken, _⟩
      exact absurd hToken (hAbsent x hx)
  · rw [hFound]
    constructor
    · intro hOk
      rw [← Except.ok.inj hOk]
      exact ⟨hy, hToken, hLive⟩
    · rintro ⟨hx, hSame, _⟩
      rw [h.distinct.eq_of_token hx hy hSame hToken]
  · rw [hFound]
    constructor
    · intro hError
      cases hError
    · rintro ⟨hx, hSame, hLive⟩
      rw [h.distinct.eq_of_token hx hy hSame hToken,
        hExpired] at hLive
      exact absurd hLive.symm Bool.false_ne_true

/- A token that does not resolve is unknown or expired. -/
theorem resolve_eq_error
    (h : r.store.Represents c)
    {now : Instant}
    {token : String}
    {fault : Fault}
    (hError : (r.resolve now token).1 = .error fault) :
    fault = .notFound ∧ (∀ x ∈ c, x.token ≠ token) ∨
      fault = .expired ∧
        ∃ x ∈ c, x.token = token ∧
          x.isExpired now = true := by
  unfold resolve at hError
  rcases h.findLive_cases now token with
    ⟨hAbsent, hFound⟩ |
      ⟨y, hy, hToken, hLive, hFound⟩ |
        ⟨y, hy, hToken, hExpired, hFound⟩
  · rw [hFound] at hError
    exact Or.inl ⟨(Except.error.inj hError).symm, hAbsent⟩
  · rw [hFound] at hError
    cases hError
  · rw [hFound] at hError
    exact
      Or.inr
        ⟨(Except.error.inj hError).symm, y, hy, hToken,
          hExpired⟩

/- A token without share is not found. -/
theorem resolve_of_absent
    (h : r.store.Represents c)
    (now : Instant)
    {token : String}
    (hAbsent : ∀ x ∈ c, x.token ≠ token) :
    (r.resolve now token).1 = .error .notFound := by
  unfold resolve
  rcases h.findLive_cases now token with
    ⟨_, hFound⟩ | ⟨y, hy, hToken, _⟩ | ⟨y, hy, hToken, _⟩
  · rw [hFound]
  · exact absurd hToken (hAbsent y hy)
  · exact absurd hToken (hAbsent y hy)

/- After a token was found expired, no share has it. -/
theorem absent_of_resolve_expired
    (h : r.store.Represents c)
    {now : Instant}
    {token : String}
    (hExpired :
      (r.resolve now token).1 = .error .expired) :
    ∃ x ∈ c,
      x.token = token ∧
        (r.resolve now token).2.store.Represents
          (c.erase x) := by
  unfold resolve at hExpired ⊢
  rcases h.findLive_cases now token with
    ⟨_, hFound⟩ | ⟨y, _, _, _, hFound⟩ |
      ⟨y, hy, hToken, _, hFound⟩
  · rw [hFound] at hExpired
    cases hExpired
  · rw [hFound] at hExpired
    cases hExpired
  · rw [hFound]
    exact ⟨y, hy, hToken, h.without hy⟩

end Resolution

/- A token found expired is not found ever after. -/
theorem resolve_after_expired
    {first second : List (Event Call)}
    {earlier : Instant}
    {token : String}
    (hTokens :
      ((issuedIn (log next empty
        (first ++ ⟨earlier, .resolve token⟩ ::
          second))).map Share.token).Nodup)
    (hExpired :
      ((run next empty first).resolve earlier token).1 =
        .error .expired)
    (now : Instant) :
    ((run next empty
      (first ++ ⟨earlier, .resolve token⟩ ::
        second)).resolve now token).1 =
      .error .notFound := by
  rw [History.log_append] at hTokens
  unfold issuedIn at hTokens
  rw [List.filterMap_append, List.map_append,
    List.nodup_append] at hTokens
  rcases hTokens with ⟨hFirst, _, hDisjoint⟩
  rcases run_store_valid first hFirst with ⟨c, h, hValid, _⟩
  rcases absent_of_resolve_expired h hExpired with
    ⟨x, hx, hToken, h'⟩
  have hAbsent : ∀ y ∈ c.erase x, y.token ≠ token := by
    intro y hy hSame
    rcases Finset.mem_erase.mp hy with ⟨hNe, hOld⟩
    exact
      hNe (h.distinct.eq_of_token hOld hx hSame hToken)
  have hSpent :
      ∀ y ∈ issuedIn (log next
          ((run next empty first).next
            ⟨earlier, .resolve token⟩) second),
        y.token ≠ token := by
    intro y hy hSame
    apply hDisjoint x.token
      (List.mem_map_of_mem
        (Valid.mem_issuedIn (hValid x hx)))
      y.token
    · apply List.mem_map_of_mem
      rcases List.mem_filterMap.mp hy with ⟨e, he, hIssued⟩
      exact
        List.mem_filterMap.mpr
          ⟨e, List.mem_cons_of_mem _ he, hIssued⟩
    · exact hToken.trans hSame.symm
  rcases not_mem_of_spent token second h' hAbsent hSpent with
    ⟨c', hFinal, hGone⟩
  rw [History.run_append]
  exact resolve_of_absent hFinal now hGone

/-
  After a run in which no token was drawn twice, and at a
  time that no call of the run was later than, a token
  resolves to a share exactly if that share was issued with
  the token, nothing put an end to it, and its last instant
  is not over.  Otherwise the token is unknown or expired,
  and once it was found expired it is never found again.
-/
theorem resolve_run_iff
    (events : List (Event Call))
    (now : Instant)
    (token : String)
    (hClock : ∀ event ∈ events, event.now ≤ now)
    (hTokens :
      ((issuedIn (log next empty events)).map
        Share.token).Nodup) :
    (∀ x,
      ((run next empty events).resolve now token).1 =
          .ok x ↔
        x.token = token ∧
          Valid (log next empty events) x ∧
            ∀ last, x.expiresAt = some last → now ≤ last) ∧
      (∀ fault,
        ((run next empty events).resolve now token).1 =
            .error fault →
          fault = .notFound ∨ fault = .expired) ∧
        ∀ first earlier second,
          events =
              first ++ ⟨earlier, .resolve token⟩ ::
                second →
            ((run next empty first).resolve
                earlier token).1 = .error .expired →
              ((run next empty events).resolve
                now token).1 = .error .notFound := by
  rcases run_store_valid events hTokens with
    ⟨c, h, hSound, hComplete⟩
  refine ⟨?_, ?_, ?_⟩
  · intro x
    rw [resolve_eq_ok_iff h, ← x.isExpired_eq_false_iff]
    constructor
    · rintro ⟨hx, hToken, hLive⟩
      exact ⟨hToken, hSound x hx, hLive⟩
    · rintro ⟨hToken, hValid, hLive⟩
      exact
        ⟨hComplete x now hValid hLive hClock, hToken, hLive⟩
  · intro fault hError
    rcases resolve_eq_error h hError with
      ⟨hFault, _⟩ | ⟨hFault, _⟩
    · exact Or.inl hFault
    · exact Or.inr hFault
  · rintro first earlier second rfl hExpired
    exact resolve_after_expired hTokens hExpired now

/- The token that octets with the value one give. -/
def onesToken : String :=
  Token.ofOctets (Vector.replicate 16 1)

/-
  A share for five nanoseconds, looked up in time and too
  late; its session is shared anew with a token from the
  clock, as the draw fails.
-/
def lapsedRun : List (Event Call) :=
  [⟨⟨0⟩, .create (some (Vector.replicate 16 1))
     ⟨"s", "ann", some 5⟩⟩,
   ⟨⟨5⟩, .resolve onesToken⟩,
   ⟨⟨6⟩, .resolve onesToken⟩,
   ⟨⟨7⟩, .create none ⟨"s", "bob", none⟩⟩]

/- A token that has lapsed is not found again. -/
theorem resolve_lapsedRun :
    (∀ event ∈ lapsedRun, event.now ≤ ⟨9⟩) ∧
      ((issuedIn (log next empty lapsedRun)).map
        Share.token).Nodup ∧
        ((run next empty lapsedRun).resolve
          ⟨9⟩ onesToken).1 = .error .notFound := by
  have hClock :
      ∀ event ∈ lapsedRun, event.now ≤ ⟨9⟩ := by
    decide
  have hTokens :
      ((issuedIn (log next empty lapsedRun)).map
        Share.token).Nodup := by
    decide
  refine ⟨hClock, hTokens, ?_⟩
  apply
    (resolve_run_iff lapsedRun ⟨9⟩ onesToken hClock
      hTokens).2.2 (lapsedRun.take 2) ⟨6⟩ (lapsedRun.drop 3)
  · rfl
  · rfl

end Registry

end Share

end Gatehouse
