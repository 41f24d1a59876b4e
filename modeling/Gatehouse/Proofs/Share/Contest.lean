import Gatehouse.Proofs.Share.Concurrency

/-
  Contests for a session.

  Creators who contend for a free session, with shares that
  do not end, have one winner: who claims first.  All others
  are told that there is no share, as long as the share of
  the winner is not deleted.

  Key definitions include:
    * `Share.Registry.Contends`
    * `Share.Registry.Contest`
    * `Share.Registry.Stage.Deletes`
    * `Share.Registry.Call.deletes`
    * `Share.Registry.Crowd.OneWinner`
    * `Share.Registry.Crowd.Verdict`

  Main results include:
    * `Share.Registry.Crowd.Verdict.next`
    * `Share.Registry.Crowd.undisturbed_of_calls`
    * `Share.Registry.Crowd.verdict_run`
    * `Share.Registry.Crowd.overlapping_calls_safe`
-/

namespace Gatehouse

namespace Share

namespace Registry

open Collection (Held put)
open History (Event Entry run log)

------------------------------------------------------------
-- Contests
------------------------------------------------------------

/-
  Does a call, told by its place, share a session?  An order
  that names no creator does not.
-/
def Contends
    (calls : List Call)
    (sessionId : String)
    (i : Nat)
    (o : Order) : Prop :=
  (∃ draw, calls[i]? = some (.create draw o)) ∧
    o.fault? = none ∧ o.sessionId = sessionId

/-
  Is every call that shares the session by another creator,
  and for a share that does not end?
-/
structure Contest
    (calls : List Call)
    (sessionId : String) : Prop where
  endless :
    ∀ {i o}, Contends calls sessionId i o →
      o.lifetime = none
  rivals :
    ∀ {i j o o'}, Contends calls sessionId i o →
      Contends calls sessionId j o' →
        o.createdBy = o'.createdBy → i = j

/- An order without lifetime has a share without end. -/
theorem share?_of_endless
    {o : Order}
    (h : o.lifetime = none)
    (now : Instant)
    (token : String) :
    o.share? now token =
      .ok ⟨token, o.sessionId, o.createdBy, now, none⟩ := by
  unfold Order.share? Order.expiry?
  rw [h]

/- Does the next step at a stage delete a share by name? -/
def Stage.Deletes
    (x : Share) :
    Stage → Prop
  | .deleting token => x.token = token
  | .asked (.deleteToken token) => x.token = token
  | .asked (.deleteSession sessionId) =>
      x.sessionId = sessionId
  | _ => False

/- Does a call delete shares by name? -/
def Call.deletes :
    Call → Bool
  | .revoke _ _ => true
  | .deleteToken _ => true
  | .deleteSession _ => true
  | _ => false

/- No step of other calls deletes a share by name. -/
theorem Serves.not_deletes
    {call : Call}
    {stage : Stage}
    (h : Serves call stage)
    (hCall : call.deletes = false)
    (x : Share) :
    ¬stage.Deletes x := by
  cases h with
  | asked =>
      cases call with
      | deleteToken token => cases hCall
      | deleteSession sessionId => cases hCall
      | _ => exact id
  | deleting => cases hCall
  | _ => exact id

namespace Crowd

/-
  Has one call shared the session, for good and with a share
  that is stored, and is every other call for the session
  that has its reply told that there is no share?
-/
def OneWinner
    (calls : List Call)
    (sessionId : String)
    (w : Crowd) : Prop :=
  ∃ i o x,
    Contends calls sessionId i o ∧
      w.stages[i]? = some (.answered (.ok (.share x))) ∧
        w.registry.store.Holds x ∧
          x.sessionId = sessionId ∧
            x.createdBy = o.createdBy ∧
              x.expiresAt = none ∧
                ∀ j o' reply,
                  j ≠ i → Contends calls sessionId j o' →
                    w.stages[j]? = some (.answered reply) →
                      reply = .error .notFound

/-
  How a contest stands: nobody has a reply and only shares
  from before are stored for the session, or one has won.
-/
inductive Verdict
    (calls : List Call)
    (sessionId : String)
    (stored : Finset Share)
    (w : Crowd)
    (c : Finset Share) : Prop where
  | undecided
      (hWaiting :
        ∀ i o reply, Contends calls sessionId i o →
          w.stages[i]? ≠ some (.answered reply))
      (hOld :
        ∀ x ∈ c, x.sessionId = sessionId → x ∈ stored)
  | won
      (hWinner : OneWinner calls sessionId w)

section Verdicts

variable {calls : List Call}
variable {sessionId : String}
variable {stored c c' : Finset Share}
variable {entries : List (Entry Crowd Nat)}
variable {w : Crowd}
variable {event : Event Nat}
variable {stage stage' : Stage}

/-
  A share that does not end stays over a step that neither
  claims its session nor deletes it by name.
-/
theorem mem_of_move
    (h : Sound calls stored entries w c)
    (hStage : w.stages[event.call]? = some stage)
    (hMove : Move event.now c stage stage' c')
    {x : Share}
    (hx : x ∈ c)
    (hEndless : x.expiresAt = none)
    (hOther :
      ∀ y, stage = .claiming y → y.sessionId ≠ x.sessionId)
    (hSpared : ¬stage.Deletes x) :
    x ∈ c' := by
  cases hMove with
  | @claimed y =>
      apply (Collection.mem_put_iff _ _ _).mpr
      refine Or.inr ⟨hx, ?_, (hOther y rfl).symm⟩
      intro hToken
      exact
        (h.members hx).2
          ⟨event.call, y, hStage, hToken.symm⟩
  | deleted => exact Finset.mem_filter.mpr ⟨hx, hSpared⟩
  | @performed _ call reply hUndivided hStep =>
      have hLive := x.isExpired_of_none event.now hEndless
      apply hStep.mem_of_live hx hLive
      · cases call with
        | deleteSession i => exact hSpared ∘ Eq.symm
        | deleteToken t => exact hSpared ∘ Eq.symm
        | create draw o => cases hUndivided
        | revoke token requester => cases hUndivided
        | _ => exact id
      · intro y hIssued
        rcases create_of_issued hIssued with ⟨_, _, rfl, _⟩
        cases hUndivided
  | _ => exact hx

/-
  A step that gives no contender a reply and leaves the
  shares of the session alone keeps the verdict.
-/
theorem Verdict.keep
    (hVerdict : Verdict calls sessionId stored w c)
    (h : w.registry.store.Represents c)
    (h' : (w.next event).registry.store.Represents c')
    (hReplies :
      ∀ i o reply, Contends calls sessionId i o →
        ((w.next event).stages[i]? =
            some (.answered reply) ↔
          w.stages[i]? = some (.answered reply)))
    (hShares :
      ∀ x, x.sessionId = sessionId →
        (x ∈ c' → x ∈ c) ∧
          (x.expiresAt = none → x ∈ c → x ∈ c')) :
    Verdict calls sessionId stored (w.next event) c' := by
  cases hVerdict with
  | undecided hWaiting hOld =>
      apply Verdict.undecided
      · intro i o reply hContends hReplied
        exact
          hWaiting i o reply hContends
            ((hReplies i o reply hContends).mp hReplied)
      · intro x hx hSession
        exact hOld x ((hShares x hSession).1 hx) hSession
  | won hWinner =>
      rcases hWinner with
        ⟨i, o, x, hContends, hWon, hHolds, hSession,
          hCreator, hEndless, hLosers⟩
      rw [← h.mem_iff] at hHolds
      have hStays :=
        (hShares x hSession).2 hEndless hHolds
      refine
        Verdict.won
          ⟨i, o, x, hContends,
            (hReplies i o _ hContends).mpr hWon,
            (h'.mem_iff x).mp hStays, hSession, hCreator,
            hEndless, ?_⟩
      intro j o' reply hOther hContends' hReplied
      exact
        hLosers j o' reply hOther hContends'
          ((hReplies j o' reply hContends').mp hReplied)

/- How far a contender can have come. -/
theorem stage_of_contender
    (h : Sound calls stored entries w c)
    (hContest : Contest calls sessionId)
    {i : Nat}
    {o : Order}
    (hContends : Contends calls sessionId i o)
    (hStage : w.stages[i]? = some stage) :
    (∃ draw, stage = .asked (.create draw o)) ∨
      (∃ x, stage = .claiming x ∧
        x.sessionId = sessionId ∧
          x.createdBy = o.createdBy ∧
            x.expiresAt = none) ∨
        ∃ reply, stage = .answered reply := by
  rcases hContends.1 with ⟨draw, hCall⟩
  rcases h.serves hStage with ⟨call, hCall', hServes⟩
  rw [hCall] at hCall'
  cases hCall'
  cases hServes with
  | asked => exact Or.inl ⟨draw, rfl⟩
  | @claiming _ _ now token x _ hShare =>
      rw [share?_of_endless (hContest.endless hContends)]
        at hShare
      cases hShare
      exact
        Or.inr (Or.inl ⟨_, rfl, hContends.2.2, rfl, rfl⟩)
  | answered => exact Or.inr (Or.inr ⟨_, rfl⟩)

/- Who does not contend for a session does not claim it. -/
theorem Sound.session_ne_of_claiming
    (h : Sound calls stored entries w c)
    {i : Nat}
    (hOther : ∀ o, ¬Contends calls sessionId i o)
    {y : Share}
    (hStage : w.stages[i]? = some (.claiming y)) :
    y.sessionId ≠ sessionId := by
  rcases h.serves hStage with ⟨call, hCall, hServes⟩
  cases hServes with
  | @claiming draw o _ _ _ hFault hShare =>
      intro hSession
      apply hOther o
      refine ⟨⟨draw, hCall⟩, hFault, ?_⟩
      rw [← (Order.share?_fields hShare).2.1]
      exact hSession

/- The share of a winner holds the session against others. -/
theorem OneWinner.held
    (hWinner : OneWinner calls sessionId w)
    (h : w.registry.store.Represents c)
    (hContest : Contest calls sessionId)
    {i : Nat}
    {o : Order}
    (hContends : Contends calls sessionId i o)
    {x : Share}
    (hStage : w.stages[i]? = some (.claiming x))
    (hSession : x.sessionId = sessionId)
    (hCreator : x.createdBy = o.createdBy)
    (now : Instant) :
    Held c now x := by
  rcases hWinner with
    ⟨j, o', y, hContends', hWon, hHolds, hSession', hCreator',
      hEndless, _⟩
  refine
    ⟨y, (h.mem_iff y).mpr hHolds,
      hSession'.trans hSession.symm, ?_,
      y.isExpired_of_none now hEndless⟩
  intro hSame
  have hPlace : j = i := by
    apply hContest.rivals hContends' hContends
    rw [← hCreator', hSame, hCreator]
  rw [hPlace, hStage] at hWon
  cases hWon

/- The first to claim a session that is free wins. -/
theorem Verdict.claimed
    (hVerdict : Verdict calls sessionId stored w c)
    (h : w.registry.store.Represents c)
    (hContest : Contest calls sessionId)
    {o : Order}
    (hContends : Contends calls sessionId event.call o)
    {x : Share}
    (hStage : w.stages[event.call]? = some (.claiming x))
    (hSession : x.sessionId = sessionId)
    (hCreator : x.createdBy = o.createdBy)
    (hEndless : x.expiresAt = none)
    (hFree : ¬Held c event.now x)
    (h' :
      (w.next event).registry.store.Represents (put c x))
    (hStages :
      (w.next event).stages =
        w.stages.set event.call
          (.answered (.ok (.share x)))) :
    OneWinner calls sessionId (w.next event) := by
  cases hVerdict with
  | undecided hWaiting _ =>
      refine
        ⟨event.call, o, x, hContends, ?_, ?_, hSession,
          hCreator, hEndless, ?_⟩
      · rw [hStages]
        exact
          List.getElem?_set_self
            (List.getElem?_eq_some_iff.mp hStage).1
      · rw [← h'.mem_iff]
        exact Finset.mem_insert_self x _
      · intro j o' reply hOther hContends' hReplied
        rw [hStages, List.getElem?_set_ne hOther.symm]
          at hReplied
        exact absurd hReplied (hWaiting j o' reply hContends')
  | won hWinner =>
      exact
        absurd
          (hWinner.held h hContest hContends hStage hSession
            hCreator event.now) hFree

/- Who claims a session that is held has lost. -/
theorem Verdict.refused
    (hVerdict : Verdict calls sessionId stored w c)
    (h : w.registry.store.Represents c)
    {x : Share}
    (hStage : w.stages[event.call]? = some (.claiming x))
    (hSession : x.sessionId = sessionId)
    (hHeld : Held c event.now x)
    (hLapsed :
      ∀ y ∈ stored, y.sessionId = sessionId →
        y.isExpired event.now = true)
    (h' : (w.next event).registry.store.Represents c)
    (hStages :
      (w.next event).stages =
        w.stages.set event.call
          (.answered (.error .notFound))) :
    OneWinner calls sessionId (w.next event) := by
  cases hVerdict with
  | undecided _ hOld =>
      rcases hHeld with ⟨y, hy, hSame, _, hLive⟩
      have hHere := hSame.trans hSession
      rw [hLapsed y (hOld y hy hHere) hHere] at hLive
      exact absurd hLive.symm Bool.false_ne_true
  | won hWinner =>
      rcases hWinner with
        ⟨i, o, y, hContends, hWon, hHolds, hRest⟩
      rcases hRest with
        ⟨hSession', hCreator, hEndless, hLosers⟩
      have hOther : event.call ≠ i := by
        rintro rfl
        rw [hStage] at hWon
        cases hWon
      refine
        ⟨i, o, y, hContends, ?_, ?_, hSession', hCreator,
          hEndless, ?_⟩
      · rw [hStages, List.getElem?_set_ne hOther]
        exact hWon
      · rw [← h'.mem_iff, h.mem_iff]
        exact hHolds
      · intro j o' reply hNe hContends' hReplied
        rcases stage_next_cases hStages hReplied with
          ⟨_, hReply⟩ | ⟨_, hBefore⟩
        · cases hReply
          rfl
        · exact hLosers j o' reply hNe hContends' hBefore

/-
  A step of a contender: it mints its share, and wins or
  loses when it claims.
-/
theorem Verdict.next_of_contender
    (hVerdict : Verdict calls sessionId stored w c)
    (h : Sound calls stored entries w c)
    (hContest : Contest calls sessionId)
    {o : Order}
    (hContends : Contends calls sessionId event.call o)
    (hLapsed :
      ∀ y ∈ stored, y.sessionId = sessionId →
        y.isExpired event.now = true)
    (hStage : w.stages[event.call]? = some stage)
    (hMove : Move event.now c stage stage' c')
    (h' : (w.next event).registry.store.Represents c')
    (hStages :
      (w.next event).stages =
        w.stages.set event.call stage') :
    Verdict calls sessionId stored (w.next event) c' := by
  rcases stage_of_contender h hContest hContends hStage with
    ⟨draw, rfl⟩ |
      ⟨x, rfl, hSession, hCreator, hEndless⟩ | ⟨reply, rfl⟩
  · cases hMove with
    | incomplete hFault =>
        rw [hContends.2.1] at hFault
        cases hFault
    | endless hShare =>
        rw [share?_of_endless (hContest.endless hContends)]
          at hShare
        cases hShare
    | minted =>
        apply hVerdict.keep h.represents h'
        · intro i _ reply _
          rw [hStages]
          by_cases hSame : event.call = i
          · subst hSame
            rw [hStage, List.getElem?_set_self
              (List.getElem?_eq_some_iff.mp hStage).1]
            simp
          · rw [List.getElem?_set_ne hSame]
        · exact fun _ _ => ⟨id, fun _ => id⟩
    | performed hUndivided => cases hUndivided
  · cases hMove with
    | claimed hFree =>
        exact
          Verdict.won
            (hVerdict.claimed h.represents hContest hContends
              hStage hSession hCreator hEndless hFree h'
              hStages)
    | held hHeld =>
        exact
          Verdict.won
            (hVerdict.refused h.represents hStage hSession
              hHeld hLapsed h' hStages)
  · cases hMove with
    | rested =>
        apply hVerdict.keep h.represents h'
        · intro i _ reply' _
          rcases List.getElem?_eq_some_iff.mp hStage with
            ⟨hBound, hGet⟩
          rw [hStages, ← hGet, List.set_getElem_self]
        · exact fun _ _ => ⟨id, fun _ => id⟩

/-
  Every step keeps the verdict, unless it deletes a share of
  the session.
-/
theorem Verdict.next
    (hVerdict : Verdict calls sessionId stored w c)
    (h : Sound calls stored entries w c)
    (hContest : Contest calls sessionId)
    (hLapsed :
      ∀ y ∈ stored, y.sessionId = sessionId →
        y.isExpired event.now = true)
    (hSpared :
      ∀ stage, w.stages[event.call]? = some stage →
        ∀ x ∈ c, x.sessionId = sessionId →
          ¬stage.Deletes x)
    (h' : (w.next event).registry.store.Represents c') :
    Verdict calls sessionId stored (w.next event) c' := by
  rcases next_cases h.represents event with
    ⟨hSame, _⟩ |
      ⟨stage, stage', c'', hStage, hMove, h'', hStages⟩
  · rw [hSame] at h' ⊢
    rw [h'.unique h.represents]
    exact hVerdict
  · obtain rfl := h'.unique h''
    by_cases hRival :
        ∃ o, Contends calls sessionId event.call o
    · rcases hRival with ⟨o, hContends⟩
      exact
        hVerdict.next_of_contender h hContest hContends
          hLapsed hStage hMove h' hStages
    · push Not at hRival
      apply hVerdict.keep h.represents h'
      · intro i o reply hContends
        have hOther : event.call ≠ i := by
          rintro rfl
          exact hRival o hContends
        rw [hStages, List.getElem?_set_ne hOther]
      · intro x hSession
        have hOther :
            ∀ y, stage = .claiming y →
              y.sessionId ≠ x.sessionId := by
          rintro y rfl
          rw [hSession]
          exact h.session_ne_of_claiming hRival hStage
        constructor
        · intro hx
          rcases mem_or_claimed hMove hx with
            hOld | ⟨hClaimed, _⟩
          · exact hOld
          · exact absurd rfl (hOther x hClaimed)
        · intro hEndless hx
          exact
            mem_of_move h hStage hMove hx hEndless hOther
              (hSpared stage hStage x hx hSession)

end Verdicts

------------------------------------------------------------
-- Whole Runs
------------------------------------------------------------

/- Is no share of a session deleted by name in a history? -/
def Undisturbed
    (sessionId : String)
    (entries : List (Entry Crowd Nat)) : Prop :=
  ∀ e ∈ entries, ∀ stage,
    e.before.stages[e.call]? = some stage →
      ∀ x, e.before.registry.store.Holds x →
        x.sessionId = sessionId → ¬stage.Deletes x

/- Where no call deletes by name, nothing is deleted so. -/
theorem undisturbed_of_calls
    {r : Registry}
    {stored : Finset Share}
    (h : r.store.Represents stored)
    {calls : List Call}
    {events : List (Event Nat)}
    (hFresh :
      Fresh stored (log next (ofCalls r calls) events))
    (hCalls : ∀ call ∈ calls, call.deletes = false)
    (sessionId : String) :
    Undisturbed sessionId
      (log next (ofCalls r calls) events) := by
  have hServes :
      History.Throughout
        (fun before e =>
          Fresh stored before →
            ∀ stage,
              e.before.stages[e.call]? = some stage →
                ∃ call ∈ calls, Serves call stage)
        (log next (ofCalls r calls) events) := by
    apply History.throughout_log
    intro earlier event hBefore stage hStage
    rcases sound_run h calls earlier hBefore with
      ⟨c, hSound⟩
    rcases hSound.serves hStage with
      ⟨call, hCall, hServes⟩
    exact ⟨call, List.mem_of_getElem? hCall, hServes⟩
  intro e he stage hStage x _ _
  rcases List.append_of_mem he with ⟨before, after, hSplit⟩
  rw [hSplit] at hFresh
  rcases hServes before e after hSplit hFresh.of_append stage
      hStage with
    ⟨call, hCall, hServed⟩
  exact hServed.not_deletes (hCalls call hCall) x

/- The verdict on a contest after any steps. -/
theorem verdict_run
    {r : Registry}
    {stored : Finset Share}
    (h : r.store.Represents stored)
    {calls : List Call}
    {sessionId : String}
    (hContest : Contest calls sessionId)
    (events : List (Event Nat))
    (hFresh :
      Fresh stored (log next (ofCalls r calls) events))
    (hLapsed :
      ∀ y ∈ stored, y.sessionId = sessionId →
        ∀ event ∈ events, y.isExpired event.now = true)
    (hSpared :
      Undisturbed sessionId
        (log next (ofCalls r calls) events)) :
    ∃ c, Sound calls stored
        (log next (ofCalls r calls) events)
        (run next (ofCalls r calls) events) c ∧
      Verdict calls sessionId stored
        (run next (ofCalls r calls) events) c := by
  induction events using List.reverseRecOn with
  | nil =>
      refine ⟨stored, sound_ofCalls h calls, ?_⟩
      apply Verdict.undecided
      · intro i o reply _ hReplied
        dsimp only [run, List.foldl_nil, ofCalls] at hReplied
        rw [List.getElem?_map] at hReplied
        rcases Option.map_eq_some_iff.mp hReplied with
          ⟨_, _, hSame⟩
        cases hSame
      · exact fun x hx _ => hx
  | append_singleton events event ih =>
      rw [History.log_append_singleton] at hFresh hSpared ⊢
      rw [History.run_append_singleton]
      have hLapsedBefore :
          ∀ y ∈ stored, y.sessionId = sessionId →
            ∀ earlier ∈ events,
              y.isExpired earlier.now = true := by
        intro y hy hSession earlier hEarlier
        exact
          hLapsed y hy hSession earlier
            (List.mem_append_left _ hEarlier)
      have hSparedBefore :
          Undisturbed sessionId
            (log next (ofCalls r calls) events) := by
        intro e he
        exact hSpared e (List.mem_append_left _ he)
      rcases ih hFresh.of_append hLapsedBefore hSparedBefore
        with ⟨c, hSound, hVerdict⟩
      rcases hSound.next hFresh with ⟨c', hSound'⟩
      refine ⟨c', hSound', ?_⟩
      apply
        hVerdict.next hSound hContest _ _ hSound'.represents
      · intro y hy hSession
        exact hLapsed y hy hSession event (by simp)
      · intro stage hStage x hx
        exact
          hSpared
            ⟨run next (ofCalls r calls) events, event.now,
              event.call⟩ (by simp) stage hStage x
            ((hSound.represents.mem_iff x).mp hx)

/-
  What holds of any number of calls whose steps overlap in
  any order and at any times, if no token is drawn twice.
  A session has one share at most.  What a revocation
  deletes has its token and is by who asked for it.  A token
  that was revoked never resolves again.  Every call has its
  reply after two steps of its own.  If other creators each
  contend for a session with shares that do not end, no
  share of the session is live at first, and none is deleted
  by name, then as soon as one of them has a reply, one has
  won and holds the session, and all others that have their
  reply have lost.
-/
theorem overlapping_calls_safe
    {r : Registry}
    {stored : Finset Share}
    (hStored : r.store.Represents stored)
    (calls : List Call)
    (events : List (Event Nat))
    (hFresh :
      Fresh stored (log next (ofCalls r calls) events)) :
    (∀ x y : Share,
      (run next (ofCalls r calls)
          events).registry.store.Holds x →
        (run next (ofCalls r calls)
            events).registry.store.Holds y →
          x.sessionId = y.sessionId → x = y) ∧
      (∀ first event second,
        events = first ++ event :: second →
          ∀ token requester : String,
            calls[event.call]? =
                some (.revoke token requester) →
              ∀ x,
                (run next (ofCalls r calls)
                    first).registry.store.Holds x →
                  ¬((run next (ofCalls r calls) first).next
                      event).registry.store.Holds x →
                    x.token = token ∧
                      x.createdBy = requester) ∧
        (∀ first second (i : Nat) (token requester : String),
          events = first ++ second →
            calls[i]? = some (.revoke token requester) →
              (run next (ofCalls r calls)
                  first).stages[i]? =
                  some (.answered (.ok .nothing)) →
                ∀ now,
                  ((run next (ofCalls r calls)
                      events).registry.resolve
                      now token).1 =
                    .error .notFound) ∧
          (∀ (i : Nat) (call : Call),
            calls[i]? = some call →
              2 ≤ events.countP (fun e => e.call = i) →
                ∃ reply,
                  (run next (ofCalls r calls)
                      events).stages[i]? =
                    some (.answered reply)) ∧
            ∀ sessionId,
              Contest calls sessionId →
                (∀ x, r.store.Holds x →
                  x.sessionId = sessionId →
                    ∀ event ∈ events,
                      x.isExpired event.now = true) →
                  Undisturbed sessionId
                      (log next (ofCalls r calls) events) →
                    ∀ i o reply,
                      Contends calls sessionId i o →
                        (run next (ofCalls r calls)
                            events).stages[i]? =
                            some (.answered reply) →
                          OneWinner calls sessionId
                            (run next (ofCalls r calls)
                              events) := by
  rcases sound_run hStored calls events hFresh with
    ⟨c, hSound⟩
  refine ⟨?_, ?_, ?_, ?_, ?_⟩
  · intro x y hx hy hSession
    rw [← hSound.represents.mem_iff] at hx hy
    exact hSound.represents.eq_of_session_eq hx hy hSession
  · rintro first event second rfl token requester hCall x hx
      hLost
    rw [History.log_append] at hFresh
    have hBefore := hFresh.of_append
    rcases sound_run hStored calls first hBefore with
      ⟨c₁, hSound₁⟩
    rcases next_cases hSound₁.represents event with
      ⟨hSame, _⟩ | ⟨_, _, c₂, _, _, h₂, _⟩
    · rw [hSame] at hLost
      exact absurd hx hLost
    · rw [← hSound₁.represents.mem_iff] at hx
      rw [← h₂.mem_iff] at hLost
      exact
        hSound₁.creator_of_lost hBefore hStored.distinct
          hCall h₂ hx hLost
  · rintro first second i token requester rfl hCall hRevoked
      now
    rw [History.run_append] at hSound ⊢
    have hStill := answered_run second hRevoked
    exact
      resolve_of_absent hSound.represents now
        (hSound.revoked hCall hStill).2.2
  · intro i call hCall hSteps
    exact answered_of_steps hStored hCall hSteps
  · intro sessionId hContest hLapsed hSpared i o reply
      hContends hReplied
    simp only [← hStored.mem_iff] at hLapsed
    rcases verdict_run hStored hContest events hFresh hLapsed
        hSpared with
      ⟨c', _, hVerdict⟩
    cases hVerdict with
    | undecided hWaiting =>
        exact
          absurd hReplied (hWaiting i o reply hContends)
    | won hWinner => exact hWinner

/-
  Two users order shares of one session, and a third call
  looks for the token of the second.
-/
def overlappingOrders : List Call :=
  [.create (some (Vector.replicate 16 1)) ⟨"s", "ann", none⟩,
   .create (some (Vector.replicate 16 2)) ⟨"s", "bob", none⟩,
   .resolve (Token.ofOctets (Vector.replicate 16 2))]

/- Who mints a share later claims the session first. -/
def overlappingSteps : List (Event Nat) :=
  [⟨⟨0⟩, 0⟩, ⟨⟨1⟩, 1⟩, ⟨⟨2⟩, 1⟩, ⟨⟨3⟩, 0⟩, ⟨⟨4⟩, 2⟩]

/- The second user wins, and the first is told so. -/
theorem oneWinner_overlappingOrders :
    Fresh ∅
        (log next (ofCalls empty overlappingOrders)
          overlappingSteps) ∧
      Contest overlappingOrders "s" ∧
        OneWinner overlappingOrders "s"
            (run next (ofCalls empty overlappingOrders)
              overlappingSteps) ∧
          (run next (ofCalls empty overlappingOrders)
              overlappingSteps).stages[0]? =
            some (.answered (.error .notFound)) := by
  have hFresh :
      Fresh ∅
        (log next (ofCalls empty overlappingOrders)
          overlappingSteps) := by
    constructor
    · decide
    · simp
  have hOrders :
      ∀ {i o}, Contends overlappingOrders "s" i o →
        i = 0 ∧ o = ⟨"s", "ann", none⟩ ∨
          i = 1 ∧ o = ⟨"s", "bob", none⟩ := by
    rintro i o ⟨⟨draw, hCall⟩, _⟩
    rcases i with _ | _ | _ | i
    · cases hCall
      exact Or.inl ⟨rfl, rfl⟩
    · cases hCall
      exact Or.inr ⟨rfl, rfl⟩
    · cases hCall
    · cases hCall
  have hContest : Contest overlappingOrders "s" := by
    constructor
    · intro i o hContends
      rcases hOrders hContends with ⟨_, rfl⟩ | ⟨_, rfl⟩ <;>
        rfl
    · intro i j o o' hContends hContends' hCreator
      rcases hOrders hContends with
        ⟨rfl, rfl⟩ | ⟨rfl, rfl⟩ <;>
        rcases hOrders hContends' with
          ⟨rfl, rfl⟩ | ⟨rfl, rfl⟩
      · rfl
      · exact absurd hCreator (by decide)
      · exact absurd hCreator (by decide)
      · rfl
  have hReplied :
      (run next (ofCalls empty overlappingOrders)
          overlappingSteps).stages[0]? =
        some (.answered (.error .notFound)) := by
    decide
  have hSpared :
      Undisturbed "s"
        (log next (ofCalls empty overlappingOrders)
          overlappingSteps) :=
    undisturbed_of_calls Store.represents_empty hFresh
      (by decide) "s"
  have hSafe :=
    overlapping_calls_safe Store.represents_empty
      overlappingOrders overlappingSteps hFresh
  refine ⟨hFresh, hContest, ?_, hReplied⟩
  apply hSafe.2.2.2.2 "s" hContest _ hSpared 0
    ⟨"s", "ann", none⟩ (.error .notFound) _ hReplied
  · intro x hx
    cases hx
  · exact ⟨⟨_, rfl⟩, rfl, rfl⟩

end Crowd

end Registry

end Share

end Gatehouse
