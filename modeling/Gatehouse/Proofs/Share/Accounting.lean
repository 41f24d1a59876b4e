import Gatehouse.Proofs.Share.Validity
import Mathlib.Algebra.Order.Group.Multiset

/-
  Every issued share is accounted for.

  A share that was issued is stored, or it left the store in
  one of four ways: it was found expired, it was revoked, a
  share took its place, or it was deleted.  No share is in
  two of these places, or in one of them twice.  So what is
  counted as issued is what is stored and what left.

  Key definitions include:
    * `Share.Registry.lapsedBy`
    * `Share.Registry.revokedBy`
    * `Share.Registry.supersededBy`
    * `Share.Registry.deletedBy`
    * `Share.Registry.departedBy`

  Main results include:
    * `Share.Store.Represents.coe_values`
    * `Share.Registry.Step.balance`
    * `Share.Registry.run_balance`
    * `Share.Registry.run_tally`
    * `Share.Registry.run_accounts`
-/

namespace Gatehouse

namespace Share

------------------------------------------------------------
-- Parts of a Set
------------------------------------------------------------

namespace Collection

variable {c : Finset Share}

/- One share, and the others. -/
theorem val_eq_erase_add
    {x : Share}
    (hx : x ∈ c) :
    c.val = (c.erase x).val + {x} := by
  rw [Finset.erase_val, add_comm, Multiset.singleton_add]
  exact (Multiset.cons_erase hx).symm

/-
  A set is what was found under a mark and what has another
  mark, if one share at most is found.
-/
theorem val_eq_found_add
    (mark : Share → String)
    {key : String}
    {found : Option Share}
    (hFound :
      ∀ x, found = some x ↔ x ∈ c ∧ mark x = key) :
    c.val =
      (found.toList : Multiset Share) +
        (c.filter (fun y => mark y ≠ key)).val := by
  cases found with
  | none =>
      have hAll : ∀ y ∈ c, mark y ≠ key := by
        intro y hy hMark
        have hSome := (hFound y).mpr ⟨hy, hMark⟩
        cases hSome
      rw [Finset.filter_true_of_mem hAll]
      simp
  | some x =>
      rcases (hFound x).mp rfl with ⟨hx, rfl⟩
      have hOnly : ∀ y ∈ c, mark y = mark x → y = x := by
        intro y hy hMark
        have hSame := (hFound y).mpr ⟨hy, hMark⟩
        exact (Option.some.inj hSame).symm
      rw [Store.Represents.filter_ne_eq_erase mark hOnly,
        val_eq_erase_add hx]
      exact add_comm _ _

end Collection

namespace Store.Represents

variable {s : Store} {c : Finset Share}

/- The values of the first index are the members, once each. -/
theorem coe_values
    (h : s.Represents c) :
    (s.byToken.values : Multiset Share) = c.val := by
  rw [← h.toFinset_values, List.toFinset_val,
    h.nodup_values.dedup]

/- The share of a token, and the others. -/
theorem val_eq_token_add
    (h : s.Represents c)
    (token : String) :
    c.val =
      ((s.byToken.get? token).toList : Multiset Share) +
        (c.filter (fun y => y.token ≠ token)).val :=
  Collection.val_eq_found_add Share.token (h.token_iff token)

/- The share of a session, and the others. -/
theorem val_eq_session_add
    (h : s.Represents c)
    (sessionId : String) :
    c.val =
      ((s.current? sessionId).toList : Multiset Share) +
        (c.filter (fun y =>
          y.sessionId ≠ sessionId)).val :=
  Collection.val_eq_found_add Share.sessionId
    (h.current?_eq_some_iff sessionId)

/- What is put in with a new token takes the place of one. -/
theorem put_val
    (h : s.Represents c)
    (x : Share)
    (hNew : ∀ y ∈ c, y.token ≠ x.token) :
    c.val + {x} =
      (Collection.put c x).val +
        ((s.current? x.sessionId).toList :
          Multiset Share) := by
  have hLeft :
      c.filter (fun y =>
        y.token ≠ x.token ∧ y.sessionId ≠ x.sessionId) =
        c.filter (fun y => y.sessionId ≠ x.sessionId) := by
    apply Finset.filter_congr
    intro y hy
    exact and_iff_right (hNew y hy)
  have hOut :
      x ∉ c.filter (fun y => y.sessionId ≠ x.sessionId) := by
    intro hx
    exact (Finset.mem_filter.mp hx).2 rfl
  unfold Collection.put
  rw [hLeft, Finset.insert_val_of_notMem hOut,
    h.val_eq_session_add x.sessionId, Multiset.cons_add,
    ← Multiset.singleton_add]
  ac_rfl

end Store.Represents

namespace Registry

open History (Event Entry run log)
open Store (Reply)

------------------------------------------------------------
-- How Shares Leave
------------------------------------------------------------

/- The shares that a call finds expired and removes. -/
def lapsedBy
    (e : Entry Registry Call) : List Share :=
  match e.call with
  | .resolve token =>
      ((e.before.store.byToken.get? token).filter
        (·.isExpired e.now)).toList
  | .cleanup =>
      e.before.store.byToken.values.filter
        (·.isExpired e.now)
  | _ => []

/- Is a call a revocation that succeeds? -/
def revokes
    (e : Entry Registry Call) : Bool :=
  match e.call with
  | .revoke _ _ => replyOf e = .ok .nothing
  | _ => false

/- The share that a call revokes. -/
def revokedBy
    (e : Entry Registry Call) : List Share :=
  match e.call with
  | .revoke token _ =>
      if replyOf e = .ok .nothing then
        (e.before.store.byToken.get? token).toList
      else
        []
  | _ => []

/- The share whose place an issued share takes. -/
def supersededBy
    (e : Entry Registry Call) : List Share :=
  match e.call with
  | .create _ o =>
      if (issued? (replyOf e) e.call).isSome then
        (e.before.store.current? o.sessionId).toList
      else
        []
  | _ => []

/- Does a call issue a share in the place of another? -/
def replaces
    (e : Entry Registry Call) : Bool :=
  match e.call with
  | .create _ o =>
      (issued? (replyOf e) e.call).isSome &&
        (e.before.store.current? o.sessionId).isSome
  | _ => false

/- Does a call delete, whoever asks? -/
def Call.isDeletion :
    Call → Bool
  | .deleteSession _ => true
  | .deleteToken _ => true
  | _ => false

/- The share that a call deletes. -/
def deletedBy
    (e : Entry Registry Call) : List Share :=
  match e.call with
  | .deleteSession sessionId =>
      (e.before.store.current? sessionId).toList
  | .deleteToken token =>
      (e.before.store.byToken.get? token).toList
  | _ => []

/- The shares that leave the store in a call. -/
def departedBy
    (e : Entry Registry Call) : Multiset Share :=
  lapsedBy e + revokedBy e + supersededBy e + deletedBy e

section Departures

variable (r : Registry)
variable (now : Instant)

/- In a creation, shares leave by being superseded. -/
theorem departedBy_create
    (draw : Draw)
    (o : Order) :
    departedBy ⟨r, now, .create draw o⟩ =
      supersededBy ⟨r, now, .create draw o⟩ := by
  simp [departedBy, lapsedBy, revokedBy, deletedBy]

/- In a resolution, shares leave by lapsing. -/
theorem departedBy_resolve
    (token : String) :
    departedBy ⟨r, now, .resolve token⟩ =
      lapsedBy ⟨r, now, .resolve token⟩ := by
  simp [departedBy, revokedBy, supersededBy, deletedBy]

/- In a revocation, shares leave by being revoked. -/
theorem departedBy_revoke
    (token requester : String) :
    departedBy ⟨r, now, .revoke token requester⟩ =
      revokedBy ⟨r, now, .revoke token requester⟩ := by
  simp [departedBy, lapsedBy, supersededBy, deletedBy]

/- In a cleanup, shares leave by lapsing. -/
theorem departedBy_cleanup :
    departedBy ⟨r, now, .cleanup⟩ =
      lapsedBy ⟨r, now, .cleanup⟩ := by
  simp [departedBy, revokedBy, supersededBy, deletedBy]

end Departures

/- A revocation that succeeds removes one share. -/
theorem length_revokedBy
    (e : Entry Registry Call) :
    (revokedBy e).length = if revokes e then 1 else 0 := by
  rcases e with ⟨r, now, call⟩
  cases call with
  | revoke token requester =>
      simp only [revokedBy, revokes, replyOf, perform, revoke,
        Store.findToken]
      cases hFound : r.store.byToken.get? token with
      | none => rfl
      | some x =>
          dsimp only
          split <;> simp [Except.map]
  | _ => rfl

/- A share takes the place of one share at most. -/
theorem length_supersededBy
    (e : Entry Registry Call) :
    (supersededBy e).length =
      if replaces e then 1 else 0 := by
  rcases e with ⟨r, now, call⟩
  cases call with
  | create draw o =>
      by_cases hIssued :
          (issued? (replyOf ⟨r, now, .create draw o⟩)
            (.create draw o)).isSome = true
      · cases hCurrent : r.store.current? o.sessionId <;>
          simp [supersededBy, replaces, hIssued, hCurrent]
      · simp [supersededBy, replaces, hIssued]
  | _ => rfl

/- Only deletions delete. -/
theorem deletedBy_eq_nil
    {e : Entry Registry Call}
    (h : e.call.isDeletion = false) :
    deletedBy e = [] := by
  rcases e with ⟨r, now, call⟩
  cases call with
  | deleteSession sessionId => cases h
  | deleteToken token => cases h
  | _ => rfl

------------------------------------------------------------
-- One Call at a Time
------------------------------------------------------------

variable {r : Registry} {c c' : Finset Share}

/-
  What was stored before a call and what the call issued is
  what is stored after it and what left in it, if the call
  issues a new token.
-/
theorem Step.balance
    (h : r.store.Represents c)
    {now : Instant}
    {call : Call}
    {reply : Reply}
    (hReply : replyOf ⟨r, now, call⟩ = reply)
    (hStep : Step now c call reply c')
    (hNew :
      ∀ x, issued? reply call = some x →
        ∀ y ∈ c, y.token ≠ x.token) :
    c.val + ((issued? reply call).toList : Multiset Share) =
      c'.val + departedBy ⟨r, now, call⟩ := by
  cases hStep with
  | incomplete hFault =>
      rw [departedBy_create]
      simp [issued?, supersededBy, hReply]
  | endless hFault hShare =>
      rw [departedBy_create]
      simp [issued?, supersededBy, hReply]
  | held hFault hShare hHeld =>
      rw [departedBy_create]
      simp [issued?, supersededBy, hReply]
  | @created draw o token x hFault hShare hFree =>
      have hParts := h.put_val x (hNew x rfl)
      rw [(Order.share?_fields hShare).2.1] at hParts
      rw [departedBy_create]
      simpa [issued?, supersededBy, hReply] using hParts
  | @resolved token x hx hToken hLive =>
      have hFound := (h.token_iff token x).mpr ⟨hx, hToken⟩
      rw [departedBy_resolve]
      simp [issued?, lapsedBy, hFound, hLive, Option.filter]
  | @expired token x hx hToken hExpired =>
      have hFound := (h.token_iff token x).mpr ⟨hx, hToken⟩
      rw [departedBy_resolve, Collection.val_eq_erase_add hx]
      simp [issued?, lapsedBy, hFound, hExpired,
        Option.filter]
  | @unresolved token hAbsent =>
      have hNone := (h.token_eq_none_iff token).mpr hAbsent
      rw [departedBy_resolve]
      simp [issued?, lapsedBy, hNone]
  | foundToken hFound => rfl
  | foundSession hFound => rfl
  | @revoked x requester hx hOwn =>
      have hFound := (h.token_iff x.token x).mpr ⟨hx, rfl⟩
      rw [departedBy_revoke, Collection.val_eq_erase_add hx]
      simp [issued?, revokedBy, hReply, hFound]
  | notRevoked hOthers =>
      rw [departedBy_revoke]
      simp [issued?, revokedBy, hReply]
  | @deletedSession sessionId =>
      have hParts := h.val_eq_session_add sessionId
      rw [add_comm] at hParts
      simpa [issued?, departedBy, lapsedBy, revokedBy,
        supersededBy, deletedBy] using hParts
  | @deletedToken token =>
      have hParts := h.val_eq_token_add token
      rw [add_comm] at hParts
      simpa [issued?, departedBy, lapsedBy, revokedBy,
        supersededBy, deletedBy] using hParts
  | cleaned =>
      have hParts :=
        Multiset.filter_add_not
          (fun y : Share => y.isExpired now = true) c.val
      have hLapsed :
          (lapsedBy ⟨r, now, .cleanup⟩ : Multiset Share) =
            c.val.filter (fun y =>
              y.isExpired now = true) := by
        rw [← h.coe_values, Multiset.filter_coe]
        simp [lapsedBy]
      rw [add_comm] at hParts
      rw [departedBy_cleanup, hLapsed]
      simpa [issued?] using hParts.symm

/- A call counts the share that it issues. -/
theorem issued_perform
    (r : Registry)
    (now : Instant)
    (call : Call) :
    (r.perform now call).2.tally.issued =
      r.tally.issued +
        (issued? (replyOf ⟨r, now, call⟩)
          call).toList.length := by
  cases call with
  | create draw o =>
      simp only [replyOf, perform, create]
      cases hFault : o.fault? with
      | some e => rfl
      | none =>
          dsimp only
          cases hShare :
              o.share? now (r.minter.mint now draw).1 with
          | error e => rfl
          | ok x =>
              dsimp only [accept]
              split <;> rfl
  | resolve token =>
      simp only [perform, resolve, issued?]
      split <;> rfl
  | findToken token => rfl
  | findSession sessionId => rfl
  | revoke token requester =>
      simp only [perform, revoke, issued?]
      split
      · rfl
      · split <;> rfl
  | deleteSession sessionId => rfl
  | deleteToken token => rfl
  | cleanup => rfl

/- A call counts the shares that it finds expired. -/
theorem expired_perform
    (r : Registry)
    (now : Instant)
    (call : Call) :
    (r.perform now call).2.tally.expired =
      r.tally.expired +
        (lapsedBy ⟨r, now, call⟩).length := by
  cases call with
  | create draw o =>
      simp only [perform, create]
      split
      · rfl
      · split
        · rfl
        · dsimp only [accept]
          split <;> rfl
  | resolve token =>
      simp only [perform, resolve, Store.findLive, lapsedBy]
      cases hFound : r.store.byToken.get? token with
      | none => rfl
      | some x =>
          cases hExpired : x.isExpired now with
          | false => simp [hExpired, Option.filter]
          | true =>
              simp [hExpired, Option.filter, countExpired]
  | findToken token => rfl
  | findSession sessionId => rfl
  | revoke token requester =>
      simp only [perform, revoke]
      split
      · rfl
      · split <;> rfl
  | deleteSession sessionId => rfl
  | deleteToken token => rfl
  | cleanup =>
      simp [perform, cleanup, countExpired, Store.cleanup,
        Store.expiredTokens, lapsedBy]

------------------------------------------------------------
-- Runs
------------------------------------------------------------

/-
  What was issued in a run in which no token was drawn twice
  is what is stored and what left.
-/
theorem run_balance
    (events : List (Event Call))
    (hTokens :
      ((issuedIn (log next empty events)).map
        Share.token).Nodup) :
    ∃ c, (run next empty events).store.Represents c ∧
      (issuedIn (log next empty events) : Multiset Share) =
        c.val +
          ((log next empty events).map departedBy).sum := by
  induction events using List.reverseRecOn with
  | nil => exact ⟨∅, Store.represents_empty, rfl⟩
  | append_singleton events event ih =>
      rw [History.log_append_singleton,
        issuedIn_append_singleton] at hTokens ⊢
      rw [List.map_append, List.nodup_append] at hTokens
      rcases hTokens with ⟨hOldTokens, _, hDisjoint⟩
      rcases ih hOldTokens with ⟨c, h, hBalance⟩
      rcases perform_step h event.now event.call with
        ⟨c', h', hStep⟩
      refine ⟨c', ?_, ?_⟩
      · rw [History.run_append_singleton]
        exact h'
      · have hNew :
            ∀ x,
              issued?
                  (replyOf
                    ⟨run next empty events, event.now,
                      event.call⟩)
                  event.call = some x →
                ∀ y ∈ c, y.token ≠ x.token := by
          intro x hIssued y hy hSame
          have hOld :
              y ∈ issuedIn (log next empty events) := by
            rw [← Multiset.mem_coe, hBalance]
            exact Multiset.mem_add.mpr (Or.inl hy)
          apply hDisjoint y.token
            (List.mem_map_of_mem hOld) x.token
          · apply List.mem_map_of_mem
            rw [Option.mem_toList]
            exact hIssued
          · exact hSame
        have hLast := hStep.balance h rfl hNew
        rw [← Multiset.coe_add, hBalance, List.map_append,
          List.sum_append, List.map_singleton,
          List.sum_singleton, add_right_comm]
        calc
          c.val +
                (issued? (replyOf ⟨_, _, event.call⟩)
                  event.call).toList + _ =
              c'.val + departedBy ⟨_, _, event.call⟩ + _ :=
            congrArg (· + _) hLast
          _ = _ := by ac_rfl

/- What is counted is what was issued and what lapsed. -/
theorem run_tally
    (events : List (Event Call)) :
    (run next empty events).tally.issued =
        (issuedIn (log next empty events)).length ∧
      (run next empty events).tally.expired =
        ((log next empty events).flatMap lapsedBy).length := by
  induction events using List.reverseRecOn with
  | nil => exact ⟨rfl, rfl⟩
  | append_singleton events event ih =>
      rw [History.run_append_singleton,
        History.log_append_singleton,
        issuedIn_append_singleton, List.flatMap_append,
        List.length_append, List.length_append,
        List.flatMap_singleton, ← ih.1, ← ih.2]
      exact ⟨issued_perform _ _ _, expired_perform _ _ _⟩

/- All that left, by the way it took. -/
theorem sum_departedBy
    (entries : List (Entry Registry Call)) :
    (entries.map departedBy).sum =
      (entries.flatMap lapsedBy : Multiset Share) +
        entries.flatMap revokedBy +
        entries.flatMap supersededBy +
        entries.flatMap deletedBy := by
  induction entries with
  | nil => rfl
  | cons e entries ih =>
      simp only [List.map_cons, List.sum_cons, ih,
        departedBy, List.flatMap_cons, ← Multiset.coe_add]
      ac_rfl

section Accounts

variable {events : List (Event Call)}
variable
  (hCalls :
    ∀ event ∈ events, event.call.isDeletion = false)
variable
  (hTokens :
    ((issuedIn (log next empty events)).map
      Share.token).Nodup)

/- A run without deletions deletes nothing. -/
include hCalls in
theorem flatMap_deletedBy :
    (log next empty events).flatMap deletedBy = [] := by
  apply List.flatMap_eq_nil_iff.mpr
  intro e he
  rcases History.exists_split_of_mem_log he with
    ⟨first, event, second, hSplit, rfl⟩
  apply deletedBy_eq_nil
  apply hCalls event
  rw [hSplit]
  exact List.mem_append_right _ List.mem_cons_self

/- What was issued is what is stored and what left. -/
include hCalls hTokens in
theorem issuedIn_perm :
    (issuedIn (log next empty events)).Perm
      ((run next empty events).store.byToken.values ++
        (log next empty events).flatMap lapsedBy ++
        (log next empty events).flatMap revokedBy ++
        (log next empty events).flatMap supersededBy) := by
  rcases run_balance events hTokens with ⟨c, h, hBalance⟩
  rw [sum_departedBy, flatMap_deletedBy hCalls,
    ← h.coe_values] at hBalance
  rw [← Multiset.coe_eq_coe, hBalance]
  simp only [← Multiset.coe_add, Multiset.coe_nil,
    add_zero, add_assoc]

end Accounts

/-
  After a run without deletions in which no token was drawn
  twice, each share that was issued is stored, lapsed, was
  revoked or was superseded, and one of these only.  So the
  counts agree, and no share is counted as expired twice.
-/
theorem run_accounts
    (events : List (Event Call))
    (hCalls :
      ∀ event ∈ events, event.call.isDeletion = false)
    (hTokens :
      ((issuedIn (log next empty events)).map
        Share.token).Nodup) :
    let r := run next empty events
    let entries := log next empty events
    r.tally.issued =
        r.size + r.tally.expired +
          entries.countP revokes +
            entries.countP replaces ∧
      (issuedIn entries).Perm
          (r.store.byToken.values ++
            entries.flatMap lapsedBy ++
            entries.flatMap revokedBy ++
            entries.flatMap supersededBy) ∧
        r.tally.expired =
            (entries.flatMap lapsedBy).length ∧
          (entries.flatMap lapsedBy).Nodup := by
  intro r entries
  have hPerm := issuedIn_perm hCalls hTokens
  have hTally := run_tally events
  refine ⟨?_, hPerm, hTally.2, ?_⟩
  · have hLength := hPerm.length_eq
    have hSize : r.size = r.store.byToken.values.length := by
      simp [size, Store.size, Table.size, Table.values]
    rw [List.length_append, List.length_append,
      List.length_append, ← hTally.1, ← hTally.2, ← hSize,
      History.length_flatMap_eq_countP length_revokedBy,
      History.length_flatMap_eq_countP length_supersededBy]
      at hLength
    exact hLength
  · have hOnce := hPerm.nodup_iff.mp (hTokens.of_map _)
    rw [List.append_assoc, List.append_assoc] at hOnce
    exact hOnce.of_append_right.of_append_left

/- A draw of one octet all over. -/
def drawOf
    (octet : UInt8) : Draw :=
  some (Vector.replicate 16 octet)

/- The token of such a draw. -/
def tokenOf
    (octet : UInt8) : String :=
  Token.ofOctets (Vector.replicate 16 octet)

/-
  Five shares: one is resolved too late, one is revoked, one
  is superseded by another, which is cleaned up, and one
  stays.  The clock steps back twice.
-/
def everyWayOut : List (Event Call) :=
  [⟨⟨0⟩, .create (drawOf 1) ⟨"a", "ann", some 5⟩⟩,
   ⟨⟨0⟩, .create (drawOf 2) ⟨"b", "ann", none⟩⟩,
   ⟨⟨1⟩, .create (drawOf 3) ⟨"c", "ann", some 5⟩⟩,
   ⟨⟨2⟩, .create (drawOf 4) ⟨"c", "ann", some 5⟩⟩,
   ⟨⟨6⟩, .resolve (tokenOf 1)⟩,
   ⟨⟨3⟩, .revoke (tokenOf 2) "ann"⟩,
   ⟨⟨9⟩, .cleanup⟩,
   ⟨⟨4⟩, .create (drawOf 5) ⟨"d", "bob", none⟩⟩]

/- Each way out is counted once. -/
theorem run_accounts_everyWayOut :
    (∀ event ∈ everyWayOut,
        event.call.isDeletion = false) ∧
      ((issuedIn (log next empty everyWayOut)).map
          Share.token).Nodup ∧
        (run next empty everyWayOut).size = 1 ∧
          5 =
            (run next empty everyWayOut).size + 2 + 1 + 1 := by
  have hCalls :
      ∀ event ∈ everyWayOut,
        event.call.isDeletion = false := by
    decide
  have hTokens :
      ((issuedIn (log next empty everyWayOut)).map
        Share.token).Nodup := by
    decide
  have hAccounts :=
    run_accounts everyWayOut hCalls hTokens
  exact ⟨hCalls, hTokens, by decide, hAccounts.1⟩

end Registry

end Share

end Gatehouse
