import Gatehouse.Proofs.Schedule
import Gatehouse.Proofs.Session.Lifecycle
import Gatehouse.Proofs.Share.Discretion

/-
  Periodic sweeps and cleanups.

  A sweep removes the expired sessions of a manager, and a
  cleanup the expired shares of a registry, and both leave
  all others as they are.  They are done on schedule, over
  whatever calls and moves of the clock come in between.

  Key definitions include:
    * `Session.Manager.upkeep`
    * `Session.Manager.Swept`
    * `Share.Registry.Use`
    * `Share.Registry.upkeep`
    * `Share.Registry.Cleaned`

  Main results include:
    * `Session.Manager.swept_sweep`
    * `Share.Registry.cleaned_cleanup`
    * `Upkeep.sweeps_and_cleanups_punctual`
-/

namespace Gatehouse

------------------------------------------------------------
-- Sweeps
------------------------------------------------------------

namespace Session

namespace Manager

variable {σ : Type}

/- A manager is called, and swept from time to time. -/
def upkeep
    (p : Login.Provider σ) : Upkeep Call (Manager σ) where
  use now call m := m.next p ⟨now, call⟩
  task now m := (m.sweep now).2

/-
  The stored sessions are those that were stored and are not
  expired, unchanged.
-/
def Swept
    (now : Instant)
    (before after : Manager σ) : Prop :=
  ∀ id s,
    after.sessions.get? id = some s ↔
      before.sessions.get? id = some s ∧
        s.isExpired now = false

/- A sweep removes the expired sessions and no others. -/
theorem swept_sweep
    (m : Manager σ)
    (now : Instant) :
    Swept now m (m.sweep now).2 := by
  intro id s
  rw [sessions_sweep, Option.filter_eq_some_iff,
    Bool.not_eq_true']

end Manager

end Session

------------------------------------------------------------
-- Cleanups
------------------------------------------------------------

namespace Share

namespace Registry

/- What is done with a registry: a call, or a share saved. -/
inductive Use where
  | call (c : Call)
  | save (x : Share)

/- What becomes of a registry that is used. -/
def use
    (now : Instant)
    (r : Registry) :
    Use → Registry
  | .call c => (r.perform now c).2
  | .save x => r.save x

/- A registry is used, and cleaned from time to time. -/
def upkeep : Upkeep Use Registry where
  use now call r := r.use now call
  task now r := (r.cleanup now).2

/-
  The stored shares are those that were stored and are not
  expired, unchanged, by their tokens and by their sessions.
-/
structure Cleaned
    (now : Instant)
    (before after : Registry) : Prop where
  token_iff :
    ∀ token x,
      after.store.byToken.get? token = some x ↔
        before.store.byToken.get? token = some x ∧
          x.isExpired now = false
  session_iff :
    ∀ sessionId x,
      after.store.current? sessionId = some x ↔
        before.store.current? sessionId = some x ∧
          x.isExpired now = false

/- A registry stays consistent however it is used. -/
theorem consistent_use
    {r : Registry}
    (h : r.store.Consistent)
    (now : Instant)
    (call : Use) :
    (r.use now call).store.Consistent := by
  rcases h with ⟨c, h⟩
  cases call with
  | call call =>
      rcases perform_step h now call with ⟨c', h', _⟩
      exact ⟨c', h'⟩
  | save x => exact ⟨_, h.save x⟩

/- A cleanup keeps a registry consistent. -/
theorem consistent_cleanup
    {r : Registry}
    (h : r.store.Consistent)
    (now : Instant) :
    (r.cleanup now).2.store.Consistent := by
  rcases h with ⟨c, h⟩
  exact ⟨_, h.cleanup now⟩

/- A cleanup removes the expired shares and no others. -/
theorem cleaned_cleanup
    {r : Registry}
    (h : r.store.Consistent)
    (now : Instant) :
    Cleaned now r (r.cleanup now).2 := by
  rcases h with ⟨c, h⟩
  have h' := h.cleanup now
  refine ⟨?_, ?_⟩
  · intro token x
    change (r.store.cleanup now).2.byToken.get? _ = _ ↔ _
    rw [h'.token_iff, h.token_iff, Finset.mem_filter,
      and_right_comm]
  · intro sessionId x
    change (r.store.cleanup now).2.current? _ = _ ↔ _
    rw [h'.current?_eq_some_iff, h.current?_eq_some_iff,
      Finset.mem_filter, and_right_comm]

end Registry

end Share

------------------------------------------------------------
-- Both on Schedule
------------------------------------------------------------

namespace Upkeep

open Session.Manager (Call byCode briefTerms zerosId)
open Share (Registry)

/-
  Sweeps of any manager and cleanups of any registry are
  punctual.
-/
theorem sweeps_and_cleanups_punctual
    {σ : Type}
    (p : Login.Provider σ) :
    (∀ s : State (Session.Manager σ),
      (Session.Manager.upkeep p).Punctual
        Session.Manager.Swept s) ∧
      ∀ (c : Clock) (events : List (Event Registry.Use)),
        Registry.upkeep.Punctual Registry.Cleaned
          (Registry.upkeep.run ⟨c, none, .empty⟩ events) := by
  refine ⟨?_, ?_⟩
  · intro s
    exact
      punctual_of_invariant (P := fun _ => True)
        (fun _ _ _ _ => trivial) (fun _ _ _ => trivial)
        (fun now m _ => m.swept_sweep now) trivial
  · intro c events
    have hUse :
        ∀ now call (r : Registry),
          r.store.Consistent →
            (r.use now call).store.Consistent :=
      fun now call r h => Registry.consistent_use h now call
    have hTask :
        ∀ now (r : Registry),
          r.store.Consistent →
            (r.cleanup now).2.store.Consistent :=
      fun now r h => Registry.consistent_cleanup h now
    have hEmpty : Registry.empty.store.Consistent :=
      ⟨∅, Share.Store.represents_empty⟩
    have hRun :
        (Registry.upkeep.run ⟨c, none, .empty⟩
          events).thing.store.Consistent :=
      invariant_run (u := Registry.upkeep) hUse hTask hEmpty
    exact
      punctual_of_invariant hUse hTask
        (fun now r h => Registry.cleaned_cleanup h now) hRun

/- A manager that has just been started. -/
def idleManager : State (Session.Manager Unit) :=
  ⟨.startAt ⟨0⟩, none, .start briefTerms ()⟩

/- A login, and moves of the clock there and back. -/
def loginAndWait : List (Event Call) :=
  [.use (.complete (Vector.replicate 32 0) "ann" "state"),
   .advance 20, .advance (-15)]

/- The manager thereafter, with sweeps at an interval. -/
def waitingManager : State (Session.Manager Unit) :=
  let u := Session.Manager.upkeep byCode
  u.run (u.next idleManager (.start 30)) loginAndWait

/- A share that lasts until an instant. -/
def shareUntil
    (token : String)
    (last : Option Instant) : Share :=
  ⟨token, "session of " ++ token, "ann", ⟨0⟩, last⟩

/- A registry that has just been started. -/
def idleRegistry : State Registry :=
  ⟨.startAt ⟨0⟩, none, .empty⟩

/- A share that ends and one that does not, and a wait. -/
def saveAndWait : List (Event Registry.Use) :=
  [.use (.save (shareUntil "brief" (some ⟨10⟩))),
   .use (.save (shareUntil "lasting" none)),
   .advance 20, .advance (-15)]

/- The registry thereafter, with cleanups at an interval. -/
def waitingRegistry : State Registry :=
  let u := Registry.upkeep
  u.run (u.next idleRegistry (.start 30)) saveAndWait

/- A long move comes to a ring that no short one came to. -/
theorem comesToRing_of_steady
    {κ α : Type}
    {u : Upkeep κ α}
    {s : State α}
    {events : List (Event κ)}
    (hStart : s.clock.steady = 0)
    (hBefore :
      (u.run (u.next s (.start 30)) events).clock.steady =
        20) :
    u.ComesToRing s 30 events 100 := by
  refine ⟨1, Nat.le_refl 1, ?_, ?_⟩
  · intro n
    have hPart :=
      u.steady_run_take_le (u.next s (.start 30)) events n
    rw [hStart]
    omega
  · unfold Clock.advance
    dsimp only
    rw [hBefore, hStart]
    decide

/- The session that the login opened, for a short time. -/
def briefSession : Session :=
  ⟨zerosId, ⟨"ann", "ann", "ann", .hide "", [], []⟩, ⟨0⟩,
    ⟨10⟩⟩

/- The share that is saved for a short time. -/
def briefShare : Share :=
  shareUntil "brief" (some ⟨10⟩)

/-
  What is expired is still stored before the first ring.  A
  move past four rings then removes it, and nothing else.
-/
theorem removed_past_four_rings :
    waitingManager.thing.sessions.get? zerosId =
        some briefSession ∧
      ((Session.Manager.upkeep byCode).next waitingManager
            (.advance 100)).thing.sessions.get? zerosId =
          none ∧
        waitingRegistry.thing.store.byToken.get? "brief" =
            some briefShare ∧
          (Registry.upkeep.next waitingRegistry
                (.advance 100)).thing.store.byToken.get?
              "brief" =
              none ∧
            (Registry.upkeep.next waitingRegistry
                  (.advance 100)).thing.store.byToken.get?
                "lasting" =
              some (shareUntil "lasting" none) := by
  rcases sweeps_and_cleanups_punctual byCode with
    ⟨hSweeps, hCleanups⟩
  have hSwept :
      Session.Manager.Swept ⟨105⟩ waitingManager.thing
        ((Session.Manager.upkeep byCode).next waitingManager
          (.advance 100)).thing :=
    (hSweeps idleManager).done 30 (by decide) loginAndWait
      (by simp [loginAndWait, Event.Switches]) 100
      (comesToRing_of_steady rfl (by decide))
  have hCleaned :
      Registry.Cleaned ⟨105⟩ waitingRegistry.thing
        (Registry.upkeep.next waitingRegistry
          (.advance 100)).thing :=
    (hCleanups (.startAt ⟨0⟩) []).done 30 (by decide)
      saveAndWait
      (by simp [saveAndWait, Event.Switches]) 100
      (comesToRing_of_steady rfl (by decide))
  have hSession :
      waitingManager.thing.sessions.get? zerosId =
        some briefSession := by
    decide
  have hShare :
      waitingRegistry.thing.store.byToken.get? "brief" =
        some briefShare := by
    decide
  refine ⟨hSession, ?_, hShare, ?_, ?_⟩
  · rw [Option.eq_none_iff_forall_ne_some]
    intro s hFound
    rcases (hSwept zerosId s).mp hFound with
      ⟨hStored, hLive⟩
    rw [hSession] at hStored
    cases hStored
    revert hLive
    decide
  · rw [Option.eq_none_iff_forall_ne_some]
    intro x hFound
    rcases (hCleaned.token_iff "brief" x).mp hFound with
      ⟨hStored, hLive⟩
    rw [hShare] at hStored
    cases hStored
    revert hLive
    decide
  · rw [hCleaned.token_iff]
    decide

end Upkeep

end Gatehouse
