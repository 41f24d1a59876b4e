import Gatehouse.Ticker

/-
  Tasks that are done on schedule.

  A thing is used while a clock moves, and a task is done on
  it when a ticker rings.  The rings of a ticker come at its
  start plus one interval, plus two, and so on.  A move of
  the clock does the task if it comes to a ring that was not
  come to before, once for all the rings that it passes.  A
  loop that waits for each next ring does the same.

  Key definitions include:
    * `Ticker.ring`
    * `Upkeep`
    * `Upkeep.State`
    * `Upkeep.next`
    * `Upkeep.ComesToRing`
    * `Upkeep.Punctual`
    * `Watch`
    * `Upkeep.nextWatched`

  Main results include:
    * `Ticker.rings_iff`
    * `Upkeep.rings_run_iff`
    * `Upkeep.Watched.Follows.run`
    * `Upkeep.punctual_of_invariant`
-/

namespace Gatehouse

------------------------------------------------------------
-- Rings
------------------------------------------------------------

namespace Ticker

/- When a ticker rings for the first time, the second, … -/
def ring
    (t : Ticker)
    (k : Nat) : Nat :=
  t.start + k * t.interval

variable {t : Ticker} {after upTo k : Nat}

/- A ticker has rung as often as rings have come. -/
theorem le_count_iff
    (hInterval : 0 < t.interval)
    (hFirst : 1 ≤ k)
    (now : Nat) :
    k ≤ t.count now ↔ t.ring k ≤ now := by
  have hPos : 0 < k * t.interval :=
    Nat.mul_pos hFirst hInterval
  unfold count ring
  rw [Nat.le_div_iff_mul_le hInterval]
  omega

/- A ticker rings if one of its rings comes in the time. -/
theorem rings_iff
    (hInterval : 0 < t.interval) :
    t.rings after upTo = true ↔
      ∃ k, 1 ≤ k ∧ after < t.ring k ∧ t.ring k ≤ upTo := by
  unfold rings
  rw [decide_eq_true_eq]
  constructor
  · intro hMore
    have hFirst : 1 ≤ t.count upTo :=
      Nat.one_le_of_lt hMore
    refine ⟨t.count upTo, hFirst, ?_, ?_⟩
    · rw [← Nat.not_le, ← le_count_iff hInterval hFirst]
      exact Nat.not_le.mpr hMore
    · exact
        (le_count_iff hInterval hFirst upTo).mp
          (Nat.le_refl _)
  · rintro ⟨k, hFirst, hAfter, hUpTo⟩
    rw [← Nat.not_le, ← le_count_iff hInterval hFirst]
      at hAfter
    rw [← le_count_iff hInterval hFirst] at hUpTo
    exact Nat.lt_of_lt_of_le (Nat.not_le.mp hAfter) hUpTo

/- What a task keeps is kept when it is attended to. -/
theorem attend_invariant
    {α : Type}
    {P : α → Prop}
    {task : Instant → α → α}
    {ticker : Option Ticker}
    {before after : Clock}
    {a : α}
    (hTask : ∀ now a, P a → P (task now a))
    (h : P a) :
    P (attend ticker before after task a) := by
  unfold attend
  cases ticker with
  | none => exact h
  | some t =>
      dsimp only
      split
      · exact hTask _ _ h
      · exact h

end Ticker

------------------------------------------------------------
-- Things and Tasks
------------------------------------------------------------

/- How a thing is used, and the task that is done on it. -/
structure Upkeep
    (κ α : Type) where
  use : Instant → κ → α → α
  task : Instant → α → α

namespace Upkeep

/- A thing, its clock, and the ticker of its task, if any. -/
structure State
    (α : Type) where
  clock : Clock
  ticker : Option Ticker
  thing : α

/- What can happen to a thing. -/
inductive Event
    (κ : Type) where
  | use (call : κ)
  | advance (d : Span)
  /- The task is started, to be done at an interval. -/
  | start (interval : Nat)
  | stop

variable {κ α : Type}

/- Is a task started or stopped? -/
def Event.Switches :
    Event κ → Prop
  | .start _ => True
  | .stop => True
  | _ => False

/- Is a task started? -/
def Event.Starts :
    Event κ → Prop
  | .start _ => True
  | _ => False

/- What becomes of a thing at an event. -/
def next
    (u : Upkeep κ α)
    (s : State α) :
    Event κ → State α
  | .use call =>
      { s with thing := u.use s.clock.now call s.thing }
  | .advance d =>
      let clock := s.clock.advance d
      { s with
        clock := clock
        thing :=
          Ticker.attend s.ticker s.clock clock u.task
            s.thing }
  | .start interval =>
      { s with ticker := some (.startAt s.clock interval) }
  | .stop => { s with ticker := none }

/- What becomes of a thing over a run. -/
def run
    (u : Upkeep κ α)
    (s : State α)
    (events : List (Event κ)) : State α :=
  events.foldl u.next s

variable {u : Upkeep κ α} {s : State α}
variable {event : Event κ} {events : List (Event κ)}

/- A run goes on where its first part ended. -/
theorem run_append
    (u : Upkeep κ α)
    (s : State α)
    (first second : List (Event κ)) :
    u.run s (first ++ second) =
      u.run (u.run s first) second :=
  List.foldl_append

------------------------------------------------------------
-- Clock and Ticker over a Run
------------------------------------------------------------

/- The steady time never goes back at an event. -/
theorem le_steady_next
    (u : Upkeep κ α)
    (s : State α)
    (event : Event κ) :
    s.clock.steady ≤ (u.next s event).clock.steady := by
  cases event with
  | advance d => exact s.clock.le_steady_advance d
  | use call => exact Nat.le_refl _
  | start interval => exact Nat.le_refl _
  | stop => exact Nat.le_refl _

/- The steady time never goes back over a run. -/
theorem le_steady_run
    (u : Upkeep κ α)
    (s : State α)
    (events : List (Event κ)) :
    s.clock.steady ≤ (u.run s events).clock.steady := by
  induction events generalizing s with
  | nil => exact Nat.le_refl _
  | cons event events ih =>
      exact
        Nat.le_trans (u.le_steady_next s event)
          (ih (u.next s event))

/- The end of a run is not before what its parts come to. -/
theorem steady_run_take_le
    (u : Upkeep κ α)
    (s : State α)
    (events : List (Event κ))
    (n : Nat) :
    (u.run s (events.take n)).clock.steady ≤
      (u.run s events).clock.steady := by
  have hLater :=
    u.le_steady_run (u.run s (events.take n))
      (events.drop n)
  rw [← run_append, List.take_append_drop] at hLater
  exact hLater

/- Only a switch changes the ticker. -/
theorem ticker_next
    (hSwitch : ¬event.Switches) :
    (u.next s event).ticker = s.ticker := by
  cases event with
  | use call => rfl
  | advance d => rfl
  | start interval => exact absurd trivial hSwitch
  | stop => exact absurd trivial hSwitch

/- A ticker stays over a run without switches. -/
theorem ticker_run
    (hSwitches : ∀ event ∈ events, ¬event.Switches) :
    (u.run s events).ticker = s.ticker := by
  induction events generalizing s with
  | nil => rfl
  | cons event events ih =>
      rcases List.forall_mem_cons.mp hSwitches with
        ⟨hSwitch, hLater⟩
      exact (ih hLater).trans (ticker_next hSwitch)

/- A task that is not started has no ticker. -/
theorem ticker_next_of_none
    (hStopped : s.ticker = none)
    (hStart : ¬event.Starts) :
    (u.next s event).ticker = none := by
  cases event with
  | use call => exact hStopped
  | advance d => exact hStopped
  | start interval => exact absurd trivial hStart
  | stop => rfl

/- A task that is stopped has no ticker until it starts. -/
theorem ticker_run_of_none
    (hStopped : s.ticker = none)
    (hStarts : ∀ event ∈ events, ¬event.Starts) :
    (u.run s events).ticker = none := by
  induction events generalizing s with
  | nil => exact hStopped
  | cons event events ih =>
      rcases List.forall_mem_cons.mp hStarts with
        ⟨hStart, hLater⟩
      exact ih (ticker_next_of_none hStopped hStart) hLater

/- What use and the task keep is kept over a run. -/
theorem invariant_run
    {P : α → Prop}
    (hUse : ∀ now call a, P a → P (u.use now call a))
    (hTask : ∀ now a, P a → P (u.task now a))
    (h : P s.thing) :
    P (u.run s events).thing := by
  induction events generalizing s with
  | nil => exact h
  | cons event events ih =>
      apply ih
      cases event with
      | use call => exact hUse _ _ _ h
      | advance d => exact Ticker.attend_invariant hTask h
      | start interval => exact h
      | stop => exact h

------------------------------------------------------------
-- Moves of the Clock
------------------------------------------------------------

/-
  A task is started and a run follows.  Does a move of the
  clock at the end of it come to a ring, or pass it, that
  the run had not come to at any point?
-/
def ComesToRing
    (u : Upkeep κ α)
    (s : State α)
    (interval : Nat)
    (events : List (Event κ))
    (d : Span) : Prop :=
  let started := u.next s (.start interval)
  let moved := (u.run started events).clock.advance d
  ∃ k, 1 ≤ k ∧
    (∀ n,
      (u.run started (events.take n)).clock.steady <
        s.clock.steady + k * interval) ∧
      s.clock.steady + k * interval ≤ moved.steady

/- What the ticker rings for are the rings that come. -/
theorem rings_run_iff
    {interval : Nat}
    (hInterval : 0 < interval)
    (d : Span) :
    let before := u.run (u.next s (.start interval)) events
    (Ticker.startAt s.clock interval).rings
        before.clock.steady
        (before.clock.advance d).steady =
        true ↔
      u.ComesToRing s interval events d := by
  intro before
  rw [Ticker.rings_iff hInterval]
  constructor
  · rintro ⟨k, hFirst, hAfter, hUpTo⟩
    refine ⟨k, hFirst, fun n => ?_, hUpTo⟩
    exact
      Nat.lt_of_le_of_lt
        (u.steady_run_take_le _ events n) hAfter
  · rintro ⟨k, hFirst, hAfter, hUpTo⟩
    have hWhole := hAfter events.length
    rw [List.take_length] at hWhole
    exact ⟨k, hFirst, hWhole, hUpTo⟩

/- After a start, a move does the task if a ring comes. -/
theorem thing_advance_of_started
    {interval : Nat}
    (hInterval : 0 < interval)
    (hSwitches : ∀ event ∈ events, ¬event.Switches)
    (d : Span) :
    let before := u.run (u.next s (.start interval)) events
    let after := u.next before (.advance d)
    (u.ComesToRing s interval events d →
        after.thing = u.task after.clock.now before.thing) ∧
      (¬u.ComesToRing s interval events d →
        after.thing = before.thing) := by
  intro before after
  have hTicker :
      before.ticker =
        some (Ticker.startAt s.clock interval) :=
    ticker_run hSwitches
  have hThing :
      after.thing =
        Ticker.attend
          (some (Ticker.startAt s.clock interval))
          before.clock after.clock u.task before.thing := by
    rw [← hTicker]
    rfl
  have hRings :
      (Ticker.startAt s.clock interval).rings
          before.clock.steady after.clock.steady =
          true ↔
        u.ComesToRing s interval events d :=
    rings_run_iff hInterval d
  rw [hThing]
  refine ⟨?_, ?_⟩
  · intro hComes
    exact if_pos (hRings.mpr hComes)
  · intro hSilent
    exact if_neg (mt hRings.mp hSilent)

/- A move leaves a thing alone whose task is not started. -/
theorem thing_advance_of_stopped
    (hStopped : s.ticker = none)
    (d : Span) :
    (u.next s (.advance d)).thing = s.thing := by
  change Ticker.attend s.ticker _ _ _ _ = _
  rw [hStopped, Ticker.attend_none]

end Upkeep

------------------------------------------------------------
-- Watches
------------------------------------------------------------

/- A loop that waits for a ring, and then does the task. -/
structure Watch where
  interval : Nat
  /- When the ring comes that is waited for. -/
  due : Nat

namespace Watch

/- A watch begins with the wait for the first ring. -/
def begin
    (c : Clock)
    (interval : Nat) : Watch :=
  ⟨interval, c.steady + interval⟩

/-
  The wait for the next ring when the last one is noticed.
  Rings that were missed until then are skipped.
-/
def skip
    (w : Watch)
    (now : Nat) : Watch :=
  { w with
    due := now + w.interval - (now - w.due) % w.interval }

/- Does a watch wait for the ring that a ticker has next? -/
structure Follows
    (w : Watch)
    (t : Ticker)
    (now : Nat) : Prop where
  pos : 0 < t.interval
  interval : w.interval = t.interval
  due : w.due = t.ring (t.count now + 1)

variable {w : Watch} {t : Ticker} {earlier now : Nat}

/- A watch and a ticker begin together. -/
theorem follows_begin
    (c : Clock)
    {interval : Nat}
    (hInterval : 0 < interval) :
    (begin c interval).Follows (.startAt c interval)
      c.steady where
  pos := hInterval
  interval := rfl
  due := by
    simp [begin, Ticker.startAt, Ticker.ring, Ticker.count]

/- The ring that is waited for comes when the ticker rings. -/
theorem Follows.due_le_iff
    (h : w.Follows t earlier)
    (now : Nat) :
    w.due ≤ now ↔ t.rings earlier now = true := by
  rw [h.due, ← Ticker.le_count_iff h.pos (by omega)]
  unfold Ticker.rings
  rw [decide_eq_true_eq]
  exact Nat.succ_le_iff

/- While the ring does not come, the wait goes on. -/
theorem Follows.wait
    (h : w.Follows t earlier)
    (hOrder : earlier ≤ now)
    (hWait : ¬w.due ≤ now) :
    w.Follows t now where
  pos := h.pos
  interval := h.interval
  due := by
    rw [h.due_le_iff] at hWait
    unfold Ticker.rings at hWait
    rw [decide_eq_true_eq] at hWait
    have hCount : t.count earlier ≤ t.count now :=
      Nat.div_le_div_right (Nat.sub_le_sub_right hOrder _)
    have hSame : t.count earlier = t.count now := by
      omega
    rw [← hSame]
    exact h.due

/- When the ring comes, the wait for the next one begins. -/
theorem Follows.skip
    (h : w.Follows t earlier)
    (hComes : w.due ≤ now) :
    (w.skip now).Follows t now where
  pos := h.pos
  interval := h.interval
  due := by
    have hDue := h.due
    unfold Ticker.ring at hDue
    -- The start is a whole number of intervals before.
    have hRest :
        (now - w.due) % t.interval =
          (now - t.start) % t.interval := by
      rw [hDue, ← Nat.sub_sub, Nat.mul_comm]
      apply Nat.sub_mul_mod
      rw [Nat.mul_comm]
      omega
    have hParts := Nat.div_add_mod' (now - t.start) t.interval
    have hLess := Nat.mod_lt (now - t.start) h.pos
    unfold Watch.skip Ticker.ring Ticker.count
    dsimp only
    rw [h.interval, hRest, Nat.add_mul, Nat.one_mul]
    omega

end Watch

namespace Upkeep

variable {κ α : Type}

/- A thing, its clock, and the watch over it, if any. -/
structure Watched
    (α : Type) where
  clock : Clock
  watch : Option Watch
  thing : α

/- What becomes of a thing with a watch at an event. -/
def nextWatched
    (u : Upkeep κ α)
    (s : Watched α) :
    Event κ → Watched α
  | .use call =>
      { s with thing := u.use s.clock.now call s.thing }
  | .advance d =>
      let clock := s.clock.advance d
      match s.watch with
      | none => { s with clock := clock }
      | some w =>
          if w.due ≤ clock.steady then
            ⟨clock, some (w.skip clock.steady),
              u.task clock.now s.thing⟩
          else
            { s with clock := clock }
  | .start interval =>
      { s with watch := some (.begin s.clock interval) }
  | .stop => { s with watch := none }

/- What becomes of a thing with a watch over a run. -/
def runWatched
    (u : Upkeep κ α)
    (s : Watched α)
    (events : List (Event κ)) : Watched α :=
  events.foldl u.nextWatched s

/- Is a task started with an interval, if it is started? -/
def Event.HasInterval :
    Event κ → Prop
  | .start interval => 0 < interval
  | _ => True

/- The same thing, under a watch that follows a ticker. -/
structure Watched.Follows
    (w : Watched α)
    (s : State α) : Prop where
  clock : w.clock = s.clock
  thing : w.thing = s.thing
  watch :
    Option.Rel (fun w t => w.Follows t s.clock.steady)
      w.watch s.ticker

variable {u : Upkeep κ α} {w : Watched α} {s : State α}

/- A watch follows a ticker over a move of the clock. -/
theorem Watched.Follows.advance
    (h : w.Follows s)
    (d : Span) :
    (u.nextWatched w (.advance d)).Follows
      (u.next s (.advance d)) := by
  obtain ⟨clock, watch, thing⟩ := w
  obtain ⟨clock', ticker, thing'⟩ := s
  obtain ⟨rfl, rfl, hWatch⟩ := h
  have hLater := clock.le_steady_advance d
  cases hWatch with
  | none => exact ⟨rfl, rfl, .none⟩
  | @some w t hFollows =>
      have hDue := hFollows.due_le_iff (clock.advance d).steady
      by_cases hComes : w.due ≤ (clock.advance d).steady
      · have hRings := hDue.mp hComes
        unfold nextWatched next Ticker.attend
        dsimp only
        rw [if_pos hComes, if_pos hRings]
        exact ⟨rfl, rfl, .some (hFollows.skip hComes)⟩
      · have hSilent := mt hDue.mpr hComes
        unfold nextWatched next Ticker.attend
        dsimp only
        rw [if_neg hComes, if_neg hSilent]
        exact ⟨rfl, rfl, .some (hFollows.wait hLater hComes)⟩

/- A watch follows a ticker over every event. -/
theorem Watched.Follows.next
    (h : w.Follows s)
    {event : Event κ}
    (hInterval : event.HasInterval) :
    (u.nextWatched w event).Follows (u.next s event) := by
  cases event with
  | advance d => exact h.advance d
  | use call =>
      refine ⟨h.clock, ?_, h.watch⟩
      change u.use _ _ _ = u.use _ _ _
      rw [h.clock, h.thing]
  | start interval =>
      refine ⟨h.clock, h.thing, .some ?_⟩
      rw [h.clock]
      exact Watch.follows_begin s.clock hInterval
  | stop => exact ⟨h.clock, h.thing, .none⟩

/- A watch follows a ticker over a run. -/
theorem Watched.Follows.run
    {events : List (Event κ)}
    (hIntervals : ∀ event ∈ events, event.HasInterval)
    (h : w.Follows s) :
    (u.runWatched w events).Follows (u.run s events) := by
  induction events generalizing w s with
  | nil => exact h
  | cons event events ih =>
      rcases List.forall_mem_cons.mp hIntervals with
        ⟨hInterval, hLater⟩
      exact ih hLater (h.next hInterval)

------------------------------------------------------------
-- Punctual Tasks
------------------------------------------------------------

/-
  A task is punctual on a thing if it is done on schedule
  from every start on, and never when it is stopped.  What
  it is to do is told of the thing before and after.
-/
structure Punctual
    (u : Upkeep κ α)
    (Done : Instant → α → α → Prop)
    (s : State α) : Prop where
  /- A move that comes to a new ring does the task. -/
  done :
    ∀ interval, 0 < interval →
      ∀ events, (∀ event ∈ events, ¬event.Switches) →
        ∀ d, u.ComesToRing s interval events d →
          let started := u.next s (.start interval)
          let before := u.run started events
          let after := u.next before (.advance d)
          Done after.clock.now before.thing after.thing
  /- A move that comes to no new ring changes nothing. -/
  rests :
    ∀ interval, 0 < interval →
      ∀ events, (∀ event ∈ events, ¬event.Switches) →
        ∀ d, ¬u.ComesToRing s interval events d →
          let started := u.next s (.start interval)
          let before := u.run started events
          (u.next before (.advance d)).thing = before.thing
  /- Once the task is stopped, no move does it. -/
  stopped :
    ∀ events, (∀ event ∈ events, ¬event.Starts) →
      ∀ d,
        let before := u.run (u.next s .stop) events
        (u.next before (.advance d)).thing = before.thing
  /- A loop that waits for each next ring does the same. -/
  watched :
    ∀ events, (∀ event ∈ events, event.HasInterval) →
      (u.runWatched ⟨s.clock, none, s.thing⟩ events).thing =
        (u.run (u.next s .stop) events).thing

/-
  A task is punctual if it does what it is to do on all that
  use and the task itself keep.
-/
theorem punctual_of_invariant
    {P : α → Prop}
    {Done : Instant → α → α → Prop}
    (hUse : ∀ now call a, P a → P (u.use now call a))
    (hTask : ∀ now a, P a → P (u.task now a))
    (hDone : ∀ now a, P a → Done now a (u.task now a))
    (h : P s.thing) :
    u.Punctual Done s where
  done interval hInterval events hSwitches d hComes := by
    intro started before after
    have hThing :
        after.thing = u.task after.clock.now before.thing :=
      (thing_advance_of_started hInterval hSwitches d).1
        hComes
    rw [hThing]
    exact hDone _ _ (invariant_run hUse hTask h)
  rests interval hInterval events hSwitches d hSilent :=
    (thing_advance_of_started hInterval hSwitches d).2
      hSilent
  stopped events hStarts d :=
    thing_advance_of_stopped (ticker_run_of_none rfl hStarts)
      d
  watched events hIntervals := by
    have hBegin :
        Watched.Follows ⟨s.clock, none, s.thing⟩
          (u.next s .stop) :=
      ⟨rfl, rfl, .none⟩
    exact (hBegin.run hIntervals).thing

end Upkeep

end Gatehouse
