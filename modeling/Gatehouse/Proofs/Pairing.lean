import Gatehouse.Proofs.History
import Mathlib.Data.List.Forall2

/-
  Two runs side by side.

  Some calls run in the background.  Two runs are paired if
  their other calls match, one by one and in order; calls of
  the background may come anywhere in either run.  What
  relates the states of two runs, call by call, relates them
  at every matching call and at the end.

  Key definitions include:
    * `History.foreground`
    * `History.Ordered`
    * `History.Until`
    * `History.Simulation`
    * `History.Paired`

  Main results include:
    * `History.Simulation.paired`
-/

namespace Gatehouse

namespace History

variable {σ σ₁ σ₂ κ : Type}

------------------------------------------------------------
-- Foreground and Time
------------------------------------------------------------

/- The entries of a history that are not background. -/
def foreground
    (background : κ → Bool)
    (entries : List (Entry σ κ)) : List (Entry σ κ) :=
  entries.filter (fun e => !background e.call)

/- Time never goes back from one event to a later one. -/
def Ordered
    (events : List (Event κ)) : Prop :=
  events.Pairwise (fun e f => e.now ≤ f.now)

/- No event is later than an instant. -/
def Until
    (now : Instant)
    (events : List (Event κ)) : Prop :=
  ∀ event ∈ events, event.now ≤ now

/- An instant that ends a run ends its first part. -/
theorem Until.append_singleton_iff
    {now : Instant}
    {events : List (Event κ)}
    {event : Event κ} :
    Until now (events ++ [event]) ↔
      Until now events ∧ event.now ≤ now := by
  simp only [Until, List.forall_mem_append,
    List.forall_mem_singleton]

/- In an ordered run, the last event ends what is before. -/
theorem Ordered.append_singleton_iff
    {events : List (Event κ)}
    {event : Event κ} :
    Ordered (events ++ [event]) ↔
      Ordered events ∧ Until event.now events := by
  simp [Ordered, Until, List.pairwise_append]

/- A call of the background does not show. -/
theorem foreground_append_of_background
    {background : κ → Bool}
    (entries : List (Entry σ κ))
    {e : Entry σ κ}
    (hBackground : background e.call = true) :
    foreground background (entries ++ [e]) =
      foreground background entries := by
  simp [foreground, hBackground]

/- Any other call shows. -/
theorem foreground_append_of_not
    {background : κ → Bool}
    (entries : List (Entry σ κ))
    {e : Entry σ κ}
    (hForeground : background e.call = false) :
    foreground background (entries ++ [e]) =
      foreground background entries ++ [e] := by
  simp [foreground, hForeground]

/- Lists that match with one more item match without it. -/
theorem forall₂_append_singleton_iff
    {α β : Type}
    {R : α → β → Prop}
    {as : List α}
    {bs : List β}
    {a : α}
    {b : β} :
    List.Forall₂ R (as ++ [a]) (bs ++ [b]) ↔
      List.Forall₂ R as bs ∧ R a b := by
  rw [← List.forall₂_reverse_iff]
  simp [and_comm]

------------------------------------------------------------
-- Simulations
------------------------------------------------------------

/-
  What relates the states of two runs at an instant: it
  lasts as time goes on, calls of the background in either
  run leave it alone, and matching calls keep it.
-/
structure Simulation
    (step₁ : σ₁ → Event κ → σ₁)
    (step₂ : σ₂ → Event κ → σ₂)
    (background : κ → Bool)
    (Matches : Entry σ₁ κ → Entry σ₂ κ → Prop)
    (Related : Instant → σ₁ → σ₂ → Prop) : Prop where
  now_eq :
    ∀ {e₁ e₂}, Matches e₁ e₂ → e₁.now = e₂.now
  later :
    ∀ {earlier now s₁ s₂},
      earlier ≤ now →
        Related earlier s₁ s₂ → Related now s₁ s₂
  left :
    ∀ {now s₁ s₂ event},
      background event.call = true →
        event.now ≤ now →
          Related now s₁ s₂ →
            Related now (step₁ s₁ event) s₂
  right :
    ∀ {now s₁ s₂ event},
      background event.call = true →
        event.now ≤ now →
          Related now s₁ s₂ →
            Related now s₁ (step₂ s₂ event)
  both :
    ∀ {s₁ s₂ event₁ event₂},
      Matches ⟨s₁, event₁.now, event₁.call⟩
          ⟨s₂, event₂.now, event₂.call⟩ →
        Related event₁.now s₁ s₂ →
          Related event₁.now (step₁ s₁ event₁)
            (step₂ s₂ event₂)

/-
  Two runs whose foreground calls match: the states are
  related at the end, and were at every matching call.
-/
structure Paired
    (step₁ : σ₁ → Event κ → σ₁)
    (step₂ : σ₂ → Event κ → σ₂)
    (background : κ → Bool)
    (Matches : Entry σ₁ κ → Entry σ₂ κ → Prop)
    (Related : Instant → σ₁ → σ₂ → Prop)
    (s₁ : σ₁)
    (s₂ : σ₂)
    (events₁ events₂ : List (Event κ)) : Prop where
  atEnd :
    ∀ now, Until now events₁ → Until now events₂ →
      Related now (run step₁ s₁ events₁)
        (run step₂ s₂ events₂)
  atCalls :
    List.Forall₂
      (fun e₁ e₂ =>
        Matches e₁ e₂ ∧ Related e₁.now e₁.before e₂.before)
      (foreground background (log step₁ s₁ events₁))
      (foreground background (log step₂ s₂ events₂))

------------------------------------------------------------
-- Growing Runs
------------------------------------------------------------

namespace Simulation

variable {step₁ : σ₁ → Event κ → σ₁}
variable {step₂ : σ₂ → Event κ → σ₂}
variable {background : κ → Bool}
variable {Matches : Entry σ₁ κ → Entry σ₂ κ → Prop}
variable {Related : Instant → σ₁ → σ₂ → Prop}
variable {s₁ : σ₁} {s₂ : σ₂}
variable {events₁ events₂ : List (Event κ)}

/- Runs stay paired when the first does background work. -/
theorem paired_left
    (h :
      Simulation step₁ step₂ background Matches Related)
    {event : Event κ}
    (hBackground : background event.call = true)
    (hPaired :
      Paired step₁ step₂ background Matches Related s₁ s₂
        events₁ events₂) :
    Paired step₁ step₂ background Matches Related s₁ s₂
      (events₁ ++ [event]) events₂ where
  atEnd now hUntil₁ hUntil₂ := by
    have hParts := Until.append_singleton_iff.mp hUntil₁
    have hBefore := hPaired.atEnd now hParts.1 hUntil₂
    rw [run_append_singleton]
    exact h.left hBackground hParts.2 hBefore
  atCalls := by
    rw [log_append_singleton,
      foreground_append_of_background _ hBackground]
    exact hPaired.atCalls

/- Runs stay paired when the second does background work. -/
theorem paired_right
    (h :
      Simulation step₁ step₂ background Matches Related)
    {event : Event κ}
    (hBackground : background event.call = true)
    (hPaired :
      Paired step₁ step₂ background Matches Related s₁ s₂
        events₁ events₂) :
    Paired step₁ step₂ background Matches Related s₁ s₂
      events₁ (events₂ ++ [event]) where
  atEnd now hUntil₁ hUntil₂ := by
    have hParts := Until.append_singleton_iff.mp hUntil₂
    have hBefore := hPaired.atEnd now hUntil₁ hParts.1
    rw [run_append_singleton]
    exact h.right hBackground hParts.2 hBefore
  atCalls := by
    rw [log_append_singleton,
      foreground_append_of_background _ hBackground]
    exact hPaired.atCalls

/- Runs stay paired when both do what matches. -/
theorem paired_both
    (h :
      Simulation step₁ step₂ background Matches Related)
    {event₁ event₂ : Event κ}
    (hForeground₁ : background event₁.call = false)
    (hForeground₂ : background event₂.call = false)
    (hOrder₁ : Until event₁.now events₁)
    (hOrder₂ : Until event₂.now events₂)
    (hMatches :
      Matches
        ⟨run step₁ s₁ events₁, event₁.now, event₁.call⟩
        ⟨run step₂ s₂ events₂, event₂.now, event₂.call⟩)
    (hPaired :
      Paired step₁ step₂ background Matches Related s₁ s₂
        events₁ events₂) :
    Paired step₁ step₂ background Matches Related s₁ s₂
      (events₁ ++ [event₁]) (events₂ ++ [event₂]) := by
  have hSame : event₁.now = event₂.now := h.now_eq hMatches
  have hBefore :
      Related event₁.now (run step₁ s₁ events₁)
        (run step₂ s₂ events₂) := by
    apply hPaired.atEnd _ hOrder₁
    rw [hSame]
    exact hOrder₂
  refine ⟨?_, ?_⟩
  · intro now hUntil₁ _
    have hParts := Until.append_singleton_iff.mp hUntil₁
    rw [run_append_singleton, run_append_singleton]
    exact h.later hParts.2 (h.both hMatches hBefore)
  · rw [log_append_singleton, log_append_singleton,
      foreground_append_of_not _ hForeground₁,
      foreground_append_of_not _ hForeground₂,
      forall₂_append_singleton_iff]
    exact ⟨hPaired.atCalls, hMatches, hBefore⟩

/-
  Runs that start related are paired if their foreground
  calls match and time never goes back in either of them.
  The induction is on the ends of both runs: a call of the
  background at either end is taken off alone.
-/
theorem paired
    (h :
      Simulation step₁ step₂ background Matches Related)
    (hStart : ∀ now, Related now s₁ s₂)
    (hOrder₁ : Ordered events₁)
    (hOrder₂ : Ordered events₂)
    (hMatches :
      List.Forall₂ Matches
        (foreground background (log step₁ s₁ events₁))
        (foreground background (log step₂ s₂ events₂))) :
    Paired step₁ step₂ background Matches Related s₁ s₂
      events₁ events₂ := by
  induction events₁ using List.reverseRecOn
      generalizing events₂ with
  | nil =>
      induction events₂ using List.reverseRecOn with
      | nil => exact ⟨fun now _ _ => hStart now, .nil⟩
      | append_singleton events₂ event₂ ih =>
          rw [log_append_singleton] at hMatches
          cases hBackground : background event₂.call with
          | true =>
              rw [foreground_append_of_background _
                hBackground] at hMatches
              have hParts :=
                Ordered.append_singleton_iff.mp hOrder₂
              exact
                h.paired_right hBackground
                  (ih hParts.1 hMatches)
          | false =>
              rw [foreground_append_of_not _ hBackground]
                at hMatches
              have hLength := hMatches.length_eq
              simp [foreground, log] at hLength
  | append_singleton events₁ event₁ ih₁ =>
      have hParts₁ :=
        Ordered.append_singleton_iff.mp hOrder₁
      rw [log_append_singleton] at hMatches
      cases hBackground₁ : background event₁.call with
      | true =>
          rw [foreground_append_of_background _
            hBackground₁] at hMatches
          exact
            h.paired_left hBackground₁
              (ih₁ hParts₁.1 hOrder₂ hMatches)
      | false =>
          rw [foreground_append_of_not _ hBackground₁]
            at hMatches
          induction events₂ using List.reverseRecOn with
          | nil =>
              have hLength := hMatches.length_eq
              simp [foreground, log] at hLength
          | append_singleton events₂ event₂ ih₂ =>
              have hParts₂ :=
                Ordered.append_singleton_iff.mp hOrder₂
              rw [log_append_singleton] at hMatches
              cases hBackground₂ :
                  background event₂.call with
              | true =>
                  rw [foreground_append_of_background _
                    hBackground₂] at hMatches
                  exact
                    h.paired_right hBackground₂
                      (ih₂ hParts₂.1 hMatches)
              | false =>
                  rw [foreground_append_of_not _
                    hBackground₂,
                    forall₂_append_singleton_iff]
                    at hMatches
                  exact
                    h.paired_both hBackground₁ hBackground₂
                      hParts₁.2 hParts₂.2 hMatches.2
                      (ih₁ hParts₁.1 hParts₂.1 hMatches.1)

end Simulation

end History

end Gatehouse
