import Gatehouse.Time.Instant
import Mathlib.Data.List.Induction

/-
  Histories.

  A run is a list of calls, each at its time.  Its history
  tells, for every call, the state that the call met.  What
  began in a history lasts until the end of it comes.

  Key definitions include:
    * `History.Event`
    * `History.Entry`
    * `History.run`
    * `History.log`
    * `History.Since`
    * `History.Throughout`

  Main results include:
    * `History.log_append_singleton`
    * `History.since_append_singleton`
    * `History.throughout_log`
    * `History.nodup_filterMap_append_singleton`
-/

namespace Gatehouse

namespace History

variable {σ κ ε : Type}

------------------------------------------------------------
-- Runs
------------------------------------------------------------

/- A call at its time. -/
structure Event
    (κ : Type) where
  now : Instant
  call : κ
  deriving DecidableEq

/- A call, its time and the state that it met. -/
structure Entry
    (σ κ : Type) where
  before : σ
  now : Instant
  call : κ

variable (step : σ → Event κ → σ)

/- The state after a run. -/
def run
    (s : σ)
    (events : List (Event κ)) : σ :=
  events.foldl step s

/- The history of a run. -/
def log :
    σ → List (Event κ) → List (Entry σ κ)
  | _, [] => []
  | s, event :: events =>
      ⟨s, event.now, event.call⟩ ::
        log (step s event) events

/- A run goes on where its first part ended. -/
theorem run_append
    (s : σ)
    (first second : List (Event κ)) :
    run step s (first ++ second) =
      run step (run step s first) second :=
  List.foldl_append

/- A run with one more event. -/
theorem run_append_singleton
    (s : σ)
    (events : List (Event κ))
    (event : Event κ) :
    run step s (events ++ [event]) =
      step (run step s events) event :=
  run_append step s events [event]

/- A history goes on where its first part ended. -/
theorem log_append
    (s : σ)
    (first second : List (Event κ)) :
    log step s (first ++ second) =
      log step s first ++
        log step (run step s first) second := by
  induction first generalizing s with
  | nil => rfl
  | cons event events ih =>
      simp only [List.cons_append, log, ih]
      rfl

/- A history with one more event. -/
theorem log_append_singleton
    (s : σ)
    (events : List (Event κ))
    (event : Event κ) :
    log step s (events ++ [event]) =
      log step s events ++
        [⟨run step s events, event.now, event.call⟩] :=
  log_append step s events [event]

/- The beginning of a history is that of a shorter run. -/
theorem log_take
    (s : σ)
    (events : List (Event κ))
    (n : Nat) :
    log step s (events.take n) =
      (log step s events).take n := by
  induction events generalizing s n with
  | nil => simp [log]
  | cons event events ih =>
      cases n with
      | zero => rfl
      | succ n =>
          simp only [List.take_succ_cons, log, ih]

/- An entry of a history tells what a part of the run met. -/
theorem exists_split_of_mem_log
    {step : σ → Event κ → σ}
    {s : σ}
    {events : List (Event κ)}
    {e : Entry σ κ}
    (h : e ∈ log step s events) :
    ∃ first event second,
      events = first ++ event :: second ∧
        e = ⟨run step s first, event.now, event.call⟩ := by
  induction events generalizing s with
  | nil => cases h
  | cons event events ih =>
      rcases List.mem_cons.mp h with rfl | hLater
      · exact ⟨[], event, events, rfl, rfl⟩
      · rcases ih hLater with
          ⟨first, event', second, rfl, rfl⟩
        exact ⟨event :: first, event', second, rfl, rfl⟩

------------------------------------------------------------
-- What Lasts
------------------------------------------------------------

/- Something has begun, and its end has not come since. -/
def Since
    (begins ends : ε → Prop)
    (entries : List ε) : Prop :=
  ∃ before e after,
    entries = before ++ e :: after ∧
      begins e ∧ ∀ f ∈ after, ¬ends f

/- Nothing has begun in an empty history. -/
theorem not_since_nil
    (begins ends : ε → Prop) :
    ¬Since begins ends [] := by
  rintro ⟨before, e, after, hSplit, _⟩
  simp at hSplit

/- What lasts began just now, or lasted and did not end. -/
theorem since_append_singleton
    (begins ends : ε → Prop)
    (entries : List ε)
    (e : ε) :
    Since begins ends (entries ++ [e]) ↔
      begins e ∨ Since begins ends entries ∧ ¬ends e := by
  constructor
  · rintro ⟨before, b, after, hSplit, hBegins, hNoEnd⟩
    rcases List.eq_nil_or_concat after with
      rfl | ⟨after', f, rfl⟩
    · have hLast := List.append_inj' hSplit rfl
      rw [List.singleton_inj.mp hLast.2]
      exact Or.inl hBegins
    · rw [List.concat_eq_append, ← List.cons_append,
        ← List.append_assoc] at hSplit
      have hParts := List.append_inj' hSplit rfl
      have hLast : e = f := List.singleton_inj.mp hParts.2
      rw [List.concat_eq_append] at hNoEnd
      refine Or.inr ⟨?_, ?_⟩
      · refine ⟨before, b, after', hParts.1, hBegins, ?_⟩
        intro g hg
        exact hNoEnd g (List.mem_append_left _ hg)
      · rw [hLast]
        exact hNoEnd f (by simp)
  · rintro (hBegins | ⟨hSince, hNoEnd⟩)
    · exact ⟨entries, e, [], rfl, hBegins, by simp⟩
    · rcases hSince with
        ⟨before, b, after, rfl, hBegins, hNoEnds⟩
      refine ⟨before, b, after ++ [e], by simp, hBegins, ?_⟩
      intro f hf
      rcases List.mem_append.mp hf with hOld | hNew
      · exact hNoEnds f hOld
      · rw [List.mem_singleton.mp hNew]
        exact hNoEnd

/- What lasts has begun. -/
theorem Since.exists_mem
    {begins ends : ε → Prop}
    {entries : List ε}
    (h : Since begins ends entries) :
    ∃ e ∈ entries, begins e := by
  rcases h with ⟨before, e, after, rfl, hBegins, _⟩
  exact ⟨e, by simp, hBegins⟩

------------------------------------------------------------
-- What Holds Throughout
------------------------------------------------------------

/- Something holds of every entry and those before it. -/
def Throughout
    (P : List ε → ε → Prop)
    (entries : List ε) : Prop :=
  ∀ before e after,
    entries = before ++ e :: after → P before e

/- What holds throughout holds of the last entry too. -/
theorem Throughout.append_singleton
    {P : List ε → ε → Prop}
    {entries : List ε}
    {e : ε}
    (h : Throughout P entries)
    (hLast : P entries e) :
    Throughout P (entries ++ [e]) := by
  intro before f after hSplit
  rcases List.eq_nil_or_concat after with
    rfl | ⟨after', g, rfl⟩
  · have hParts := List.append_inj' hSplit rfl
    rw [← hParts.1, ← List.singleton_inj.mp hParts.2]
    exact hLast
  · rw [List.concat_eq_append, ← List.cons_append,
      ← List.append_assoc] at hSplit
    exact h before f after' (List.append_inj' hSplit rfl).1

/- What every run does next holds throughout its history. -/
theorem throughout_log
    {step : σ → Event κ → σ}
    {s : σ}
    {P : List (Entry σ κ) → Entry σ κ → Prop}
    (h :
      ∀ events, ∀ event : Event κ,
        P (log step s events)
          ⟨run step s events, event.now, event.call⟩)
    (events : List (Event κ)) :
    Throughout P (log step s events) := by
  induction events using List.reverseRecOn with
  | nil =>
      intro before e after hSplit
      simp [log] at hSplit
  | append_singleton events event ih =>
      rw [log_append_singleton]
      exact ih.append_singleton (h events event)

------------------------------------------------------------
-- What Entries Tell
------------------------------------------------------------

variable {α : Type} {tells : ε → Option α}
variable {entries : List ε} {e : ε}

/- What is told with an entry more ends in what it tells. -/
theorem filterMap_append_singleton
    (tells : ε → Option α)
    (entries : List ε)
    (e : ε) :
    (entries ++ [e]).filterMap tells =
      entries.filterMap tells ++ (tells e).toList := by
  rw [List.filterMap_append]
  cases hTells : tells e with
  | none =>
      rw [List.filterMap_cons_none hTells]
      rfl
  | some a =>
      rw [List.filterMap_cons_some hTells]
      rfl

/- An entry more tells what it tells by itself. -/
theorem mem_filterMap_append_singleton
    {a : α} :
    a ∈ (entries ++ [e]).filterMap tells ↔
      a ∈ entries.filterMap tells ∨ tells e = some a := by
  rw [List.filterMap_append, List.mem_append]
  simp only [List.mem_filterMap, List.mem_singleton,
    exists_eq_left]

/- Nothing is told twice if each entry tells news. -/
theorem nodup_filterMap_append_singleton :
    ((entries ++ [e]).filterMap tells).Nodup ↔
      (entries.filterMap tells).Nodup ∧
        ∀ a, tells e = some a →
          a ∉ entries.filterMap tells := by
  rw [List.filterMap_append]
  cases hTells : tells e with
  | none =>
      rw [List.filterMap_cons_none hTells,
        List.filterMap_nil, List.append_nil]
      simp
  | some a =>
      rw [List.filterMap_cons_some hTells,
        List.filterMap_nil, List.nodup_append]
      constructor
      · intro hParts
        refine ⟨hParts.1, ?_⟩
        intro b hb hMem
        cases hb
        exact
          hParts.2.2 a hMem a (List.mem_singleton_self a) rfl
      · intro hNew
        refine ⟨hNew.1, by simp, ?_⟩
        intro b hMem c hc hSame
        rw [hSame, List.mem_singleton.mp hc] at hMem
        exact hNew.2 a rfl hMem

/- What tells one thing at most is counted by what it tells. -/
theorem length_flatMap_eq_countP
    {tellsAll : ε → List α}
    {tellsOne : ε → Bool}
    (h :
      ∀ e, (tellsAll e).length = if tellsOne e then 1 else 0)
    (entries : List ε) :
    (entries.flatMap tellsAll).length =
      entries.countP tellsOne := by
  induction entries with
  | nil => rfl
  | cons e entries ih =>
      rw [List.flatMap_cons, List.length_append, ih, h,
        List.countP_cons, Nat.add_comm]

end History

end Gatehouse
