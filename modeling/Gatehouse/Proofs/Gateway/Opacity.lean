import Gatehouse.Proofs.Gateway.Secrecy
import Mathlib.Data.List.Sort

/-
  Failures of the provider all look the same.

  A client cannot tell how a call of the provider failed, or
  that it was not waited for, or what became of a token that
  was taken back.  Only how long requests took may show, on
  the page of metrics.

  Key definitions include:
    * `Metric.ordered`
    * `Gateway.tellsDuration`
    * `Gateway.Response.withoutDurations`

  Main results include:
    * `Metric.filter_page`
    * `Gateway.Alike.withoutDurations_page`
    * `Gateway.Alike.handle_withoutDurations`
    * `Gateway.responses_independent_of_faults`
-/

namespace Gatehouse

------------------------------------------------------------
-- Pages Without Some Lines
------------------------------------------------------------

namespace Metric

/- Lines in the order of a page. -/
def ordered
    (lines : List String) : List String :=
  lines.mergeSort (fun s t => decide (s ≤ t))

/- No line is before a lesser one. -/
theorem pairwise_ordered
    (lines : List String) :
    (ordered lines).Pairwise (fun s t => s ≤ t) := by
  have hSorted :
      (ordered lines).Pairwise
        (fun s t => decide (s ≤ t) = true) := by
    apply List.pairwise_mergeSort
    · simpa using fun _ _ _ => String.le_trans
    · simpa using String.le_total
  simpa using hSorted

/- Lines in order are the same lines. -/
theorem perm_ordered
    (lines : List String) :
    (ordered lines).Perm lines :=
  List.mergeSort_perm _ _

/-
  A page without some lines is the page of the other lines,
  as its order depends on the lines alone.
-/
theorem filter_page
    (keep : String → Bool)
    (fs : List Family) :
    (page fs).filter keep =
      ordered
        ((fs.flatMap Family.lines).filter keep) := by
  have hLines :=
    (perm_ordered (fs.flatMap Family.lines)).filter keep
  have hSame := hLines.trans (perm_ordered _).symm
  apply
    hSame.eq_of_pairwise _
      ((pairwise_ordered _).filter keep)
      (pairwise_ordered _)
  intro s t _ _ hLe hGe
  exact String.le_antisymm hLe hGe

/- The line of a sample begins with its name. -/
theorem Sample.prefix_line
    (s : Sample) :
    s.name.toList <+: s.line.toList := by
  unfold line
  split
  · simp [String.toList_append, List.append_assoc]
  · simp [String.toList_append, List.append_assoc]

end Metric

namespace Gateway

open Session.Manager (briefTerms)

------------------------------------------------------------
-- Durations
------------------------------------------------------------

/- Does a line of a page tell how long requests took? -/
def tellsDuration
    (line : String) : Bool :=
  Traffic.durationName.toList.isPrefixOf line.toList

/- The lines that do not tell how long requests took. -/
def withoutDurations
    (lines : List String) : List String :=
  lines.filter (fun line => !tellsDuration line)

/- A response that does not tell how long requests took. -/
def Response.withoutDurations
    (response : Response) : Response :=
  match response.body with
  | .page lines =>
      { response with
        body := .page (Gateway.withoutDurations lines) }
  | _ => response

/- The samples of durations all tell them. -/
theorem tellsDuration_of_mem
    {e : Nat × Metric.Histogram}
    {s : Metric.Sample}
    (hs : s ∈ Traffic.durationSamples e) :
    tellsDuration s.line = true := by
  have hName :
      Traffic.durationName.toList <+: s.name.toList := by
    unfold Traffic.durationSamples
      Metric.Histogram.samples at hs
    simp only [List.mem_append, List.mem_map, List.mem_cons,
      List.not_mem_nil, or_false] at hs
    rcases hs with ⟨b, _, rfl⟩ | rfl | rfl | rfl <;>
      simp [String.toList_append]
  unfold tellsDuration
  rw [List.isPrefixOf_iff_prefix]
  exact hName.trans s.prefix_line

/- There are samples for each status that was answered. -/
theorem durationSamples_ne_nil
    (e : Nat × Metric.Histogram) :
    Traffic.durationSamples e ≠ [] := by
  simp [Traffic.durationSamples, Metric.Histogram.samples]

/- The family of the durations. -/
def durationFamily
    (t : Traffic) : Metric.Family :=
  ⟨Traffic.durationName, .histogram,
    t.durations.entries.flatMap Traffic.durationSamples⟩

/-
  Without the durations, all that is told of them is their
  kind, once a request was answered.
-/
theorem withoutDurations_durationFamily
    (t : Traffic) :
    withoutDurations (durationFamily t).lines =
      if t.durations.size = 0 then
        []
      else
        [(durationFamily t).header] := by
  unfold Metric.Family.lines Table.size
  cases hEntries : t.durations.entries with
  | nil => simp [durationFamily, hEntries, withoutDurations]
  | cons e es =>
      have hNotEmpty :
          ((durationFamily t).samples.isEmpty) = false := by
        simp [durationFamily, hEntries,
          durationSamples_ne_nil]
      have hHeader :
          tellsDuration (durationFamily t).header =
            false := by
        change tellsDuration
          "# TYPE gateway_request_duration_seconds histogram"
            = false
        decide
      have hSamples :
          ((durationFamily t).samples.map
            Metric.Sample.line).filter
              (fun line => !tellsDuration line) = [] := by
        rw [List.filter_eq_nil_iff]
        intro line hLine
        rcases List.mem_map.mp hLine with ⟨s, hs, rfl⟩
        rcases List.mem_flatMap.mp hs with ⟨e', _, hs'⟩
        simp [tellsDuration_of_mem hs']
      rw [hNotEmpty]
      simp [withoutDurations, hHeader, hSamples]

/- All metrics but the durations. -/
def otherFamilies
    {σ : Type}
    (g : Gateway σ) : List Metric.Family :=
  g.sessions.tally.families ++ g.shares.tally.families ++
    [⟨Traffic.answeredName, .counter,
      g.traffic.answered.entries.map
        Traffic.answeredSample⟩]

/- The durations are the last of the metrics. -/
theorem families_eq_append
    {σ : Type}
    (g : Gateway σ) :
    g.families =
      g.otherFamilies ++ [durationFamily g.traffic] := by
  simp [families, Traffic.families, otherFamilies,
    durationFamily]

variable {σ₁ σ₂ : Type}
variable {R : User → User → Prop}

namespace Alike

variable {g₁ : Gateway σ₁}
variable {g₂ : Gateway σ₂}

/- Gateways that are alike agree in all other metrics. -/
theorem otherFamilies
    (h : g₁.Alike R g₂) :
    g₁.otherFamilies = g₂.otherFamilies := by
  unfold Gateway.otherFamilies
  rw [h.sessions.tally, h.shares, h.answered]

/-
  Gateways that are alike have the same page of metrics
  without the durations.
-/
theorem withoutDurations_page
    (h : g₁.Alike R g₂) :
    withoutDurations (Metric.page g₁.families) =
      withoutDurations (Metric.page g₂.families) := by
  have hDurations :
      withoutDurations (durationFamily g₁.traffic).lines =
        withoutDurations
          (durationFamily g₂.traffic).lines := by
    rw [withoutDurations_durationFamily,
      withoutDurations_durationFamily, h.durations.size]
    rfl
  unfold withoutDurations at hDurations ⊢
  rw [Metric.filter_page, Metric.filter_page,
    families_eq_append, families_eq_append,
    h.otherFamilies]
  simp only [List.flatMap_append, List.flatMap_singleton,
    List.filter_append, hDurations]

/-
  Gateways that are alike give the same response without the
  durations, if the providers answer alike.
-/
theorem handle_withoutDurations
    (hR : ∀ u v, R u v → u.SameButToken v)
    (h : g₁.Alike R g₂)
    {p₁ : Login.Provider σ₁}
    {p₂ : Login.Provider σ₂}
    {r : Request}
    (hAnswered :
      AnsweredAlike R p₁ p₂ g₁.sessions g₂.sessions r)
    (o : Occasion)
    (seconds : Float) :
    (g₁.handle p₁ o r).1.withoutDurations =
      (g₂.handle p₂
        { o with seconds := seconds } r).1.withoutDurations
    := by
  rcases (h.handle hR hAnswered o seconds).2 with
    hSame | ⟨hPage₁, hPage₂⟩
  · rw [hSame]
  · rw [hPage₁, hPage₂]
    dsimp only [Response.withoutDurations, Response.page]
    rw [h.withoutDurations_page]

end Alike

------------------------------------------------------------
-- Whole Runs
------------------------------------------------------------

/-
  No response depends on how the provider fails.  Take two
  runs of new gateways over the same events, each with a
  provider of its own, where requests may take longer in the
  one than in the other.  If the providers succeed in the
  same calls, in time and with the same values, then all
  responses of the two runs are the same but for the lines
  that tell durations, and the stored sessions and shares
  are the same at every point.  Where a start or an end of a
  login fails, it may do so in any way, and what becomes of
  tokens that are taken back does not matter.
-/
theorem responses_independent_of_faults
    (p₁ : Login.Provider σ₁)
    (p₂ : Login.Provider σ₂)
    (terms : Session.Terms)
    (provider₁ : σ₁)
    (provider₂ : σ₂)
    (usualLifetime : Option Span)
    (tick : Nat)
    (events₁ events₂ : List Event)
    (hSame :
      events₁.map Event.untimed =
        events₂.map Event.untimed)
    (hAnswered :
      ∀ n o r,
        events₁[n]? = some (.request o r) →
          AnsweredAlike Eq p₁ p₂
            (run p₁
              (start (Session.Manager.start terms provider₁)
                usualLifetime tick)
              (events₁.take n)).sessions
            (run p₂
              (start (Session.Manager.start terms provider₂)
                usualLifetime tick)
              (events₂.take n)).sessions r)
    (n : Nat) :
    (responseAt p₁
          (start (Session.Manager.start terms provider₁)
            usualLifetime tick) events₁ n).map
          Response.withoutDurations =
        (responseAt p₂
          (start (Session.Manager.start terms provider₂)
            usualLifetime tick) events₂ n).map
          Response.withoutDurations ∧
      (run p₁
          (start (Session.Manager.start terms provider₁)
            usualLifetime tick)
          (events₁.take n)).sessions.sessions =
        (run p₂
          (start (Session.Manager.start terms provider₂)
            usualLifetime tick)
          (events₂.take n)).sessions.sessions ∧
        (run p₁
            (start (Session.Manager.start terms provider₁)
              usualLifetime tick)
            (events₁.take n)).shares =
          (run p₂
            (start (Session.Manager.start terms provider₂)
              usualLifetime tick)
            (events₂.take n)).shares := by
  have hR : ∀ u v : User, u = v → u.SameButToken v := by
    rintro u v rfl
    rfl
  have hRun :=
    alike_run hR
      (alike_start Eq terms provider₁ provider₂
        usualLifetime tick) hSame hAnswered n
  refine ⟨?_, ?_, hRun.shares⟩
  · unfold responseAt
    have hEvents := congrArg (·[n]?) hSame
    simp only [List.getElem?_map] at hEvents
    cases hEvent₁ : events₁[n]? with
    | none =>
        rw [hEvent₁] at hEvents
        rw [Option.map_eq_none_iff.mp hEvents.symm]
    | some event₁ =>
        rw [hEvent₁] at hEvents
        rcases Option.map_eq_some_iff.mp hEvents.symm with
          ⟨event₂, hEvent₂, hUntimed⟩
        rw [hEvent₂]
        rcases Event.cases_of_untimed hUntimed.symm with
          ⟨o, r, seconds, rfl, rfl⟩ | ⟨rfl, hOther⟩
        · exact
            congrArg some
              (hRun.handle_withoutDurations hR
                (hAnswered n o r hEvent₁) o seconds)
        · cases event₁ with
          | request o r => exact absurd rfl (hOther o r)
          | sweep now => rfl
          | clean now => rfl
  · apply hRun.sessions.sessions.eq
    intro s t hAlike
    exact hAlike.eq

/-
  A provider that lets one user in at once, and whose other
  calls fail after a while.
-/
def admittingAnn
    (delay : Nat)
    (fault : Login.Fault) : Login.Provider Unit where
  authorize := fun _ _ => (⟨delay, .error fault⟩, ())
  exchange := fun _ code _ =>
    if code = "ann" then
      (⟨0, .ok ⟨"ann", "ann", "ann", .hide "token", [], []⟩⟩,
        ())
    else
      (⟨delay, .error fault⟩, ())
  revoke := fun _ _ => (⟨delay, .error fault⟩, ())

/- What fails brings nothing, however long it takes. -/
theorem isDone_of_fault
    {α : Type}
    (delay patience : Nat)
    (fault : Login.Fault) :
    ((⟨delay, .error fault⟩ : Login.Answer α).within
      patience).isDone = false := by
  unfold Login.Answer.within
  split <;> rfl

/- Such providers answer alike, however they fail. -/
theorem answeredAlike_admittingAnn
    (delay₁ delay₂ : Nat)
    (fault₁ fault₂ : Login.Fault)
    (m₁ m₂ : Session.Manager Unit)
    (r : Request) :
    AnsweredAlike Eq (admittingAnn delay₁ fault₁)
      (admittingAnn delay₂ fault₂) m₁ m₂ r where
  authorize := by
    intro _ address _ _
    exact
      .undone (isDone_of_fault _ _ _) (isDone_of_fault _ _ _)
  exchange := by
    intro _ c _ _ _ _
    dsimp only [admittingAnn]
    split
    · simp only [Login.Answer.within, Nat.not_lt_zero,
        if_false]
      exact .done rfl
    · exact
        .undone (isDone_of_fault _ _ _)
          (isDone_of_fault _ _ _)

/- An occasion at which a request takes some time. -/
def slowly
    (octet : UInt8)
    (seconds : Float) : Occasion :=
  { drawing octet with seconds := seconds }

/-
  A login, another that fails, a logout whose token cannot
  be taken back, and a look at the metrics.
-/
def mixedLogins
    (seconds : Float) : List Event :=
  [.request (slowly 1 seconds) (returnOf "ann"),
   .request (slowly 2 seconds) (returnOf "bob"),
   .request (slowly 3 seconds) (logoutOf (drawing 1)),
   .request (slowly 4 seconds)
     ⟨"GET", .ofChars "/metrics".toList, [], []⟩]

/-
  A provider that refuses and one that is not waited for
  give the same page, but for the durations.
-/
theorem responseAt_mixedLogins :
    (mixedLogins 0).map Event.untimed =
        (mixedLogins 10).map Event.untimed ∧
      (responseAt (admittingAnn 0 (.http "refused"))
          (start (Session.Manager.start briefTerms ())
            none 0)
          (mixedLogins 0) 1).map (·.status) = some 401 ∧
        (responseAt (admittingAnn 0 (.http "refused"))
            (start (Session.Manager.start briefTerms ())
              none 0)
            (mixedLogins 0) 3).map
              Response.withoutDurations =
          (responseAt (admittingAnn 1 (.http ""))
            (start (Session.Manager.start briefTerms ())
              none 0)
            (mixedLogins 10) 3).map
              Response.withoutDurations := by
  refine ⟨rfl, by decide +kernel, ?_⟩
  have hAnswered :=
    responses_independent_of_faults
      (admittingAnn 0 (.http "refused"))
      (admittingAnn 1 (.http "")) briefTerms () () none 0
      (mixedLogins 0) (mixedLogins 10) rfl
      (fun _ _ r _ =>
        answeredAlike_admittingAnn _ _ _ _ _ _ r) 3
  exact hAnswered.1

end Gateway

end Gatehouse
