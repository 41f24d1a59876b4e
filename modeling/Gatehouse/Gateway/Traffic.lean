import Gatehouse.Metric.Histogram
import Gatehouse.Table

/-
  Counts of answered requests.

  Answers are counted by status and method, and their
  durations are observed by status.

  Key definitions include:
    * `Gateway.Traffic`
    * `Gateway.Traffic.record`
    * `Gateway.Traffic.families`
-/

namespace Gatehouse

namespace Gateway

/- What is known of the answered requests. -/
structure Traffic where
  /- Counts by status and method. -/
  answered : Table (Nat × String) Nat
  /- Durations in seconds by status. -/
  durations : Table Nat Metric.Histogram

namespace Traffic

/- No request is answered yet. -/
def empty : Traffic :=
  ⟨Table.empty, Table.empty⟩

/- The bounds of the durations, in seconds. -/
def bounds : List Float :=
  [0.001, 0.005, 0.01, 0.025, 0.05, 0.1, 0.25, 0.5, 1, 2.5,
   5, 10]

/- Count an answer and observe how long it took. -/
def record
    (t : Traffic)
    (status : Nat)
    (method : String)
    (seconds : Float) : Traffic :=
  let n := (t.answered.get? (status, method)).getD 0
  let h :=
    (t.durations.get? status).getD (.ofBounds bounds)
  ⟨t.answered.insert (status, method) (n + 1),
    t.durations.insert status (h.observe seconds)⟩

/- The name of the counts of answers. -/
def answeredName : String :=
  "gateway_requests_total"

/- The name of the durations. -/
def durationName : String :=
  "gateway_request_duration_seconds"

/- The sample of a count of answers. -/
def answeredSample
    (e : (Nat × String) × Nat) : Metric.Sample :=
  ⟨answeredName,
    [("status", Decimal.text e.1.1), ("method", e.1.2)],
    Decimal.text e.2⟩

/- The samples of durations. -/
def durationSamples
    (e : Nat × Metric.Histogram) : List Metric.Sample :=
  e.2.samples durationName [("status", Decimal.text e.1)]

/- The metrics of the answered requests. -/
def families
    (t : Traffic) : List Metric.Family :=
  [⟨answeredName, .counter,
     t.answered.entries.map answeredSample⟩,
   ⟨durationName, .histogram,
     t.durations.entries.flatMap durationSamples⟩]

end Traffic

end Gateway

end Gatehouse
