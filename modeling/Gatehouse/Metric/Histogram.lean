import Gatehouse.Decimal.Layout
import Gatehouse.Metric.Page

/-
  Histograms.

  A histogram counts observations by upper bounds, and adds
  them up.  The counts on a page are cumulative: each
  observation counts at every bound that it does not exceed.

  Key definitions include:
    * `Metric.numberLayout`
    * `Metric.Histogram`
    * `Metric.Histogram.observe`
    * `Metric.Histogram.samples`
-/

namespace Gatehouse

namespace Metric

/- A number is written without exponent. -/
def numberLayout : Decimal.Layout :=
  { scientific := fun _ => false
    whole := [] }

/- Observations by upper bound. -/
structure Histogram where
  /- Each bound with the observations that it covers. -/
  buckets : List (Float × Nat)
  sum : Float
  count : Nat

namespace Histogram

/- A histogram without observations. -/
def ofBounds
    (bounds : List Float) : Histogram :=
  ⟨bounds.map (fun b => (b, 0)), 0, 0⟩

/- Add an observation. -/
def observe
    (h : Histogram)
    (x : Float) : Histogram :=
  { buckets :=
      h.buckets.map fun b =>
        if x ≤ b.1 then (b.1, b.2 + 1) else b
    sum := h.sum + x
    count := h.count + 1 }

/- The counts of a histogram under some labels. -/
def samples
    (h : Histogram)
    (name : String)
    (labels : List (String × String)) : List Sample :=
  let bucket (bound : String) (n : Nat) : Sample :=
    ⟨name ++ "_bucket", labels ++ [("le", bound)],
      Decimal.text n⟩
  h.buckets.map
      (fun b => bucket (numberLayout.write b.1) b.2) ++
    [bucket "+Inf" h.count,
     ⟨name ++ "_sum", labels, numberLayout.write h.sum⟩,
     ⟨name ++ "_count", labels, Decimal.text h.count⟩]

/- An observation counts once. -/
@[simp]
theorem count_observe
    (h : Histogram)
    (x : Float) :
    (h.observe x).count = h.count + 1 := rfl

end Histogram

end Metric

end Gatehouse
