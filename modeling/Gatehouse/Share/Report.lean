import Gatehouse.Metric.Page
import Gatehouse.Share.Registry

/-
  Metrics of shares.

  Key definitions include:
    * `Share.Tally.families`
-/

namespace Gatehouse

namespace Share

/- The metrics of a registry. -/
def Tally.families
    (t : Tally) : List Metric.Family :=
  [Metric.counter "share_tokens_issued_total" t.issued,
   Metric.counter "share_tokens_expired_total" t.expired]

end Share

end Gatehouse
