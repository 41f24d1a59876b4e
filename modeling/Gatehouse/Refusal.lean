/-
  Refusals.

  A refusal has a reason.  The person who asked may see the
  reason, except for a failure inside, whose details are
  for the log alone.

  Key definitions include:
    * `Refusal`
    * `Refusal.message`
    * `Refusal.reason`
-/

namespace Gatehouse

/- Why something that was asked for is not done. -/
inductive Refusal where
  | badRequest (reason : String)
  | unauthorized (reason : String)
  | forbidden (reason : String)
  | notFound (reason : String)
  | failed (details : String)
  deriving DecidableEq, Repr

namespace Refusal

/- The text for the log. -/
def message :
    Refusal → String
  | .badRequest r => "bad request: " ++ r
  | .unauthorized r => "unauthorized: " ++ r
  | .forbidden r => "forbidden: " ++ r
  | .notFound r => "not found: " ++ r
  | .failed d => "internal error: " ++ d

/- What stands for the details of a failure. -/
def concealed : String :=
  "internal error"

/- The text for the person who asked. -/
def reason :
    Refusal → String
  | .badRequest r => r
  | .unauthorized r => r
  | .forbidden r => r
  | .notFound r => r
  | .failed _ => concealed

/- Failures with different details look alike. -/
theorem reason_failed
    (d d' : String) :
    (failed d).reason = (failed d').reason := rfl

end Refusal

end Gatehouse
