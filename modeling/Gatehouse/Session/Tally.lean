import Gatehouse.Metric.Page

/-
  Counts of logins and sessions.

  Key definitions include:
    * `Session.Tally`
    * `Session.Tally.families`
-/

namespace Gatehouse

namespace Session

/- What a manager has counted. -/
structure Tally where
  /- Logins by what became of them. -/
  initiated : Nat
  completed : Nat
  failed : Nat
  logouts : Nat
  /- Validations by their outcome. -/
  missing : Nat
  valid : Nat
  unknown : Nat
  expired : Nat
  /- Sessions removed by a sweep. -/
  swept : Nat
  /- The number of sessions when it was last noted. -/
  active : Option Nat
  deriving DecidableEq, Repr

namespace Tally

/- Nothing is counted yet. -/
def zero : Tally :=
  ⟨0, 0, 0, 0, 0, 0, 0, 0, 0, none⟩

/- The metrics of a manager. -/
def families
    (t : Tally) : List Metric.Family :=
  [Metric.counters "auth_logins_total" "result"
     [("initiated", t.initiated),
      ("completed", t.completed),
      ("failed", t.failed)],
   Metric.counter "auth_logouts_total" t.logouts,
   Metric.counters "auth_validations_total" "result"
     [("missing", t.missing),
      ("ok", t.valid),
      ("not_found", t.unknown),
      ("expired", t.expired)],
   Metric.counter "auth_sessions_swept_total" t.swept,
   Metric.gauge "auth_sessions_active" t.active]

end Tally

end Session

end Gatehouse
