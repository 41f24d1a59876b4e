import Gatehouse.Proofs.Login.Faithfulness

/-
  How pruning agrees with expiry.

  Starting a login and counting the waiting ones both drop
  the logins that are no longer fresh, and an exchange
  refuses those that are expired.  The two limits meet at
  one age: a login of exactly the lifetime is accepted while
  it waits, and is dropped by a pruning.  At all other ages
  what happens in between makes no difference.

  Key definitions include:
    * `Login.Demand.Prunes`
    * `Login.Desk.Bystander`
    * `Login.Desk.DroppedAtLimit`

  Main results include:
    * `Login.Waiting.get?_prune_eq_none_iff`
    * `Login.Waiting.take_eq_expired_iff`
    * `Login.Desk.get?_afterAll`
    * `Login.Desk.exchange_despite_pruning`
-/

namespace Gatehouse

namespace Login

open Http (Client)

------------------------------------------------------------
-- The Two Limits
------------------------------------------------------------

namespace Pending

/- A login is fresh below its lifetime. -/
theorem isFresh_eq_false_iff
    (p : Pending)
    (now : Nat) :
    p.isFresh now = false ↔ lifetime ≤ p.age now := by
  unfold isFresh
  rw [decide_eq_false_iff_not, Nat.not_lt]

/- The age of a login does not fall. -/
theorem age_le
    (p : Pending)
    {t now : Nat}
    (h : t ≤ now) :
    p.age t ≤ p.age now := by
  unfold age
  omega

/- A login reaches its lifetime at one instant only. -/
theorem eq_of_age_eq_lifetime
    (p : Pending)
    {t now : Nat}
    (h : p.age t = lifetime)
    (h' : p.age now = lifetime) :
    t = now := by
  have hPositive : 0 < lifetime := by decide
  unfold age at h h'
  omega

end Pending

/- What is said of a state that does not wait. -/
def Fault.unknownState : Fault :=
  .invalidState "unknown or already used state"

/- What is said of a state that has waited too long. -/
def Fault.expiredState : Fault :=
  .invalidState "state expired"

namespace Waiting

variable {w : Waiting}
variable {now : Nat}
variable {state : String}
variable {p : Pending}

/- What is left by a pruning is below its lifetime. -/
theorem get?_prune_eq_some_iff :
    (w.prune now).get? state = some p ↔
      w.get? state = some p ∧
        ¬Pending.lifetime ≤ p.age now := by
  unfold prune
  rw [Table.get?_retain, Option.filter_eq_some_iff,
    ← p.isFresh_eq_false_iff, Bool.not_eq_false]

/- A state is dropped from the lifetime on. -/
theorem get?_prune_eq_none_iff
    (hWaits : w.get? state = some p) :
    (w.prune now).get? state = none ↔
      Pending.lifetime ≤ p.age now := by
  rw [Option.eq_none_iff_forall_ne_some]
  simp only [ne_eq, get?_prune_eq_some_iff, hWaits,
    Option.some.injEq, not_and, not_not]
  exact ⟨fun h => h p rfl, fun h q hSame => hSame ▸ h⟩

/- A state is refused as expired beyond the lifetime. -/
theorem take_eq_expired_iff
    (hWaits : w.get? state = some p) :
    (w.take now state).1 = .error Fault.expiredState ↔
      Pending.lifetime < p.age now := by
  unfold take
  rw [hWaits]
  by_cases hOld : Pending.lifetime < p.age now
  · have hExpired : p.isExpired now = true :=
      decide_eq_true hOld
    dsimp only
    rw [if_pos hExpired]
    exact ⟨fun _ => hOld, fun _ => rfl⟩
  · have hAccepted : p.isExpired now = false :=
      decide_eq_false hOld
    dsimp only
    rw [hAccepted]
    simp [hOld]

/- A state that does not wait is refused as unknown. -/
theorem take_of_absent
    (hAbsent : w.get? state = none) :
    (w.take now state).1 = .error Fault.unknownState := by
  unfold take
  rw [hAbsent]
  rfl

/- Taking a state looks at nothing but its login. -/
theorem take_congr
    {w' : Waiting}
    (h : w.get? state = w'.get? state) :
    (w.take now state).1 = (w'.take now state).1 := by
  unfold take
  rw [h]
  cases w'.get? state with
  | none => rfl
  | some q =>
      dsimp only
      split <;> rfl

end Waiting

------------------------------------------------------------
-- What Happens in Between
------------------------------------------------------------

/- Does a demand prune the waiting logins? -/
def Demand.Prunes
    (e : Endpoints) :
    Demand → Prop
  | .count => True
  | .start _ => ∃ u, Url.parse e.authorizeUrl = .ok u
  | _ => False

namespace Desk

variable {ν : Type}

/- The provider after demands, each at its moment. -/
def afterAll
    (e : Endpoints)
    (k : Client ν)
    (demands : List (Moment × Demand))
    (s : Waiting × ν) : Waiting × ν :=
  demands.foldl (fun s d => e.attend k d.1 d.2 s) s

/-
  Does a demand leave a state to others: does it come no
  later than an instant, redeem no code under the state, and
  start no login under it?
-/
def Bystander
    (state : String)
    (now : Nat)
    (d : Moment × Demand) : Prop :=
  d.1.steady ≤ now ∧
    (∀ code, d.2 ≠ .redeem code state) ∧
      ∀ address, d.2 = .start address →
        tokenOf d.1.seed.state.toList ≠ state

/- Is a login dropped by a demand, if it waits? -/
def Drops
    (e : Endpoints)
    (p : Pending)
    (d : Moment × Demand) : Prop :=
  d.2.Prunes e ∧ Pending.lifetime ≤ p.age d.1.steady

/- Does a login reach its lifetime as a demand prunes? -/
def DroppedAtLimit
    (e : Endpoints)
    (now : Nat)
    (demands : List (Moment × Demand))
    (p : Pending) : Prop :=
  p.age now = Pending.lifetime ∧
    ∃ d ∈ demands, d.2.Prunes e ∧ d.1.steady = now

variable {e : Endpoints}
variable {k : Client ν}
variable {state : String}
variable {now : Nat}
variable {p : Pending}

/- A login that is neither replaced nor dropped waits on. -/
theorem get?_add_eq_some_iff
    {w : Waiting}
    {steady : Nat}
    {other : String}
    (hOther : other ≠ state)
    (q : Pending) :
    (w.add steady other q).get? state = some p ↔
      w.get? state = some p ∧
        ¬Pending.lifetime ≤ p.age steady := by
  unfold Waiting.add
  rw [Table.get?_insert, if_neg hOther]
  exact Waiting.get?_prune_eq_some_iff

/- A bystander keeps a login unless it drops it. -/
theorem get?_attend_eq_some_iff
    {d : Moment × Demand}
    (hBystander : Bystander state now d)
    (s : Waiting × ν) :
    (e.attend k d.1 d.2 s).1.get? state = some p ↔
      s.1.get? state = some p ∧ ¬Drops e p d := by
  rcases d with ⟨t, demand⟩
  rcases hBystander with ⟨_, hRedeems, hStarts⟩
  unfold Drops
  cases demand with
  | start address =>
      have hOther := hStarts address rfl
      dsimp only [Endpoints.attend, Endpoints.provider,
        Endpoints.authorize, Endpoints.authorizationUrl,
        Demand.Prunes]
      cases hUrl : Url.parse e.authorizeUrl with
      | error f => simp
      | ok u =>
          dsimp only
          rw [get?_add_eq_some_iff hOther]
          simp
  | redeem code other =>
      have hOther : other ≠ state := by
        rintro rfl
        exact hRedeems code rfl
      dsimp only [Endpoints.attend, Endpoints.provider,
        Demand.Prunes]
      rw [Endpoints.waiting_exchange,
        Waiting.get?_take_of_ne hOther]
      simp
  | revoke token =>
      dsimp only [Endpoints.attend, Endpoints.provider,
        Demand.Prunes]
      simp
  | count =>
      dsimp only [Endpoints.attend, Demand.Prunes]
      rw [Waiting.get?_prune_eq_some_iff, true_and]
  | nothing =>
      dsimp only [Endpoints.attend, Demand.Prunes]
      simp

/- Bystanders keep a login unless one of them drops it. -/
theorem get?_afterAll_eq_some_iff
    (demands : List (Moment × Demand))
    (hAll : ∀ d ∈ demands, Bystander state now d)
    (s : Waiting × ν) :
    (afterAll e k demands s).1.get? state = some p ↔
      s.1.get? state = some p ∧
        ∀ d ∈ demands, ¬Drops e p d := by
  induction demands generalizing s with
  | nil => simp [afterAll]
  | cons d ds ih =>
      rcases List.forall_mem_cons.mp hAll with
        ⟨hFirst, hRest⟩
      have hLater := ih hRest (e.attend k d.1 d.2 s)
      rw [get?_attend_eq_some_iff hFirst, and_assoc] at hLater
      rw [List.forall_mem_cons]
      exact hLater

/-
  Bystanders drop a login that is not expired only if it
  reaches its lifetime as one of them prunes.
-/
theorem exists_drops_iff
    {demands : List (Moment × Demand)}
    (hAll : ∀ d ∈ demands, Bystander state now d)
    (hYoung : p.age now ≤ Pending.lifetime) :
    (∃ d ∈ demands, Drops e p d) ↔
      DroppedAtLimit e now demands p := by
  unfold DroppedAtLimit Drops
  constructor
  · rintro ⟨d, hd, hPrunes, hOld⟩
    have hAge := p.age_le (hAll d hd).1
    have hLimit : p.age now = Pending.lifetime := by omega
    have hSame : p.age d.1.steady = Pending.lifetime := by
      omega
    exact
      ⟨hLimit, d, hd, hPrunes,
        p.eq_of_age_eq_lifetime hSame hLimit⟩
  · rintro ⟨hLimit, d, hd, hPrunes, rfl⟩
    exact ⟨d, hd, hPrunes, Nat.le_of_eq hLimit.symm⟩

/- An exchange looks at what it takes, and at nothing else. -/
theorem exchange_congr
    {w w' : Waiting}
    (h : (w.take now state).1 = (w'.take now state).1)
    (code : String)
    (net : ν) :
    (e.exchange k now code state w net).1 =
      (e.exchange k now code state w' net).1 := by
  unfold Endpoints.exchange
  rcases hTake : w.take now state with ⟨reply, left⟩
  rcases hTake' : w'.take now state with ⟨reply', left'⟩
  rw [hTake, hTake'] at h
  cases h
  cases reply with
  | error f => rfl
  | ok q => rfl

/-
  What is taken after bystanders: a login that would have
  been taken still is, unless it was dropped at the limit.
-/
theorem take_afterAll
    (k : Client ν)
    {demands : List (Moment × Demand)}
    (hAll : ∀ d ∈ demands, Bystander state now d)
    (s : Waiting × ν)
    (hTaken : (s.1.take now state).1 = .ok p) :
    (DroppedAtLimit e now demands p →
        ((afterAll e k demands s).1.take now state).1 =
          .error Fault.unknownState) ∧
      (¬DroppedAtLimit e now demands p →
        ((afterAll e k demands s).1.take now state).1 =
          (s.1.take now state).1) := by
  rcases Waiting.take_eq_ok_iff.mp hTaken with
    ⟨hWaits, hYoung⟩
  rw [← exists_drops_iff hAll hYoung]
  constructor
  · rintro ⟨d, hd, hDrops⟩
    apply Waiting.take_of_absent
    rw [Option.eq_none_iff_forall_ne_some]
    intro q hKept
    rw [get?_afterAll_eq_some_iff demands hAll, hWaits] at hKept
    rw [← Option.some.inj hKept.1] at hKept
    exact hKept.2 d hd hDrops
  · intro hNone
    apply Waiting.take_congr
    rw [hWaits, get?_afterAll_eq_some_iff demands hAll]
    refine ⟨hWaits, ?_⟩
    intro d hd hDrops
    exact hNone ⟨d, hd, hDrops⟩

/- What is refused is refused after bystanders as well. -/
theorem take_afterAll_of_refused
    (k : Client ν)
    {demands : List (Moment × Demand)}
    (hAll : ∀ d ∈ demands, Bystander state now d)
    (s : Waiting × ν)
    {f : Fault}
    (hRefused : (s.1.take now state).1 = .error f) :
    ∃ details,
      ((afterAll e k demands s).1.take now state).1 =
        .error (.invalidState details) := by
  cases hKept : (afterAll e k demands s).1.get? state with
  | none => exact ⟨_, Waiting.take_of_absent hKept⟩
  | some p =>
      have hWaits :=
        ((get?_afterAll_eq_some_iff demands hAll s).mp
          hKept).1
      refine ⟨_, (Waiting.take_eq_expired_iff hKept).mpr ?_⟩
      by_contra hYoung
      have hTaken :=
        Waiting.take_eq_ok_iff.mpr
          ⟨hWaits, Nat.not_lt.mp hYoung⟩
      rw [hTaken] at hRefused
      cases hRefused

/-
  Pruning against expiry.  At one instant, a waiting state
  is dropped by a pruning from its lifetime on, and refused
  as expired beyond it, so all that is dropped is refused
  unless it is exactly as old as the lifetime.  Over a run,
  an exchange that would find its login still does, and
  gives the same, unless a pruning came at the instant of
  the exchange and the login had just reached its lifetime;
  then the state is unknown.
-/
theorem exchange_despite_pruning
    (e : Endpoints)
    (k : Client ν)
    (s : Waiting × ν)
    (now : Nat)
    (code state : String) :
    (∀ p, s.1.get? state = some p →
      ((s.1.prune now).get? state = none ↔
          Pending.lifetime ≤ p.age now) ∧
        ((s.1.take now state).1 =
              .error Fault.expiredState ↔
            Pending.lifetime < p.age now) ∧
          ((s.1.prune now).get? state = none →
            p.age now ≠ Pending.lifetime →
              (e.exchange k now code state s.1 s.2).1 =
                .error Fault.expiredState)) ∧
      ∀ demands, (∀ d ∈ demands, Bystander state now d) →
        (∀ p, (s.1.take now state).1 = .ok p →
          (DroppedAtLimit e now demands p →
              (e.exchange k now code state
                  (afterAll e k demands s).1
                  (afterAll e k demands s).2).1 =
                .error Fault.unknownState) ∧
            (¬DroppedAtLimit e now demands p →
              (e.exchange k now code state
                  (afterAll e k demands s).1
                  (afterAll e k demands s).2).1 =
                (e.exchange k now code state s.1
                  (afterAll e k demands s).2).1)) ∧
          ∀ f, (s.1.take now state).1 = .error f →
            ∃ details,
              (e.exchange k now code state
                  (afterAll e k demands s).1
                  (afterAll e k demands s).2).1 =
                .error (.invalidState details) := by
  refine ⟨?_, ?_⟩
  · intro p hWaits
    have hDropped :
        (s.1.prune now).get? state = none ↔
          Pending.lifetime ≤ p.age now :=
      Waiting.get?_prune_eq_none_iff hWaits
    have hExpired :
        (s.1.take now state).1 = .error Fault.expiredState ↔
          Pending.lifetime < p.age now :=
      Waiting.take_eq_expired_iff hWaits
    refine ⟨hDropped, hExpired, ?_⟩
    intro hGone hNotLimit
    have hOld := hDropped.mp hGone
    have hRefused := hExpired.mpr (by omega)
    rw [Endpoints.exchange_of_refused k _ _ _ _ _ e hRefused]
  · intro demands hAll
    refine ⟨?_, ?_⟩
    · intro p hTaken
      rcases take_afterAll k hAll s hTaken with
        ⟨hAtLimit, hOther⟩
      refine ⟨?_, ?_⟩
      · intro hLimit
        rw [Endpoints.exchange_of_refused k _ _ _ _ _ e
          (hAtLimit hLimit)]
      · intro hNotLimit
        exact exchange_congr (hOther hNotLimit) code _
    · intro f hRefused
      rcases take_afterAll_of_refused (e := e) k hAll s
          hRefused with ⟨details, hReply⟩
      refine ⟨details, ?_⟩
      rw [Endpoints.exchange_of_refused k _ _ _ _ _ e hReply]

/- The provider after one login was started. -/
def oneWaiting : Waiting × Unit :=
  plainEndpoints.attend givingNetwork (drawing 0 0)
    (.start "http://localhost/a") (Table.empty, ())

/- Another login that starts at an instant. -/
def anotherAt
    (steady : Nat) : List (Moment × Demand) :=
  [(drawing steady 1, .start "http://localhost/b")]

/- The user that the network gives. -/
def givenUser : User :=
  ⟨"1", "1", "1", .hide "t", [], []⟩

/- Before the limit, the other login makes no difference. -/
theorem exchange_oneWaiting_below_limit :
    (plainEndpoints.exchange givingNetwork
        (Pending.lifetime - 1) "c" (stateOf 0)
        (afterAll plainEndpoints givingNetwork
          (anotherAt (Pending.lifetime - 1)) oneWaiting).1
        ()).1 =
      .ok givenUser := by
  have hAll :
      ∀ d ∈ anotherAt (Pending.lifetime - 1),
        Bystander (stateOf 0) (Pending.lifetime - 1) d := by
    intro d hd
    rw [List.mem_singleton.mp hd]
    refine ⟨Nat.le_refl _, ?_, ?_⟩
    · intro code hSame
      cases hSame
    · intro address _
      decide +kernel
  have hTaken :
      (oneWaiting.1.take (Pending.lifetime - 1)
          (stateOf 0)).1 =
        .ok ⟨tokenOf (List.replicate 32 0),
          "http://localhost/a", 0⟩ := by
    decide +kernel
  have hNotLimit :
      ¬DroppedAtLimit plainEndpoints (Pending.lifetime - 1)
        (anotherAt (Pending.lifetime - 1))
        ⟨tokenOf (List.replicate 32 0),
          "http://localhost/a", 0⟩ := by
    rintro ⟨hAge, _⟩
    exact absurd hAge (by decide)
  have hSame :=
    (((exchange_despite_pruning plainEndpoints givingNetwork
      oneWaiting (Pending.lifetime - 1) "c" (stateOf 0)).2 _
        hAll).1 _ hTaken).2 hNotLimit
  refine hSame.trans ?_
  decide +kernel

/-
  At the limit, a login that would be accepted is dropped by
  a pruning, and its code is refused after another login
  started at the same instant, or after a count.
-/
theorem exchange_refused_at_limit :
    (oneWaiting.1.prune Pending.lifetime).get?
          (stateOf 0) = none ∧
      (plainEndpoints.exchange givingNetwork
          Pending.lifetime "c" (stateOf 0) oneWaiting.1
          ()).1 = .ok givenUser ∧
        (plainEndpoints.exchange givingNetwork
            Pending.lifetime "c" (stateOf 0)
            (afterAll plainEndpoints givingNetwork
              (anotherAt Pending.lifetime) oneWaiting).1
            ()).1 = .error Fault.unknownState ∧
          (plainEndpoints.exchange givingNetwork
              Pending.lifetime "c" (stateOf 0)
              (afterAll plainEndpoints givingNetwork
                [(drawing Pending.lifetime 1, .count)]
                oneWaiting).1
              ()).1 = .error Fault.unknownState := by
  refine ⟨?_, ?_, ?_, ?_⟩ <;> decide +kernel

end Desk

end Login

end Gatehouse
