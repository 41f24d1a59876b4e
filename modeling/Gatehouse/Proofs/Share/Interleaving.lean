import Gatehouse.Proofs.Share.Validity

/-
  Calls that overlap.

  A call of a registry reaches the store in steps, and other
  calls may take their steps in between.  A creation mints
  its share first and claims the session later; a revocation
  looks at the creator first and deletes the token later.
  All other calls take a single step.  A crowd is a registry
  with any number of calls under way, of which one takes its
  next step at a time.

  Key definitions include:
    * `Share.Registry.Stage`
    * `Share.Registry.Stage.advance`
    * `Share.Registry.Serves`
    * `Share.Registry.Move`
    * `Share.Registry.Stage.remaining`
    * `Share.Registry.Crowd`
    * `Share.Registry.Crowd.next`

  Main results include:
    * `Share.Registry.Stage.advance_twice`
    * `Share.Registry.Stage.move_advance`
    * `Share.Registry.Crowd.next_cases`
    * `Share.Registry.Crowd.answered_of_steps`
-/

namespace Gatehouse

namespace Share

namespace Registry

open Store (Reply)
open Collection (Held put)
open History (Event run)

------------------------------------------------------------
-- Stages
------------------------------------------------------------

/- How far a call has come. -/
inductive Stage where
  | asked (call : Call)
  /- A share is minted, but its session is not claimed yet. -/
  | claiming (x : Share)
  /- The creator is known, but the token is not deleted yet. -/
  | deleting (token : String)
  | answered (reply : Reply)
  deriving DecidableEq

/- The first step of a creation: mint a share. -/
def mint
    (r : Registry)
    (now : Instant)
    (draw : Draw)
    (o : Order) : Stage × Registry :=
  match o.fault? with
  | some e => (.answered (.error e), r)
  | none =>
      let (token, minter) := r.minter.mint now draw
      let r' := { r with minter := minter }
      match o.share? now token with
      | .error e => (.answered (.error e), r')
      | .ok x => (.claiming x, r')

/- The first step of a revocation: look at the creator. -/
def entitle
    (r : Registry)
    (token requester : String) : Stage × Registry :=
  match r.store.findToken token with
  | .error e => (.answered (.error e), r)
  | .ok x =>
      if x.createdBy = requester then
        (.deleting token, r)
      else
        (.answered (.error .notFound), r)

/- The next step of a call. -/
def Stage.advance
    (r : Registry)
    (now : Instant) :
    Stage → Stage × Registry
  | .asked (.create draw o) => r.mint now draw o
  | .asked (.revoke token requester) =>
      r.entitle token requester
  | .asked call =>
      let (reply, r') := r.perform now call
      (.answered reply, r')
  | .claiming x =>
      let (result, r') := r.accept now x
      (.answered (result.map .share), r')
  | .deleting token =>
      (.answered (.ok .nothing), r.deleteToken token)
  | .answered reply => (.answered reply, r)

/-
  A call that nothing comes between has its reply after two
  steps at most, and it is the reply of the whole call.
-/
theorem Stage.advance_twice
    (r : Registry)
    (now : Instant)
    (call : Call) :
    Stage.advance (Stage.advance r now (.asked call)).2 now
        (Stage.advance r now (.asked call)).1 =
      (.answered (r.perform now call).1,
        (r.perform now call).2) := by
  cases call with
  | create draw o =>
      simp only [advance, mint, perform, create]
      cases o.fault? with
      | some e => rfl
      | none =>
          dsimp only
          cases o.share? now (r.minter.mint now draw).1 with
          | error e => rfl
          | ok x => rfl
  | revoke token requester =>
      simp only [advance, entitle, perform, revoke]
      cases r.store.findToken token with
      | error e => rfl
      | ok x =>
          by_cases hOwn : x.createdBy = requester
          · simp only [hOwn, if_true]
            rfl
          · simp only [hOwn, if_false]
            rfl
  | _ => rfl

------------------------------------------------------------
-- What a Step Does
------------------------------------------------------------

/- Does a call reach the store more than once? -/
def Call.isDivided :
    Call → Bool
  | .create _ _ => true
  | .revoke _ _ => true
  | _ => false

/- Does a call that is at a stage still serve what was asked? -/
inductive Serves :
    Call → Stage → Prop where
  | asked {call} :
      Serves call (.asked call)
  | claiming {draw o now token x}
      (hFault : Order.fault? o = none)
      (hShare : Order.share? o now token = .ok x) :
      Serves (.create draw o) (.claiming x)
  | deleting {token requester} :
      Serves (.revoke token requester) (.deleting token)
  | answered {call reply} :
      Serves call (.answered reply)

/-
  What a step at a time makes of the stage of a call and of
  the set of stored shares.
-/
inductive Move
    (now : Instant) :
    Finset Share → Stage → Stage →
      Finset Share → Prop where
  | incomplete {c draw o e}
      (hFault : Order.fault? o = some e) :
      Move now c (.asked (.create draw o))
        (.answered (.error e)) c
  | endless {c draw o token e}
      (hShare : Order.share? o now token = .error e) :
      Move now c (.asked (.create draw o))
        (.answered (.error e)) c
  | minted {c draw o token x}
      (hFault : Order.fault? o = none)
      (hShare : Order.share? o now token = .ok x) :
      Move now c (.asked (.create draw o)) (.claiming x) c
  | claimed {c x}
      (hFree : ¬Held c now x) :
      Move now c (.claiming x)
        (.answered (.ok (.share x))) (put c x)
  | held {c x}
      (hHeld : Held c now x) :
      Move now c (.claiming x)
        (.answered (.error .notFound)) c
  | entitled {c x requester}
      (hx : x ∈ c)
      (hOwn : x.createdBy = requester) :
      Move now c (.asked (.revoke x.token requester))
        (.deleting x.token) c
  | notEntitled {c token requester} :
      Move now c (.asked (.revoke token requester))
        (.answered (.error .notFound)) c
  | deleted {c token} :
      Move now c (.deleting token) (.answered (.ok .nothing))
        (c.filter (fun y => y.token ≠ token))
  | performed {c c' call reply}
      (hCall : call.isDivided = false)
      (hStep : Step now c call reply c') :
      Move now c (.asked call) (.answered reply) c'
  | rested {c reply} :
      Move now c (.answered reply) (.answered reply) c

section Advance

variable {r : Registry} {c : Finset Share}

/- The first step of a creation. -/
theorem move_mint
    (h : r.store.Represents c)
    (now : Instant)
    (draw : Draw)
    (o : Order) :
    (r.mint now draw o).2.store.Represents c ∧
      Move now c (.asked (.create draw o))
        (r.mint now draw o).1 c := by
  unfold mint
  cases hFault : o.fault? with
  | some e => exact ⟨h, Move.incomplete hFault⟩
  | none =>
      dsimp only
      cases hShare :
          o.share? now (r.minter.mint now draw).1 with
      | error e => exact ⟨h, Move.endless hShare⟩
      | ok x => exact ⟨h, Move.minted hFault hShare⟩

/- The first step of a revocation. -/
theorem move_entitle
    (h : r.store.Represents c)
    (now : Instant)
    (token requester : String) :
    (r.entitle token requester).2.store.Represents c ∧
      Move now c (.asked (.revoke token requester))
        (r.entitle token requester).1 c := by
  unfold entitle
  rcases h.findToken_cases token with
    ⟨_, hFound⟩ | ⟨x, hx, rfl, hFound⟩
  · rw [hFound]
    exact ⟨h, Move.notEntitled⟩
  · rw [hFound]
    dsimp only
    split
    next hOwn => exact ⟨h, Move.entitled hx hOwn⟩
    next => exact ⟨h, Move.notEntitled⟩

/- The last step of a creation. -/
theorem move_accept
    (h : r.store.Represents c)
    (now : Instant)
    (x : Share) :
    ∃ c', (r.accept now x).2.store.Represents c' ∧
      Move now c (.claiming x)
        (.answered ((r.accept now x).1.map .share)) c' := by
  unfold accept
  by_cases hHeld : Held c now x
  · rw [h.claim_of_held hHeld]
    exact ⟨c, h, Move.held hHeld⟩
  · rw [h.claim_of_free hHeld]
    exact ⟨put c x, h.save x, Move.claimed hHeld⟩

/- A call that is not divided takes one step. -/
theorem Stage.advance_of_undivided
    (r : Registry)
    (now : Instant)
    {call : Call}
    (hCall : call.isDivided = false) :
    Stage.advance r now (.asked call) =
      (.answered (r.perform now call).1,
        (r.perform now call).2) := by
  cases call with
  | create draw o => cases hCall
  | revoke token requester => cases hCall
  | _ => rfl

/- Every step of a call does what a step can do. -/
theorem Stage.move_advance
    (h : r.store.Represents c)
    (now : Instant)
    (stage : Stage) :
    ∃ c', (stage.advance r now).2.store.Represents c' ∧
      Move now c stage (stage.advance r now).1 c' := by
  cases stage with
  | asked call =>
      by_cases hCall : call.isDivided = true
      · cases call with
        | create draw o => exact ⟨c, move_mint h now draw o⟩
        | revoke token requester =>
            exact ⟨c, move_entitle h now token requester⟩
        | _ => cases hCall
      · rw [Bool.not_eq_true] at hCall
        rcases perform_step h now call with ⟨c', h', hStep⟩
        rw [advance_of_undivided r now hCall]
        exact ⟨c', h', Move.performed hCall hStep⟩
  | claiming x => exact move_accept h now x
  | deleting token =>
      exact ⟨_, h.deleteToken token, Move.deleted⟩
  | answered reply => exact ⟨c, h, Move.rested⟩

end Advance

/- A step serves what the call asked for, too. -/
theorem Move.serves
    {now : Instant}
    {c c' : Finset Share}
    {stage stage' : Stage}
    {call : Call}
    (hMove : Move now c stage stage' c')
    (hServes : Serves call stage) :
    Serves call stage' := by
  cases hMove with
  | minted hFault hShare =>
      cases hServes with
      | asked => exact Serves.claiming hFault hShare
  | entitled =>
      cases hServes with
      | asked => exact Serves.deleting
  | _ => exact Serves.answered

/- The most steps that a call takes until it has a reply. -/
def Stage.remaining :
    Stage → Nat
  | .asked _ => 2
  | .claiming _ => 1
  | .deleting _ => 1
  | .answered _ => 0

/- A step brings a call nearer to its reply. -/
theorem Move.remaining_le
    {now : Instant}
    {c c' : Finset Share}
    {stage stage' : Stage}
    (hMove : Move now c stage stage' c') :
    stage'.remaining ≤ stage.remaining - 1 := by
  cases hMove with
  | minted => exact Nat.le_refl 1
  | entitled => exact Nat.le_refl 1
  | _ => exact Nat.zero_le _

------------------------------------------------------------
-- Crowds
------------------------------------------------------------

/- A registry and the calls that are under way. -/
structure Crowd where
  registry : Registry
  stages : List Stage

namespace Crowd

/- All calls are asked at once, and none has taken a step. -/
def ofCalls
    (r : Registry)
    (calls : List Call) : Crowd :=
  ⟨r, calls.map .asked⟩

/- One call, told by its place, takes its next step. -/
def next
    (w : Crowd)
    (event : Event Nat) : Crowd :=
  match w.stages[event.call]? with
  | none => w
  | some stage =>
      let (stage', r) := stage.advance w.registry event.now
      ⟨r, w.stages.set event.call stage'⟩

/- A step makes one move, unless there is no such call. -/
theorem next_cases
    {w : Crowd}
    {c : Finset Share}
    (h : w.registry.store.Represents c)
    (event : Event Nat) :
    w.next event = w ∧ w.stages[event.call]? = none ∨
      ∃ stage stage' c',
        w.stages[event.call]? = some stage ∧
          Move event.now c stage stage' c' ∧
            (w.next event).registry.store.Represents c' ∧
              (w.next event).stages =
                w.stages.set event.call stage' := by
  unfold next
  cases hStage : w.stages[event.call]? with
  | none => exact Or.inl ⟨rfl, rfl⟩
  | some stage =>
      rcases Stage.move_advance h event.now stage with
        ⟨c', h', hMove⟩
      exact Or.inr ⟨stage, _, c', rfl, hMove, h', rfl⟩

/- A call that has its reply keeps it. -/
theorem answered_next
    {w : Crowd}
    {i : Nat}
    {reply : Reply}
    (hAnswered : w.stages[i]? = some (.answered reply))
    (event : Event Nat) :
    (w.next event).stages[i]? = some (.answered reply) := by
  unfold next
  cases hStage : w.stages[event.call]? with
  | none => exact hAnswered
  | some stage =>
      dsimp only
      by_cases hSame : event.call = i
      · subst hSame
        rw [hAnswered] at hStage
        rw [← Option.some.inj hStage]
        exact
          List.getElem?_set_self
            (List.getElem?_eq_some_iff.mp hAnswered).1
      · rw [List.getElem?_set_ne hSame]
        exact hAnswered

/- A call that has its reply keeps it over a run. -/
theorem answered_run
    {i : Nat}
    {reply : Reply}
    (events : List (Event Nat)) :
    ∀ {w : Crowd},
      w.stages[i]? = some (.answered reply) →
        (run next w events).stages[i]? =
          some (.answered reply) := by
  induction events with
  | nil => exact fun hAnswered => hAnswered
  | cons event events ih =>
      exact fun hAnswered =>
        ih (answered_next hAnswered event)

/- The steps of others do not keep a call from its reply. -/
theorem remaining_next
    {w : Crowd}
    {c : Finset Share}
    (h : w.registry.store.Represents c)
    (event : Event Nat)
    {i : Nat}
    {stage : Stage}
    (hStage : w.stages[i]? = some stage) :
    ∃ c' stage',
      (w.next event).registry.store.Represents c' ∧
        (w.next event).stages[i]? = some stage' ∧
          stage'.remaining ≤
            stage.remaining -
              if event.call = i then 1 else 0 := by
  rcases next_cases h event with
    ⟨hSame, hNone⟩ |
      ⟨moved, stage', c', hMoved, hMove, h', hStages⟩
  · have hOther : event.call ≠ i := by
      rintro rfl
      rw [hStage] at hNone
      cases hNone
    rw [hSame, if_neg hOther]
    exact ⟨c, stage, h, hStage, Nat.le_refl _⟩
  · rw [hStages]
    by_cases hCall : event.call = i
    · subst hCall
      rw [hStage] at hMoved
      cases hMoved
      rw [if_pos rfl]
      exact
        ⟨c', stage', h',
          List.getElem?_set_self
            (List.getElem?_eq_some_iff.mp hStage).1,
          hMove.remaining_le⟩
    · rw [List.getElem?_set_ne hCall, if_neg hCall]
      exact ⟨c', stage, h', hStage, Nat.le_refl _⟩

/- A call gets nearer to its reply with each of its steps. -/
theorem remaining_run
    {i : Nat}
    (events : List (Event Nat)) :
    ∀ {w : Crowd} {c : Finset Share} {stage : Stage},
      w.registry.store.Represents c →
        w.stages[i]? = some stage →
          ∃ stage',
            (run next w events).stages[i]? = some stage' ∧
              stage'.remaining ≤
                stage.remaining -
                  events.countP (fun e => e.call = i) := by
  induction events with
  | nil =>
      intro w c stage _ hStage
      exact ⟨stage, hStage, Nat.le_refl _⟩
  | cons event events ih =>
      intro w c stage h hStage
      rcases remaining_next h event hStage with
        ⟨c', stage', h', hStage', hLess⟩
      rcases ih h' hStage' with ⟨last, hLast, hLess'⟩
      refine ⟨last, hLast, ?_⟩
      simp only [List.countP_cons, decide_eq_true_eq]
      omega

/- A call that has taken two steps has its reply. -/
theorem answered_of_steps
    {r : Registry}
    {stored : Finset Share}
    (h : r.store.Represents stored)
    {calls : List Call}
    {events : List (Event Nat)}
    {i : Nat}
    {call : Call}
    (hCall : calls[i]? = some call)
    (hSteps : 2 ≤ events.countP (fun e => e.call = i)) :
    ∃ reply,
      (run next (ofCalls r calls) events).stages[i]? =
        some (.answered reply) := by
  have hAsked :
      (ofCalls r calls).stages[i]? =
        some (.asked call) := by
    unfold ofCalls
    rw [List.getElem?_map, hCall]
    rfl
  rcases remaining_run events h hAsked with
    ⟨stage, hStage, hLess⟩
  have hOver : stage.remaining = 0 := by
    have hAll : (Stage.asked call).remaining = 2 := rfl
    omega
  cases stage with
  | answered reply => exact ⟨reply, hStage⟩
  | asked call => cases hOver
  | claiming x => cases hOver
  | deleting token => cases hOver

end Crowd

end Registry

end Share

end Gatehouse
