import Gatehouse.Proofs.Gateway.Lifetimes
import Gatehouse.Proofs.Settings.Acceptance

/-
  How long a share lives if its order does not say.

  Such a share lives as long as the settings say, and they
  are accepted whatever they say of it.  An end that no date
  can express is not moved to the last date, as that of a
  session is: the order is refused.

  Key definitions include:
    * `Settings.withShareSeconds`
    * `Gateway.startWith`
    * `Gateway.RunsWith`
    * `Gateway.endlessMessage`

  Main results include:
    * `Settings.Draft.complete_withShareSeconds`
    * `Gateway.usualLifetime_run`
    * `Gateway.usual_order_exact_or_refused`
-/

namespace Gatehouse

------------------------------------------------------------
-- Settings
------------------------------------------------------------

namespace Settings

/- A draft with another usual lifetime of shares. -/
def Draft.withShareSeconds
    (d : Draft)
    (n : Nat) : Draft :=
  { d with shares.lifetimeSeconds := n }

/- Settings with another usual lifetime of shares. -/
def withShareSeconds
    (settings : Settings)
    (n : Nat) : Settings :=
  { settings with draft := settings.draft.withShareSeconds n }

/- The usual lifetime of shares is not checked. -/
theorem Draft.complete_withShareSeconds
    (d : Draft)
    (n : Nat)
    (e : Environment)
    (read : FileTree.TextReader) :
    (d.withShareSeconds n).complete e read =
      (d.complete e read).map (·.withShareSeconds n) := by
  have hFlaw : (d.withShareSeconds n).flaw? = d.flaw? := rfl
  have hSecret :
      (d.withShareSeconds n).secret e read =
        d.secret e read := rfl
  unfold complete
  rw [hFlaw, hSecret]
  cases d.flaw? with
  | some f => rfl
  | none =>
      dsimp only
      cases d.secret e read <;> rfl

/- With loaded settings all lengths of shares are accepted. -/
theorem exists_draft_withShareSeconds
    {e : Environment}
    {read : FileTree.TextReader}
    {path : String}
    {settings : Settings}
    (hLoad : load e read path = .ok settings)
    (n : Nat) :
    ∃ d : Draft,
      d.complete e read =
        .ok (settings.withShareSeconds n) := by
  rcases exists_draft_of_load hLoad with ⟨d, hComplete⟩
  refine ⟨d.withShareSeconds n, ?_⟩
  rw [d.complete_withShareSeconds, hComplete]
  rfl

/- The greatest number that a document can hold. -/
def greatestSeconds : Nat :=
  9223372036854775807

/- The document with a line on how long a share lives. -/
def documentOver
    (seconds : Nat) : String :=
  document ++ "[shares]\ndefault_ttl_secs = " ++
    Decimal.text seconds ++ "\n"

/- A reader that finds it at every path. -/
def findsOver
    (seconds : Nat) : FileTree.TextReader :=
  fun _ => .ok (documentOver seconds)

/- The settings that it describes, with their secret. -/
def keyedOver
    (seconds : Nat) : Settings :=
  ⟨drafted.withShareSeconds seconds, ⟨" key "⟩⟩

/- They are loaded if the document is read as it should be. -/
theorem load_findsOver
    {seconds : Nat}
    (hDraft :
      Draft.ofText? (documentOver seconds) =
        some (drafted.withShareSeconds seconds)) :
    load keyed (findsOver seconds) "a" =
      .ok (keyedOver seconds) := by
  have hSet : keyed.text? secretVariable = some " key " := by
    decide +kernel
  have hRedirects :
      drafted.withRedirects (drafted.redirects keyed) =
        drafted := by
    decide +kernel
  have hComplete :
      drafted.complete keyed (findsOver seconds) =
        .ok ⟨drafted, ⟨" key "⟩⟩ := by
    rw [Draft.complete_eq_ok_iff]
    refine
      ⟨_, valid_drafted, .ofVariable hSet, by decide, ?_⟩
    rw [hRedirects]
  have hRead :
      findsOver seconds "a" = .ok (documentOver seconds) :=
    rfl
  rw [load_of_draft hRead hDraft,
    Draft.complete_withShareSeconds, hComplete]
  rfl

end Settings

namespace Gateway

open Session.Manager (byCode)
open Settings (findsOver greatestSeconds keyed keyedOver)
open Share (Registry)

variable {σ : Type}
variable {p : Login.Provider σ}
variable {g : Gateway σ}

------------------------------------------------------------
-- Gateways with Settings
------------------------------------------------------------

/- A gateway that is started with settings. -/
def startWith
    (settings : Settings)
    (provider : σ)
    (tick : Nat) : Gateway σ :=
  start (Session.Manager.start settings.terms provider)
    settings.shareLifetime tick

/- A gateway that was started with settings, and then ran. -/
def RunsWith
    (p : Login.Provider σ)
    (settings : Settings)
    (g : Gateway σ) : Prop :=
  ∃ (provider : σ) (tick : Nat) (events : List Event),
    run p (startWith settings provider tick) events = g

/- An event leaves the usual lifetime alone. -/
theorem usualLifetime_next
    (p : Login.Provider σ)
    (g : Gateway σ)
    (event : Event) :
    (next p g event).usualLifetime = g.usualLifetime := by
  cases event with
  | request o r =>
      rcases exists_serve_eq p
          { g with served := g.served + 1 } o r with
        ⟨_, _, hServed⟩
      dsimp only [next]
      unfold handle
      dsimp only
      rw [hServed]
  | sweep now => rfl
  | clean now => rfl

/- A run leaves the usual lifetime alone. -/
theorem usualLifetime_run
    (p : Login.Provider σ)
    (events : List Event) :
    ∀ g : Gateway σ,
      (run p g events).usualLifetime = g.usualLifetime := by
  induction events with
  | nil => exact fun g => rfl
  | cons event events ih =>
      intro g
      calc
        (run p g (event :: events)).usualLifetime
          = (run p (next p g event) events).usualLifetime :=
            rfl
        _ = (next p g event).usualLifetime := ih _
        _ = g.usualLifetime := usualLifetime_next p g event

namespace RunsWith

variable {settings : Settings}

/- What runs with settings can be reached. -/
theorem reachable
    (h : RunsWith p settings g) :
    Reachable p g := by
  rcases h with ⟨provider, tick, events, rfl⟩
  exact
    Reachable.run events
      (Reachable.start settings.terms provider
        settings.shareLifetime tick)

/- Shares usually live as long as the settings say. -/
theorem usualLifetime_eq
    (h : RunsWith p settings g) :
    g.usualLifetime =
      settings.shareSeconds.map Span.ofSeconds := by
  rcases h with ⟨provider, tick, events, rfl⟩
  exact usualLifetime_run p events _

end RunsWith

------------------------------------------------------------
-- Orders That Do Not Say How Long
------------------------------------------------------------

section Orders

variable {o : Occasion}
variable {r : Request}
variable {w : Wish}
variable {s : Session}
variable {d : Span}

/- Without a usual end there is none. -/
theorem Wish.lifetime?_of_silent_none
    (hSilent : w.seconds = none) :
    w.lifetime? none = some none := by
  unfold lifetime? span
  rw [hSilent]

/- The usual length is taken, unless beyond measure. -/
theorem Wish.lifetime?_of_silent_some
    (hSilent : w.seconds = none)
    (d : Span) :
    w.lifetime? (some d) =
      if d ≤ Span.longest then some (some d) else none := by
  unfold lifetime? span
  rw [hSilent]

/- What a date can end is granted until then. -/
theorem exists_grants_of_usual
    (hReach : Reachable p g)
    (hDate : Instant.earliest ≤ o.now)
    (hOrders : r.OrdersShare w)
    (hSilent : w.seconds = none)
    (hPresents : g.Presents r o.now s)
    (hUser : s.user.id ≠ "")
    (hSession : w.sessionId ≠ "")
    (hFree :
      ∀ y, g.shares.store.Holds y →
        y.sessionId = w.sessionId →
          y.isExpired o.now = false →
            y.createdBy = s.user.id)
    {n : Nat}
    (hUsual : g.usualLifetime = some (Span.ofSeconds n))
    (hLast :
      o.now.nanos + Span.ofSeconds n ≤
        Instant.latest.nanos) :
    ∃ x, Grants p g o r w.sessionId s.user.id x ∧
      x.expiresAt =
        some ⟨o.now.nanos + Span.ofSeconds n⟩ := by
  have hLifetime :
      w.lifetime? g.usualLifetime =
        some (some (Span.ofSeconds n)) := by
    rw [hUsual, Wish.lifetime?_of_silent_some hSilent,
      if_pos (le_longest_of_le_latest hDate hLast)]
  apply
    exists_grants hReach hOrders hPresents hUser hSession
      hFree hLifetime
  unfold Share.Order.expiry? Span.ofSeconds
  dsimp only
  rw [Instant.move?_of_le hDate hLast]
  rfl

/- What is told of a length that no date can end. -/
def endlessMessage
    (d : Span) : String :=
  if d ≤ Span.longest then
    "ttl out of range"
  else
    "ttl_secs out of range"

/- What no date can end is refused, and nothing is stored. -/
theorem handle_of_usual_endless
    (p : Login.Provider σ)
    (hOrders : r.OrdersShare w)
    (hSilent : w.seconds = none)
    (hPresents : g.Presents r o.now s)
    (hUser : s.user.id ≠ "")
    (hSession : w.sessionId ≠ "")
    (hUsual : g.usualLifetime = some d)
    (hBeyond : Instant.latest.nanos < o.now.nanos + d) :
    (g.handle p o r).1 =
        o.refuse (.invalid (endlessMessage d)) ∧
      (g.handle p o r).2.shares.store = g.shares.store := by
  rcases handle_of_order p hOrders hPresents with
    ⟨hResponse, hShares⟩
  rw [hResponse, hShares]
  unfold orderShare endlessMessage
  rw [hUsual, Wish.lifetime?_of_silent_some hSilent]
  by_cases hMeasured : d ≤ Span.longest
  · rw [if_pos hMeasured, if_pos hMeasured]
    have hExpiry :
        Share.Order.expiry?
            ⟨w.sessionId, s.user.id, some d⟩ o.now =
          none := by
      unfold Share.Order.expiry?
      dsimp only
      rw [Instant.move?_of_lt hBeyond]
      rfl
    rcases Registry.create_of_endless g.shares o.shareDraw
        ((Share.Order.fault?_eq_none_iff _).mpr
          ⟨hSession, hUser⟩) hExpiry with
      ⟨hReply, hStore⟩
    dsimp only
    rw [hReply]
    exact ⟨rfl, hStore⟩
  · rw [if_neg hMeasured, if_neg hMeasured]
    exact ⟨rfl, rfl⟩

/-
  A share whose order does not say how long it lives is as
  the settings say, or refused: it has no end if they give
  none, it ends exactly when they say if a date expresses
  this, and otherwise the order fails and stores nothing.
  No such length is a reason not to accept the settings.
-/
theorem usual_order_exact_or_refused
    {e : Environment}
    {read : FileTree.TextReader}
    {path : String}
    {settings : Settings}
    (hLoad : Settings.load e read path = .ok settings)
    (hRuns : RunsWith p settings g)
    (hDate : Instant.earliest ≤ o.now)
    (hOrders : r.OrdersShare w)
    (hSilent : w.seconds = none)
    (hPresents : g.Presents r o.now s)
    (hUser : s.user.id ≠ "")
    (hSession : w.sessionId ≠ "")
    (hFree :
      ∀ y, g.shares.store.Holds y →
        y.sessionId = w.sessionId →
          y.isExpired o.now = false →
            y.createdBy = s.user.id) :
    (settings.shareSeconds = none →
      ∃ x, Grants p g o r w.sessionId s.user.id x ∧
        x.expiresAt = none) ∧
      (∀ n, settings.shareSeconds = some n →
        (o.now.nanos + Span.ofSeconds n ≤
            Instant.latest.nanos →
          ∃ x, Grants p g o r w.sessionId s.user.id x ∧
            x.expiresAt =
              some ⟨o.now.nanos + Span.ofSeconds n⟩) ∧
          (Instant.latest.nanos <
              o.now.nanos + Span.ofSeconds n →
            (g.handle p o r).1 =
                o.refuse
                  (.invalid
                    (endlessMessage (Span.ofSeconds n))) ∧
              (g.handle p o r).1.status = 400 ∧
                (g.handle p o r).2.shares.store =
                  g.shares.store)) ∧
        ∀ n, ∃ d : Settings.Draft,
          d.complete e read =
            .ok (settings.withShareSeconds n) := by
  have hUsual := hRuns.usualLifetime_eq
  refine
    ⟨?_, ?_, Settings.exists_draft_withShareSeconds hLoad⟩
  · intro hEndless
    have hLifetime :
        w.lifetime? g.usualLifetime = some none := by
      rw [hUsual, hEndless]
      exact Wish.lifetime?_of_silent_none hSilent
    exact
      exists_grants hRuns.reachable hOrders hPresents hUser
        hSession hFree hLifetime rfl
  · intro n hSeconds
    rw [hSeconds, Option.map_some] at hUsual
    refine ⟨?_, ?_⟩
    · intro hLast
      exact
        exists_grants_of_usual hRuns.reachable hDate hOrders
          hSilent hPresents hUser hSession hFree hUsual hLast
    · intro hBeyond
      rcases handle_of_usual_endless p hOrders hSilent
          hPresents hUser hSession hUsual hBeyond with
        ⟨hResponse, hStore⟩
      refine ⟨hResponse, ?_, hStore⟩
      rw [hResponse]
      rfl

end Orders

------------------------------------------------------------
-- Loaded Lengths
------------------------------------------------------------

/- A gateway with such settings at which a user logged in. -/
def enteredOver
    (seconds : Nat) : Gateway Unit :=
  run byCode (startWith (keyedOver seconds) () 0)
    [.request (drawing 1) (returnOf "ann")]

/- How long shares live does not matter to the sessions. -/
theorem sessions_enteredOver
    (seconds : Nat) :
    (enteredOver seconds).sessions =
      (enteredOver 0).sessions := rfl

/- The session of the user who logged in. -/
def annsSession : Session :=
  ⟨(drawing 1).sessionId,
    ⟨"ann", "ann", "ann", .hide "", [], []⟩, ⟨0⟩,
    ⟨86400000000000⟩⟩

/- The order presents that session for a day. -/
theorem presents_enteredOver
    (seconds : Nat)
    {now : Instant}
    (hDay : now ≤ ⟨86400000000000⟩) :
    (enteredOver seconds).Presents (orderOf (drawing 1)) now
      annsSession := by
  have hLocated :
      Session.locate? (orderOf (drawing 1)).headers none =
        some (drawing 1).sessionId := by
    decide +kernel
  have hFound :
      (enteredOver 0).sessions.sessions.get?
          (drawing 1).sessionId =
        some annsSession := by
    decide +kernel
  refine ⟨_, hLocated, ?_, hDay⟩
  rw [sessions_enteredOver]
  exact hFound

/- The order names a session, and not how long. -/
theorem ordersShare_orderOf :
    (orderOf (drawing 1)).OrdersShare ⟨"s", none⟩ :=
  ⟨rfl, rfl, by decide +kernel⟩

/- Nothing is shared yet. -/
theorem not_holds_enteredOver
    (seconds : Nat)
    (x : Share) :
    ¬(enteredOver seconds).shares.store.Holds x := by
  intro hHolds
  cases hHolds

/- An occasion a second after another one. -/
def secondAfter : Occasion :=
  { drawing 1 with now := ⟨1000000005⟩ }

/-
  A share that usually lives to the last second is granted
  soon, but no longer a second later.
-/
theorem orderOf_usual_lastSecond :
    (∃ x,
      Grants byCode (enteredOver 8210266876799) soonAfter
          (orderOf (drawing 1)) "s" "ann" x ∧
        x.expiresAt = some ⟨8210266876799000000005⟩) ∧
      ((enteredOver 8210266876799).handle byCode secondAfter
        (orderOf (drawing 1))).1 =
          secondAfter.refuse
            (.invalid "ttl out of range") := by
  have hLoad :
      Settings.load keyed (findsOver 8210266876799) "a" =
        .ok (keyedOver 8210266876799) :=
    Settings.load_findsOver (by decide +kernel)
  have hRuns :
      RunsWith byCode (keyedOver 8210266876799)
        (enteredOver 8210266876799) :=
    ⟨(), 0, _, rfl⟩
  refine ⟨?_, ?_⟩
  · apply
      ((usual_order_exact_or_refused hLoad hRuns (by decide)
        ordersShare_orderOf rfl
        (presents_enteredOver _ (by decide)) (by decide)
        (by decide)
        (fun y hHolds =>
          absurd hHolds (not_holds_enteredOver _ y))).2.1
          8210266876799 rfl).1
    decide
  · exact
      (((usual_order_exact_or_refused hLoad hRuns
        (by decide) ordersShare_orderOf rfl
        (presents_enteredOver _ (by decide)) (by decide)
        (by decide)
        (fun y hHolds =>
          absurd hHolds (not_holds_enteredOver _ y))).2.1
          8210266876799 rfl).2 (by decide)).1

/-
  The greatest number that a document can hold is accepted,
  and then the order of a user for a session that nobody
  shared is refused, for seconds that it does not name.
-/
theorem orderOf_usual_greatestSeconds :
    Settings.load keyed (findsOver greatestSeconds) "a" =
        .ok (keyedOver greatestSeconds) ∧
      RunsWith byCode (keyedOver greatestSeconds)
          (enteredOver greatestSeconds) ∧
        (orderOf (drawing 1)).OrdersShare ⟨"s", none⟩ ∧
          (enteredOver greatestSeconds).Presents
              (orderOf (drawing 1)) soonAfter.now
              annsSession ∧
            (∀ x,
              ¬(enteredOver
                greatestSeconds).shares.store.Holds x) ∧
              ((enteredOver greatestSeconds).handle
                  byCode soonAfter (orderOf (drawing 1))).1 =
                soonAfter.refuse
                  (.invalid "ttl_secs out of range") := by
  have hRuns :
      RunsWith byCode (keyedOver greatestSeconds)
        (enteredOver greatestSeconds) :=
    ⟨(), 0, _, rfl⟩
  have hPresents :
      (enteredOver greatestSeconds).Presents
        (orderOf (drawing 1)) soonAfter.now annsSession :=
    presents_enteredOver _ (by decide)
  have hMessage :
      endlessMessage (Span.ofSeconds greatestSeconds) =
        "ttl_secs out of range" := by
    decide
  refine
    ⟨Settings.load_findsOver (by decide +kernel), hRuns,
      ordersShare_orderOf, hPresents,
      not_holds_enteredOver _, ?_⟩
  rw [← hMessage]
  exact
    (handle_of_usual_endless byCode ordersShare_orderOf rfl
      hPresents (by decide) (by decide)
      hRuns.usualLifetime_eq (by decide)).1

end Gateway

end Gatehouse
