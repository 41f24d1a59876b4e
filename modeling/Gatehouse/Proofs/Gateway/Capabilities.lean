import Gatehouse.Proofs.Gateway.Sessions

/-
  Ids of sessions are no tokens of shares.

  Both are drawn octets that are written out, and the length
  tells one from the other.  So a token never opens a
  session, and an id never leads to a share, whatever the
  gateway went through and however its draws failed.

  Key definitions include:
    * `Session.IsId`
    * `Gateway.KeepsApart`

  Main results include:
    * `Gateway.Reachable.exists_draw`
    * `Gateway.Reachable.isToken`
    * `Gateway.handle_of_token`
    * `Gateway.handle_of_resolves`
    * `Gateway.handle_resolve_of_id`
    * `Gateway.handle_revoke_of_id`
    * `Gateway.reachable_keepsApart`
-/

namespace Gatehouse

------------------------------------------------------------
-- Shapes
------------------------------------------------------------

/- Is a text forty-three letters, digits, hyphens and lows? -/
def Session.IsId
    (s : String) : Prop :=
  s.length = 43 ∧ ∀ c ∈ s.toList, Text.isUrlSafe c = true

/- A session id that is drawn looks like one. -/
theorem Session.Manager.isId_idOf
    (draw : Vector UInt8 32) :
    IsId (idOf draw) := by
  refine ⟨?_, Login.isUrlSafe_tokenOf draw.toList⟩
  rw [idOf, Login.length_tokenOf, Vector.length_toList]

/- The session ids of different octets differ. -/
theorem Session.Manager.idOf_injective :
    Function.Injective idOf := by
  intro draw draw' hSame
  exact
    Vector.toList_inj.mp
      (Base64.encode_urlSafe_injective hSame)

/- No text looks like an id and like a token. -/
theorem Session.IsId.not_isToken
    {s : String}
    (hId : IsId s) :
    ¬Share.Token.IsToken s := by
  rintro ⟨hLength, _⟩
  have hSame := hId.1.symm.trans hLength
  exact absurd hSame (by decide)

/- An id is not empty. -/
theorem Session.IsId.ne_empty
    {s : String}
    (hId : IsId s) :
    s ≠ "" := by
  rintro rfl
  exact absurd hId.1 (by decide)

namespace Share.Token.IsToken

variable {s : String}

/- A token is safe in a URL. -/
theorem isUrlSafe
    (h : IsToken s) :
    ∀ c ∈ s.toList, Text.isUrlSafe c = true :=
  fun c hc => Text.isUrlSafe_of_isLowerHex (h.2 c hc)

/- A token is not empty. -/
theorem ne_empty
    (h : IsToken s) :
    s ≠ "" := by
  rintro rfl
  exact absurd h.1 (by decide)

end Share.Token.IsToken

------------------------------------------------------------
-- Segments
------------------------------------------------------------

namespace Percent

/- An octet that is no part of an escape stays. -/
theorem mem_decodeOctets
    {b : UInt8}
    (hNoSign : b.toNat ≠ 0x25)
    (hNoDigit : hexOctet? b = none)
    (bs : List UInt8)
    (h : b ∈ bs) :
    b ∈ decodeOctets bs := by
  fun_induction decodeOctets bs with
  | case1 => exact h
  | case2 a => exact h
  | case3 a d => exact h
  | case4 a d e rest hSign x y hSecond hFirst ih =>
      -- The escape ends before the octet, or after it begins.
      rcases List.mem_cons.mp h with rfl | hLater
      · exact absurd hSign hNoSign
      rcases List.mem_cons.mp hLater with rfl | hLater
      · rw [hNoDigit] at hFirst
        cases hFirst
      rcases List.mem_cons.mp hLater with rfl | hRest
      · rw [hNoDigit] at hSecond
        cases hSecond
      exact List.mem_cons_of_mem _ (ih hRest)
  | case5 a d e rest hSign hNoEscape ih =>
      rcases List.mem_cons.mp h with rfl | hLater
      · exact List.mem_cons_self
      · exact List.mem_cons_of_mem a (ih hLater)
  | case6 a d e rest hNoEscape ih =>
      rcases List.mem_cons.mp h with rfl | hLater
      · exact List.mem_cons_self
      · exact List.mem_cons_of_mem a (ih hLater)

end Percent

namespace Gateway

variable {segment : List Char}
variable {text : String}

/- A safe text is the text of the segment that it is. -/
theorem segmentText?_of_urlSafe
    (hSafe : ∀ c ∈ text.toList, Text.isUrlSafe c = true) :
    segmentText? text.toList = some text := by
  unfold segmentText?
  rw [String.ofList_toList,
    Percent.decodeOctets_of_urlSafe hSafe,
    Utf8.decode?_encode]

/- The segment of a safe text holds no slash. -/
theorem not_mem_slash_of_segmentText?
    (hText : segmentText? segment = some text)
    (hSafe : ∀ c ∈ text.toList, Text.isUrlSafe c = true) :
    '/' ∉ segment := by
  intro hSlash
  have hOctets := Utf8.encode_of_decode? hText
  have hIn :
      (0x2F : UInt8) ∈
        Utf8.encode (String.ofList segment) := by
    unfold Utf8.encode
    rw [String.toList_ofList]
    exact List.mem_flatMap.mpr ⟨'/', hSlash, by decide⟩
  have hKept :=
    Percent.mem_decodeOctets (by decide) (by decide) _ hIn
  rw [← hOctets, Utf8.encode_of_urlSafe hSafe] at hKept
  rcases List.mem_map.mp hKept with ⟨c, hc, hOctet⟩
  exact
    Text.forall_of_isUrlSafe
      (fun d => UInt8.ofNat d.toNat ≠ 0x2F)
      (by decide +kernel) (hSafe c hc) hOctet

/- The segment of a text is not empty unless the text is. -/
theorem ne_nil_of_segmentText?
    (hText : segmentText? segment = some text)
    (hSome : text ≠ "") :
    segment ≠ [] := by
  rintro rfl
  have hNone : segmentText? [] = some "" := rfl
  rw [hNone] at hText
  exact hSome (Option.some.inj hText).symm

end Gateway

------------------------------------------------------------
-- What Is Stored
------------------------------------------------------------

/- A session is opened under an id that is drawn. -/
theorem Session.Manager.Opens.exists_draw
    {σ : Type}
    {p : Login.Provider σ}
    {i : String}
    {user : User}
    {e : History.Entry (Manager σ) Call}
    (h : Opens p i user e) :
    ∃ draw, i = idOf draw := by
  rcases h with ⟨draw, code, state, d, _, hReply, rfl, _⟩
  rcases e.before.complete_cases p e.now (idOf draw) code
      state with
    ⟨_, _, hOk, _⟩ | ⟨⟨refusal, hRefused⟩, _⟩
  · rw [hOk] at hReply
    rw [← Except.ok.inj hReply]
    exact ⟨draw, rfl⟩
  · rw [hRefused] at hReply
    cases hReply

namespace Gateway

open Session.Manager (Call idOf byCode)
open Share.Token (IsToken)

variable {σ : Type}
variable {p : Login.Provider σ}
variable {g : Gateway σ}

/- Every event makes a call on the sessions, or none. -/
theorem sessions_next
    (p : Login.Provider σ)
    (g : Gateway σ)
    (event : Event) :
    (next p g event).sessions = g.sessions ∨
      ∃ call,
        (next p g event).sessions =
          g.sessions.next p ⟨event.now, call⟩ := by
  cases event with
  | request o r =>
      have hSessions := g.sessions_handle p o r
      cases hCall : r.task?.bind (·.sessionCall? o r) with
      | none =>
          rw [hCall] at hSessions
          exact Or.inl hSessions
      | some call =>
          rw [hCall] at hSessions
          exact Or.inr ⟨call, hSessions⟩
  | sweep now => exact Or.inr ⟨.sweep, rfl⟩
  | clean now => exact Or.inl rfl

/- Are sessions stored under their ids, which are drawn? -/
def Drawn
    (m : Session.Manager σ) : Prop :=
  ∀ id s, m.sessions.get? id = some s →
    s.id = id ∧ ∃ draw, id = idOf draw

/- A call stores sessions under drawn ids only. -/
theorem Drawn.next
    {m : Session.Manager σ}
    (h : Drawn m)
    (p : Login.Provider σ)
    (event : History.Event Call) :
    Drawn (m.next p event) := by
  intro id s hStored
  have hUnnamed : m.sessions.get? "" = none := by
    rw [Option.eq_none_iff_forall_ne_some]
    intro s' hEmpty
    rcases (h "" s' hEmpty).2 with ⟨draw, hDraw⟩
    exact
      Session.Manager.idOf_ne_empty draw hDraw.symm
  have hFate := m.fate p event id hUnnamed
  rw [hStored] at hFate
  cases hFate with
  | opened user hOpens hAfter =>
      rw [Option.some.inj hAfter]
      exact ⟨rfl, hOpens.exists_draw⟩
  | ended _ _ hAfter => cases hAfter
  | renewed s' _ _ _ hBefore hAfter =>
      rw [Option.some.inj hAfter, Session.id_extendTo]
      exact h id s' hBefore
  | kept _ _ _ hAfter => exact h id s hAfter.symm

/-
  In a reachable gateway, sessions are stored under their
  ids, and each id was drawn.
-/
theorem Reachable.exists_draw
    (hReach : Reachable p g) :
    Drawn g.sessions := by
  induction hReach with
  | start =>
      intro id s hStored
      cases hStored
  | @step g _ event ih =>
      rcases sessions_next p g event with
        hSame | ⟨call, hNext⟩
      · rw [hSame]
        exact ih
      · rw [hNext]
        exact ih.next p _

/- Tokens of shares that come are minted. -/
theorem isToken_of_added
    {c c' : Finset Share}
    {event : Event}
    (h : g.shares.store.Represents c)
    (h' : (next p g event).shares.store.Represents c')
    {y : Share}
    (hy : y ∈ c')
    (hNew : y ∉ c) :
    IsToken y.token := by
  rcases next_step p h event with ⟨c'', h'', hChange⟩
  rw [h'.unique h''] at hy
  rcases hChange with rfl | ⟨call, _, hStep⟩
  · exact absurd hy hNew
  · have hIssued := (hStep.issued_or_mem hy).resolve_right hNew
    rcases Share.Registry.create_of_issued hIssued with
      ⟨draw, order, rfl, hReply⟩
    rcases Share.Registry.ordered_of_created hReply with
      ⟨_, hShare⟩
    rw [(Share.Order.share?_fields hShare).1]
    exact Share.Token.isToken_mint _ _ _

/- In a reachable gateway, each token was minted. -/
theorem Reachable.isToken
    (hReach : Reachable p g) :
    ∀ token x,
      g.shares.store.byToken.get? token = some x →
        x.token = token ∧ IsToken token := by
  induction hReach with
  | start =>
      intro token x hStored
      cases hStored
  | @step g hReach event ih =>
      intro token x hStored
      rcases hReach.represents with ⟨c, h, _⟩
      rcases next_step p h event with ⟨c', h', _⟩
      rcases (h'.token_iff token x).mp hStored with
        ⟨hx, rfl⟩
      refine ⟨rfl, ?_⟩
      by_cases hOld : x ∈ c
      · exact
          (ih x.token x ((h.token_iff _ _).mpr
            ⟨hOld, rfl⟩)).2
      · exact isToken_of_added h h' hx hOld

/- No session is stored under a token. -/
theorem Reachable.get?_of_isToken
    (hReach : Reachable p g)
    {text : String}
    (hToken : IsToken text) :
    g.sessions.sessions.get? text = none := by
  rw [Option.eq_none_iff_forall_ne_some]
  intro s hStored
  rcases (hReach.exists_draw text s hStored).2 with
    ⟨draw, rfl⟩
  exact (Session.Manager.isId_idOf draw).not_isToken hToken

/- No share is stored under an id. -/
theorem Reachable.get?_of_isId
    (hReach : Reachable p g)
    {id : String}
    (hId : Session.IsId id) :
    g.shares.store.byToken.get? id = none := by
  rw [Option.eq_none_iff_forall_ne_some]
  intro x hStored
  exact hId.not_isToken (hReach.isToken id x hStored).2

------------------------------------------------------------
-- What Is Presented
------------------------------------------------------------

/- What a call says of an id that no session has. -/
def unknown :
    Call → Refusal
  | .validateId _ => .unauthorized "session not found"
  | _ => .notFound "session not found"

/- A request validates, refreshes or ends a session. -/
theorem Request.ActsOn.cases
    {r : Request}
    {act : String → Call}
    {nameless : Refusal}
    (h : r.ActsOn act nameless) :
    act = .validateId ∨ act = .refresh ∨ act = .logout := by
  cases h with
  | me => exact Or.inl rfl
  | createShare => exact Or.inl rfl
  | revokeShare => exact Or.inl rfl
  | logout => exact Or.inr (Or.inr rfl)
  | refresh => exact Or.inr (Or.inl rfl)

/- A call about an id that no session has is in vain. -/
theorem call_of_absent
    (p : Login.Provider σ)
    {m : Session.Manager σ}
    {r : Request}
    {act : String → Call}
    {nameless : Refusal}
    (hActs : r.ActsOn act nameless)
    {id : String}
    (hId : id ≠ "")
    (hAbsent : m.sessions.get? id = none)
    (now : Instant) :
    m.refusal? p ⟨now, act id⟩ = some (unknown (act id)) ∧
      (m.next p ⟨now, act id⟩).sessions = m.sessions := by
  rcases Session.Manager.refusal?_of_absent p hId hAbsent
      now with ⟨hValidate, hRefresh, hLogout⟩
  rcases hActs.cases with rfl | rfl | rfl
  · refine ⟨hValidate, ?_⟩
    dsimp only [Session.Manager.next]
    unfold Session.Manager.validateId
    rw [hAbsent]
  · refine ⟨hRefresh, ?_⟩
    dsimp only [Session.Manager.next]
    unfold Session.Manager.refresh
    rw [if_neg (by simpa using hId), hAbsent]
  · refine ⟨hLogout, ?_⟩
    dsimp only [Session.Manager.next]
    unfold Session.Manager.logout
    rw [if_neg (by simpa using hId), hAbsent]

/- A token that is presented as an id opens no session. -/
theorem handle_of_token
    (hReach : Reachable p g)
    (o : Occasion)
    {r : Request}
    {act : String → Call}
    {nameless : Refusal}
    {text : String}
    (hToken : IsToken text)
    (hNames : r.Names text)
    (hActs : r.ActsOn act nameless) :
    (g.handle p o r).1 =
        (o.decline (unknown (act text))).forMethod
          r.method ∧
      (g.handle p o r).2.sessions.sessions =
          g.sessions.sessions ∧
        (g.handle p o r).2.shares = g.shares := by
  rcases call_of_absent p hActs hToken.ne_empty
      (hReach.get?_of_isToken hToken) o.now with
    ⟨hRefused, hSessions⟩
  rcases hActs.exists_task with ⟨task, hTask, hAct, _⟩
  rcases call_of_names (o := o) p g hAct hNames with
    ⟨call, hCall, hNext, hRefusal⟩
  rw [← hRefusal] at hRefused
  rcases handle_of_refused hTask hCall hRefused with
    ⟨hResponse, hShares⟩
  have hAfter := g.sessions_handle p o r
  rw [hTask, Option.bind_some, hCall] at hAfter
  refine ⟨hResponse, ?_, hShares⟩
  rw [hAfter]
  exact (congrArg (·.sessions) hNext).trans hSessions

------------------------------------------------------------
-- What Is Looked For
------------------------------------------------------------

section Looked

variable {o : Occasion}
variable {r : Request}
variable {text id : String}
variable {segment : List Char}

/- The path of a safe text is that of a share. -/
theorem ofPath?_of_urlSafe
    (hSafe : ∀ c ∈ text.toList, Text.isUrlSafe c = true)
    (hSome : text ≠ "")
    (hPath : r.target.path = "/shares/".toList ++ segment)
    (hSegment : segmentText? segment = some text) :
    Place.ofPath? r.target.path = some (.share segment) := by
  rw [hPath]
  exact
    Place.ofPath?_share (ne_nil_of_segmentText? hSegment hSome)
      (not_mem_slash_of_segmentText? hSegment hSafe)

/- The share of a safe text is looked up in the registry. -/
theorem handle_of_resolves
    (p : Login.Provider σ)
    (g : Gateway σ)
    (o : Occasion)
    (hSafe : ∀ c ∈ text.toList, Text.isUrlSafe c = true)
    (hSome : text ≠ "")
    (hResolves : r.ResolvesShare text) :
    (g.handle p o r).1 =
        (g.resolveShare o text).1.forMethod r.method ∧
      (g.handle p o r).2.sessions = g.sessions ∧
        (g.handle p o r).2.shares =
          (g.shares.resolve o.now text).2 := by
  rcases hResolves with ⟨hMethod, segment, hPath, hSegment⟩
  have hTask : r.task? = some (.resolveShare segment) := by
    unfold Request.task?
    rw [ofPath?_of_urlSafe hSafe hSome hPath hSegment]
    rcases hMethod with hGet | hHead
    · rw [hGet]
      rfl
    · rw [hHead]
      rfl
  have hServed :
      { g with served := g.served + 1 }.serve p o r =
        { g with served := g.served + 1 }.resolveShare o
          text := by
    rw [serve_of_task? p _ o r hTask]
    dsimp only [perform]
    rw [withToken, hSegment]
  unfold handle
  dsimp only
  rw [hServed]
  unfold resolveShare
  dsimp only
  split <;> exact ⟨rfl, rfl, rfl⟩

/- To show the share of an id finds nothing. -/
theorem handle_resolve_of_id
    (hReach : Reachable p g)
    (o : Occasion)
    (hId : Session.IsId id)
    (hResolves : r.ResolvesShare id) :
    (g.handle p o r).1 =
        (o.refuse (.unknown "share not found")).forMethod
          r.method ∧
      (g.handle p o r).2.sessions = g.sessions ∧
        (g.handle p o r).2.shares = g.shares := by
  have hReply :
      g.shares.resolve o.now id =
        (.error .notFound, g.shares) := by
    unfold Share.Registry.resolve Share.Store.findLive
    rw [hReach.get?_of_isId hId]
  have hHandled :=
    handle_of_resolves p g o hId.2 hId.ne_empty hResolves
  unfold resolveShare at hHandled
  rw [hReply] at hHandled
  exact hHandled

/-
  To take back the share of an id finds nothing, for who is
  authenticated and for who is not.
-/
theorem handle_revoke_of_id
    (hReach : Reachable p g)
    (o : Occasion)
    (hId : Session.IsId id)
    (hRevokes : r.RevokesShare id) :
    (g.handle p o r).2.shares = g.shares ∧
      ((∃ s, g.Presents r o.now s) →
          (g.handle p o r).1 =
            (o.refuse
              (.unknown "share not found")).forMethod
                r.method) ∧
        ((∀ s, ¬g.Presents r o.now s) →
          (g.handle p o r).1.status = 401) := by
  rcases hRevokes with ⟨hMethod, segment, hPath, hSegment⟩
  have hTask : r.task? = some (.revokeShare segment) := by
    unfold Request.task?
    rw [ofPath?_of_urlSafe hId.2 hId.ne_empty hPath hSegment,
      hMethod]
    rfl
  have hAbsent := hReach.get?_of_isId hId
  have hReply :
      ∀ requester,
        g.shares.revoke id requester =
          (.error .notFound, g.shares) := by
    intro requester
    unfold Share.Registry.revoke Share.Store.findToken
    rw [hAbsent]
  have hServed :
      { g with served := g.served + 1 }.serve p o r =
        { g with served := g.served + 1 }.revokeShare o r
          id := by
    rw [serve_of_task? p _ o r hTask]
    dsimp only [perform]
    rw [withToken, hSegment]
  unfold handle
  dsimp only
  rw [hServed, Response.status_forMethod]
  rcases authenticate_cases
      { g with served := g.served + 1 } o r with
    ⟨sessions, ⟨hNone, reason, hRefused⟩ |
      ⟨s, hPresents, hPassed⟩⟩
  · rw [revokeShare, hRefused]
    refine ⟨rfl, ?_, fun _ => rfl⟩
    rintro ⟨s, hPresents⟩
    exact absurd hPresents (hNone s)
  · rw [revokeShare, hPassed]
    dsimp only
    rw [hReply]
    refine ⟨rfl, fun _ => rfl, ?_⟩
    intro hNone
    exact absurd hPresents (hNone s)

end Looked

------------------------------------------------------------
-- Disjoint Capabilities
------------------------------------------------------------

/-
  What tells session ids and share tokens apart: how they
  are written, what a gateway stores, and what it answers to
  a token that is presented as an id and to an id that is
  looked for as a token.
-/
structure KeepsApart
    (p : Login.Provider σ)
    (g : Gateway σ) : Prop where
  idsDiffer : Function.Injective idOf
  tokensDiffer : Function.Injective Share.Token.ofOctets
  /- Whether a draw succeeds, at any time and count. -/
  minted :
    ∀ (m : Share.Token.Minter) now draw,
      IsToken (m.mint now draw).1
  disjoint :
    ∀ text, ¬(Session.IsId text ∧ IsToken text)
  storedIds :
    ∀ id s,
      g.sessions.sessions.get? id = some s →
        s.id = id ∧ Session.IsId id ∧
          ∃ draw, id = idOf draw
  storedTokens :
    ∀ token x,
      g.shares.store.byToken.get? token = some x →
        x.token = token ∧ IsToken token
  /- In any of the places, as it is or however it is read. -/
  tokenAsId :
    ∀ (o : Occasion) (r : Request) text act nameless,
      IsToken text →
        r.Names text ∨
            Session.Carries r.headers r.target.query text →
          r.ActsOn act nameless →
            (g.handle p o r).1 =
                (o.decline (unknown (act text))).forMethod
                  r.method ∧
              (g.handle p o r).2.sessions.sessions =
                  g.sessions.sessions ∧
                (g.handle p o r).2.shares = g.shares
  idInPath :
    ∀ (r : Request) id,
      Session.IsId id →
        r.target.path = "/shares/".toList ++ id.toList →
          (r.method = "GET" ∨ r.method = "HEAD" →
              r.ResolvesShare id) ∧
            (r.method = "DELETE" → r.RevokesShare id)
  idResolved :
    ∀ (o : Occasion) (r : Request) id,
      Session.IsId id →
        r.ResolvesShare id →
          (g.handle p o r).1 =
              (o.refuse
                (.unknown "share not found")).forMethod
                  r.method ∧
            (g.handle p o r).2.shares = g.shares
  idRevoked :
    ∀ (o : Occasion) (r : Request) id,
      Session.IsId id →
        r.RevokesShare id →
          (g.handle p o r).2.shares = g.shares ∧
            ((∃ s, g.Presents r o.now s) →
                (g.handle p o r).1 =
                  (o.refuse
                    (.unknown "share not found")).forMethod
                      r.method) ∧
              ((∀ s, ¬g.Presents r o.now s) →
                (g.handle p o r).1.status = 401)

/-
  Session ids and share tokens are disjoint capabilities of
  every gateway, whatever it went through.
-/
theorem reachable_keepsApart
    (hReach : Reachable p g) :
    KeepsApart p g where
  idsDiffer := Session.Manager.idOf_injective
  tokensDiffer := Share.Token.ofOctets_injective
  minted := Share.Token.isToken_mint
  disjoint := by
    rintro text ⟨hId, hToken⟩
    exact hId.not_isToken hToken
  storedIds := by
    intro id s hStored
    rcases hReach.exists_draw id s hStored with
      ⟨hSame, draw, rfl⟩
    exact
      ⟨hSame, Session.Manager.isId_idOf draw, draw, rfl⟩
  storedTokens := hReach.isToken
  tokenAsId := by
    intro o r text act nameless hToken hPresented hActs
    have hNames : r.Names text := by
      rcases hPresented with hNames | hCarries
      · exact hNames
      · exact hCarries.names hToken.isUrlSafe hToken.ne_empty
    exact handle_of_token hReach o hToken hNames hActs
  idInPath := by
    intro r id hId hPath
    have hSegment := segmentText?_of_urlSafe hId.2
    exact
      ⟨fun hMethod => ⟨hMethod, id.toList, hPath, hSegment⟩,
        fun hMethod =>
          ⟨hMethod, id.toList, hPath, hSegment⟩⟩
  idResolved := by
    intro o r id hId hResolves
    rcases handle_resolve_of_id hReach o hId hResolves with
      ⟨hResponse, _, hShares⟩
    exact ⟨hResponse, hShares⟩
  idRevoked := by
    intro o r id hId hRevokes
    exact handle_revoke_of_id hReach o hId hRevokes

/- The token of the share that is stored. -/
def annsToken : String :=
  Share.Token.ofOctets (Vector.replicate 16 1)

/- A question of who someone is, with a share token. -/
def meWithToken : Request :=
  ⟨"GET",
    .ofChars ("/auth/me?session_id=" ++ annsToken).toList,
    [], []⟩

/- A look for a share, with the id of a session. -/
def shareOfId : Request :=
  ⟨"GET",
    .ofChars
      ("/shares/" ++ (drawing 1).sessionId).toList, [], []⟩

/- A stored token opens no session, a stored id no share. -/
theorem keepsApart_sharedByAnn :
    KeepsApart byCode sharedByAnn ∧
      (sharedByAnn.handle byCode (drawing 1)
          meWithToken).1.status = 401 ∧
        (sharedByAnn.handle byCode (drawing 1)
          shareOfId).1.status = 404 := by
  have hReach : Reachable byCode sharedByAnn :=
    Reachable.run _ (Reachable.start _ _ _ _)
  have hApart := reachable_keepsApart hReach
  have hCarries :
      Session.Carries meWithToken.headers
        meWithToken.target.query annsToken := by
    refine
      Session.Carries.query [] [] ?_ ?_ (Or.inl rfl)
        (Or.inl rfl) ?_
    · exact
        (Session.not_names_iff
          (Session.idInField?_eq_some_iff _)).mp rfl
    · decide +kernel
    · intro s hNone
      exact absurd hNone List.not_mem_nil
  have hToken : IsToken annsToken :=
    hApart.minted .initial ⟨0⟩ (some (Vector.replicate 16 1))
  have hId : Session.IsId (drawing 1).sessionId :=
    (hApart.storedIds (drawing 1).sessionId
      ⟨(drawing 1).sessionId,
        ⟨"ann", "ann", "ann", .hide "", [], []⟩, ⟨0⟩, ⟨10⟩⟩
      (by decide +kernel)).2.1
  have hPath :
      shareOfId.target.path =
        "/shares/".toList ++
          (drawing 1).sessionId.toList := by
    decide +kernel
  refine ⟨hApart, ?_, ?_⟩
  · rw [(hApart.tokenAsId (drawing 1) meWithToken annsToken _
      _ hToken (Or.inr hCarries)
        (Request.ActsOn.me (Or.inl rfl)
          (by decide +kernel))).1]
    rfl
  · rw [(hApart.idResolved (drawing 1) shareOfId _ hId
      ((hApart.idInPath shareOfId _ hId hPath).1
        (Or.inl rfl))).1]
    rfl

end Gateway

end Gatehouse
