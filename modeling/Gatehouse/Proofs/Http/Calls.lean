import Gatehouse.Http.Client
import Gatehouse.Http.Status
import Gatehouse.Proofs.Text.Utf8

/-
  What calls bring.

  A call is answered if its address can be asked, if its
  authorization can stand in a header field, and if the
  client comes back with a response.  A token can stand there
  unless it holds a control character.

  Key definitions include:
    * `Http.IsFieldText`
    * `Http.Call.Targets`
    * `Http.Call.outgoing`
    * `Http.Incoming.Holds`
    * `Http.Call.Brings`

  Main results include:
    * `Http.isSendable_bearer_iff`
    * `Http.Call.prepare_eq_ok_iff`
    * `Http.Call.send_eq_ok_iff`
    * `Http.Reply.success_and_document?_iff`
    * `Http.Call.exists_reply_iff`
-/

namespace Gatehouse

namespace Utf8

/- Beyond ASCII, every octet is beyond ASCII. -/
theorem le_of_mem_encodeChar
    {c : Char}
    (h : 0x80 ≤ c.toNat)
    {b : UInt8}
    (hb : b ∈ String.utf8EncodeChar c) :
    0x80 ≤ b.toNat := by
  have hWide : ¬c.val.toNat ≤ 0x7F := Nat.not_le.mpr h
  unfold String.utf8EncodeChar at hb
  rw [if_neg hWide] at hb
  split at hb
  · simp only [List.mem_cons, List.not_mem_nil, or_false]
      at hb
    rcases hb with rfl | rfl <;>
      simp only [UInt8.toNat_ofNat'] <;> omega
  · split at hb
    · simp only [List.mem_cons, List.not_mem_nil, or_false]
        at hb
      rcases hb with rfl | rfl | rfl <;>
        simp only [UInt8.toNat_ofNat'] <;> omega
    · simp only [List.mem_cons, List.not_mem_nil, or_false]
        at hb
      rcases hb with rfl | rfl | rfl | rfl <;>
        simp only [UInt8.toNat_ofNat'] <;> omega

/- Texts in a row are their octets in a row. -/
theorem encode_append
    (s t : String) :
    encode (s ++ t) = encode s ++ encode t := by
  unfold encode
  rw [String.toList_append, List.flatMap_append]

end Utf8

namespace Http

------------------------------------------------------------
-- Header Fields
------------------------------------------------------------

/- Is the character no control character, or a tab? -/
def IsFieldChar
    (c : Char) : Prop :=
  (32 ≤ c.toNat ∧ c.toNat ≠ 127) ∨ c.toNat = 9

/- Can the text stand in a header field? -/
def IsFieldText
    (s : String) : Prop :=
  ∀ c ∈ s.toList, IsFieldChar c

/- A character stands in a field if its octets do. -/
theorem all_encodeChar_iff
    (c : Char) :
    (String.utf8EncodeChar c).all isFieldOctet = true ↔
      IsFieldChar c := by
  unfold IsFieldChar
  by_cases hSmall : c.toNat < 0x80
  · rw [Utf8.encodeChar_of_lt hSmall]
    have hOctet :
        (UInt8.ofNat c.toNat).toNat = c.toNat := by
      rw [UInt8.toNat_ofNat']
      omega
    simp [isFieldOctet, hOctet]
  · have hAll :
        (String.utf8EncodeChar c).all isFieldOctet =
          true := by
      rw [List.all_eq_true]
      intro b hb
      have hWide :=
        Utf8.le_of_mem_encodeChar (Nat.not_lt.mp hSmall) hb
      simp only [isFieldOctet, Bool.or_eq_true,
        Bool.and_eq_true, decide_eq_true_iff]
      omega
    simp only [hAll, true_iff]
    omega

/- A token can be sent if it can stand in a field. -/
theorem isSendable_bearer_iff
    (token : String) :
    (Pass.bearer token).isSendable = true ↔
      IsFieldText token := by
  have hScheme :
      (Utf8.encode "Bearer ").all isFieldOctet = true := by
    decide
  unfold Pass.isSendable Pass.value? IsFieldText
  rw [Option.getD_some, Utf8.encode_append, List.all_append,
    hScheme, Bool.true_and, Utf8.encode, List.all_flatMap,
    List.all_eq_true]
  simp only [all_encodeChar_iff]

------------------------------------------------------------
-- Requests
------------------------------------------------------------

namespace Call

/- Is this the address of a call, and can it be asked? -/
structure Targets
    (c : Call)
    (u : Url) : Prop where
  parses : Url.parse c.address = .ok u
  hasHost : u.hasHost = true
  isReachable : isReachable (splitUser u).1 = true

/- The request of a call to its address. -/
def outgoing
    (c : Call)
    (u : Url) : Outgoing :=
  { verb := c.verb
    url := (splitUser u).1
    agent := c.agent
    accept := c.accept
    authorization := (splitUser u).2 <|> c.pass.value?
    contentType := c.form.map (fun _ => formType)
    body :=
      String.ofList (Form.encodePairs (c.form.getD [])) }

/- A request is made if all that goes into it can be sent. -/
theorem prepare_eq_ok_iff
    {c : Call}
    {request : Outgoing} :
    c.prepare = .ok request ↔
      c.pass.isSendable = true ∧
        ∃ u, c.Targets u ∧ request = c.outgoing u := by
  unfold prepare
  constructor
  · intro hMade
    split at hMade
    · cases hMade
    · rename_i u hParse
      split at hMade
      · cases hMade
      · rename_i hHost
        dsimp only at hMade
        split at hMade
        · cases hMade
        · rename_i hPass
          split at hMade
          · cases hMade
          · rename_i hReachable
            cases hMade
            simp only [Bool.not_eq_true,
              Bool.not_eq_false'] at hHost hPass hReachable
            exact
              ⟨hPass, u, ⟨hParse, hHost, hReachable⟩, rfl⟩
  · rintro ⟨hPass, u, hTargets, rfl⟩
    rw [hTargets.parses]
    simp only [hTargets.hasHost, hTargets.isReachable, hPass,
      Bool.not_true, Bool.false_eq_true, if_false]
    rfl

end Call

------------------------------------------------------------
-- Responses
------------------------------------------------------------

/- Is it a response of success, with a document? -/
structure Incoming.Holds
    (r : Incoming)
    (document : Json.Node) : Prop where
  isSuccess : isSuccess r.status = true
  reads : Json.ofOctets? r.body = some document

/- A response of success is read by its document. -/
theorem Reply.success_and_document?_iff
    {α : Type}
    {r : Reply}
    {read : Json.Node → Option α}
    {a : α} :
    isSuccess r.response.status = true ∧
        r.document? read = .ok a ↔
      ∃ document, r.response.Holds document ∧
        read document = some a := by
  have hDocument :
      r.document? read = .ok a ↔
        (Json.ofOctets? r.response.body).bind read =
          some a := by
    unfold document?
    split
    · rename_i hNone
      simp [hNone]
    · rename_i b hSome
      simp [hSome]
  rw [hDocument, Option.bind_eq_some_iff]
  constructor
  · rintro ⟨hStatus, document, hBody, hReads⟩
    exact ⟨document, ⟨hStatus, hBody⟩, hReads⟩
  · rintro ⟨document, hHolds, hReads⟩
    exact
      ⟨hHolds.isSuccess, document, hHolds.reads, hReads⟩

namespace Call

variable {ν : Type}

/- A reply comes if a request is made and answered. -/
theorem send_eq_ok_iff
    {k : Client ν}
    {net : ν}
    {c : Call}
    {r : Reply} :
    (c.send k net).1 = .ok r ↔
      c.pass.isSendable = true ∧
        ∃ u, c.Targets u ∧
          (k.carry net (c.outgoing u)).1 = .ok r := by
  unfold send
  constructor
  · intro hReply
    cases hMade : c.prepare with
    | error f =>
        rw [hMade] at hReply
        cases hReply
    | ok request =>
        rcases prepare_eq_ok_iff.mp hMade with
          ⟨hPass, u, hTargets, rfl⟩
        simp only [hMade] at hReply
        exact ⟨hPass, u, hTargets, hReply⟩
  · rintro ⟨hPass, u, hTargets, hCarried⟩
    have hMade : c.prepare = .ok (c.outgoing u) :=
      prepare_eq_ok_iff.mpr ⟨hPass, u, hTargets, rfl⟩
    simp only [hMade, hCarried]

/-
  Does the client come back with a document from the address
  of a call?  Whether the authorization can be sent is left
  out.
-/
def Brings
    (c : Call)
    (k : Client ν)
    (net : ν)
    (document : Json.Node) : Prop :=
  ∃ u r,
    c.Targets u ∧
      (k.carry net (c.outgoing u)).1 = .ok r ∧
        r.response.Holds document

/- A call receives what is brought, if it can be sent. -/
theorem exists_reply_iff
    {k : Client ν}
    {net : ν}
    {c : Call}
    (Fits : Json.Node → Prop) :
    (∃ r, (c.send k net).1 = .ok r ∧
        ∃ document, r.response.Holds document ∧
          Fits document) ↔
      c.pass.isSendable = true ∧
        ∃ document, c.Brings k net document ∧
          Fits document := by
  constructor
  · rintro ⟨r, hReply, document, hHolds, hFits⟩
    rcases send_eq_ok_iff.mp hReply with
      ⟨hPass, u, hTargets, hCarried⟩
    exact
      ⟨hPass, document,
        ⟨u, r, hTargets, hCarried, hHolds⟩, hFits⟩
  · rintro ⟨hPass, document,
      ⟨u, r, hTargets, hCarried, hHolds⟩, hFits⟩
    exact
      ⟨r,
        send_eq_ok_iff.mpr ⟨hPass, u, hTargets, hCarried⟩,
        document, hHolds, hFits⟩

end Call

end Http

end Gatehouse
