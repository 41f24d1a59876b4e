import Gatehouse.Json.Reader
import Gatehouse.Json.Value
import Gatehouse.Proofs.Decimal.Natural

/-
  A written document reads back.

  The text of a value is read as that value: each escape as
  the character that it stands for, each number as its
  digits, and the members of an object in their order.  What
  follows a value is left alone, as long as it cannot go on
  a number.

  Key definitions include:
    * `Json.Value.node`
    * `Json.EndsNumeral`
    * `Json.ReadsBack`

  Main results include:
    * `Json.scanText_quoted`
    * `Json.scanNumeral_digits`
    * `Json.readsBack`
    * `Json.ofText?_write`
-/

namespace Gatehouse

namespace Json

------------------------------------------------------------
-- What a Value Is Read As
------------------------------------------------------------

mutual

/- The node that the text of a value is read as. -/
def Value.node :
    Value → Node
  | .null => .null
  | .boolean b => .boolean b
  | .natural n =>
      .number ⟨false, Decimal.digits n, [], none⟩
  | .text s => .text (some s)
  | .array items => .array (Value.itemNodes items)
  | .object ms => .object (Value.memberNodes ms)

/- The nodes that items are read as. -/
def Value.itemNodes :
    List Value → List Node
  | [] => []
  | v :: vs => v.node :: Value.itemNodes vs

/- The members that members are read as. -/
def Value.memberNodes :
    List (String × Value) → List (Option String × Node)
  | [] => []
  | (k, v) :: ms => (some k, v.node) :: Value.memberNodes ms

end

/- The characters of a text as input. -/
def inputOf
    (cs : List Char) : Input :=
  cs.map some

/- A character comes before those that follow it. -/
@[simp]
theorem inputOf_cons
    (c : Char)
    (cs : List Char) :
    inputOf (c :: cs) = some c :: inputOf cs := rfl

/- There is no input in the empty text. -/
@[simp]
theorem inputOf_nil :
    inputOf [] = [] := rfl

/- What is written first is read first. -/
@[simp]
theorem inputOf_append
    (cs ds : List Char) :
    inputOf (cs ++ ds) = inputOf cs ++ inputOf ds :=
  List.map_append

------------------------------------------------------------
-- Texts
------------------------------------------------------------

/- One piece more of a text that is read. -/
def putPiece
    (p : Piece)
    (r : List Piece × Input) : List Piece × Input :=
  (p :: r.1, r.2)

/- Four padded digits read back as a unit. -/
theorem unit16?_paddedChars
    {n : Nat}
    (h : n < 32) :
    ∃ a b c d,
      Hex.paddedChars 4 n = [a, b, c, d] ∧
        unit16? (some a) (some b) (some c) (some d) =
          some n := by
  refine ⟨_, _, _, _, rfl, ?_⟩
  have hDigit :
      ∀ m, Hex.value? (Hex.digit (m % 16)) = some (m % 16) :=
    fun m => Hex.value?_digit _ (Nat.mod_lt m (by decide))
  simp only [unit16?, Option.bind_eq_bind, Option.bind_some,
    Option.pure_def, hDigit, Option.some.injEq]
  omega

/- An escaped unit is read as one piece. -/
theorem scanText_unit
    {a b c d : Option Char}
    {n : Nat}
    (rest : Input)
    (h : unit16? a b c d = some n) :
    scanText
        (some '\\' :: some 'u' :: a :: b :: c :: d :: rest) =
      (scanText rest).map (putPiece (.escaped n)) := by
  rw [scanText, h]
  cases scanText rest <;> rfl

/- A character that is escaped by a letter is one piece. -/
theorem scanText_letter
    {e c : Char}
    (rest : Input)
    (hLetter : e ≠ 'u')
    (h : simpleEscape? e = some c) :
    scanText (some '\\' :: some e :: rest) =
      (scanText rest).map (putPiece (.char c)) := by
  rw [scanText, h]
  · cases scanText rest <;> rfl
  · intro _ _ _ _ _ _ hUnit
    exact hLetter hUnit

/- A character that needs no escape is read as it stands. -/
theorem scanText_plain
    {c : Char}
    (rest : Input)
    (hQuote : c ≠ '"')
    (hSlash : c ≠ '\\')
    (hControl : ¬c.toNat < 32) :
    scanText (some c :: rest) =
      (scanText rest).map (putPiece (.char c)) := by
  rw [scanText]
  · simp only [hSlash, hControl]
    cases scanText rest <;> rfl
  all_goals simp_all

/- Are these characters read as one piece for a character? -/
def ReadsAs
    (cs : List Char)
    (c : Char) : Prop :=
  ∃ p,
    (∀ ps, joinPieces (p :: ps) =
      (joinPieces ps).map (c :: ·)) ∧
      ∀ rest, scanText (inputOf cs ++ rest) =
        (scanText rest).map (putPiece p)

/- A letter after a backslash stands for its character. -/
theorem readsAs_letter
    {e c : Char}
    (hLetter : e ≠ 'u')
    (h : simpleEscape? e = some c) :
    ReadsAs ['\\', e] c :=
  ⟨.char c, fun _ => rfl, fun rest =>
    scanText_letter rest hLetter h⟩

/- A letter after a backslash stands for a code. -/
theorem readsAs_code
    {e c : Char}
    {code : Nat}
    (hCode : c.toNat = code)
    (hLetter : e ≠ 'u')
    (h : simpleEscape? e = some (Char.ofNat code)) :
    ReadsAs ['\\', e] c := by
  rw [← hCode, Char.ofNat_toNat] at h
  exact readsAs_letter hLetter h

/- Four digits after a backslash stand for a control. -/
theorem readsAs_unit
    {c : Char}
    (h : c.toNat < 32) :
    ReadsAs ('\\' :: 'u' :: Hex.paddedChars 4 c.toNat) c := by
  rcases unit16?_paddedChars h with
    ⟨a, b, c', d, hPadded, hUnit⟩
  refine ⟨.escaped c.toNat, ?_, ?_⟩
  · intro ps
    have hHigh : isHigh c.toNat = false := by
      simp only [isHigh, Bool.and_eq_false_imp,
        decide_eq_true_iff, decide_eq_false_iff_not]
      omega
    have hLow : isLow c.toNat = false := by
      simp only [isLow, Bool.and_eq_false_imp,
        decide_eq_true_iff, decide_eq_false_iff_not]
      omega
    rw [joinPieces.eq_def]
    simp [hHigh, hLow]
  · intro rest
    rw [hPadded]
    exact scanText_unit rest hUnit

/- An escaped character stands for itself. -/
theorem readsAs_escape
    (c : Char) :
    ReadsAs (escape c) c := by
  unfold escape
  split
  next hQuote =>
    exact readsAs_letter (by decide) (by rw [hQuote]; rfl)
  split
  next hSlash =>
    exact readsAs_letter (by decide) (by rw [hSlash]; rfl)
  split
  next hCode =>
    exact readsAs_code hCode (by decide) rfl
  split
  next hCode =>
    exact readsAs_code hCode (by decide) rfl
  split
  next hCode =>
    exact readsAs_code hCode (by decide) rfl
  split
  next hCode =>
    exact readsAs_code hCode (by decide) rfl
  split
  next hCode =>
    exact readsAs_code hCode (by decide) rfl
  split
  next hControl => exact readsAs_unit hControl
  next hQuote hSlash _ _ _ _ _ hControl =>
    refine ⟨.char c, fun _ => rfl, ?_⟩
    intro rest
    exact scanText_plain rest hQuote hSlash hControl

/- A text between quotes is read up to its closing quote. -/
theorem scanText_quoted
    (cs : List Char)
    (rest : Input) :
    ∃ ps, joinPieces ps = some cs ∧
      scanText
          (inputOf (cs.flatMap escape ++ ['"']) ++ rest) =
        some (ps, rest) := by
  induction cs with
  | nil => exact ⟨[], rfl, rfl⟩
  | cons c cs ih =>
      rcases readsAs_escape c with ⟨p, hJoin, hScan⟩
      rcases ih with ⟨ps, hRest, hRestScan⟩
      refine ⟨p :: ps, ?_, ?_⟩
      · rw [hJoin, hRest]
        rfl
      · rw [List.flatMap_cons, List.append_assoc,
          inputOf_append, List.append_assoc, hScan,
          hRestScan]
        rfl

------------------------------------------------------------
-- Numbers
------------------------------------------------------------

/- Can the input not go on a number? -/
def EndsNumeral :
    Input → Prop
  | some c :: _ =>
      Decimal.isDigit c = false ∧
        c ≠ '.' ∧ c ≠ 'e' ∧ c ≠ 'E'
  | _ => True

/- A mark after an item or a member ends a number. -/
theorem endsNumeral_mark
    {c : Char}
    (rest : Input)
    (h : c = ',' ∨ c = ']' ∨ c = '}') :
    EndsNumeral (some c :: rest) := by
  rcases h with rfl | rfl | rfl
  all_goals
    exact ⟨by decide, by decide, by decide, by decide⟩

/- Digits are read up to what is no digit. -/
theorem scanDigits_append
    {ds : List Char}
    {rest : Input}
    (hDigits : ∀ d ∈ ds, Decimal.isDigit d = true)
    (hEnds : EndsNumeral rest) :
    scanDigits (inputOf ds ++ rest) = (ds, rest) := by
  induction ds with
  | nil =>
      match rest, hEnds with
      | [], _ => rfl
      | none :: _, _ => rfl
      | some c :: _, hEnds => simp [scanDigits, hEnds.1]
  | cons d ds ih =>
      have hParts := List.forall_mem_cons.mp hDigits
      simp only [inputOf_cons, List.cons_append, scanDigits,
        hParts.1, if_true, ih hParts.2]

/- There is no point where a number ends. -/
theorem scanFraction_of_ends
    {rest : Input}
    (hEnds : EndsNumeral rest) :
    scanFraction rest = some ([], rest) := by
  match rest, hEnds with
  | [], _ => rfl
  | none :: _, _ => rfl
  | some c :: _, hEnds => simp [scanFraction, hEnds.2.1]

/- There is no exponent where a number ends. -/
theorem scanExponent_of_ends
    {rest : Input}
    (hEnds : EndsNumeral rest) :
    scanExponent rest = some (none, rest) := by
  match rest, hEnds with
  | [], _ => rfl
  | none :: _, _ => rfl
  | some c :: _, hEnds =>
      simp [scanExponent, hEnds.2.2.1, hEnds.2.2.2]

/- The digits of a number begin with a digit. -/
theorem exists_cons_digits
    (n : Nat) :
    ∃ d ds, Decimal.digits n = d :: ds ∧
      Decimal.isDigit d = true := by
  rcases List.exists_cons_of_ne_nil
      (Decimal.digits_ne_nil n) with ⟨d, ds, hDigits⟩
  refine ⟨d, ds, hDigits, ?_⟩
  apply Decimal.isDigit_of_mem_digits
  rw [hDigits]
  exact List.mem_cons_self

/- The digits of a number are read as its digits. -/
theorem scanSomeDigits_digits
    (n : Nat)
    {rest : Input}
    (hEnds : EndsNumeral rest) :
    scanSomeDigits (inputOf (Decimal.digits n) ++ rest) =
      some (Decimal.digits n, rest) := by
  rcases exists_cons_digits n with ⟨d, ds, hDigits, _⟩
  have hScan :
      scanDigits (inputOf (Decimal.digits n) ++ rest) =
        (Decimal.digits n, rest) :=
    scanDigits_append
      (fun _ hd => Decimal.isDigit_of_mem_digits hd) hEnds
  unfold scanSomeDigits
  rw [hScan, hDigits]

/- The digits of a number are read as a number. -/
theorem scanNumeral_digits
    (n : Nat)
    {rest : Input}
    (hEnds : EndsNumeral rest) :
    scanNumeral (inputOf (Decimal.digits n) ++ rest) =
      some (⟨false, Decimal.digits n, [], none⟩, rest) := by
  have hZero := Decimal.not_zero_before_digit n
  unfold scanNumeral
  split
  next negative s hSign =>
    split at hSign
    next tail hMinus =>
      rcases exists_cons_digits n with
        ⟨d, ds, hDigits, hDigit⟩
      rw [hDigits] at hMinus
      cases hMinus
      exact absurd hDigit (by decide)
    next =>
      cases hSign
      simp [scanSomeDigits_digits n hEnds, hZero,
        scanFraction_of_ends hEnds,
        scanExponent_of_ends hEnds]

------------------------------------------------------------
-- Values
------------------------------------------------------------

/- A digit is neither white space nor a sign of JSON. -/
theorem isSpace_of_isDigit
    {c : Char}
    (h : Decimal.isDigit c = true) :
    isSpace (some c) = false ∧ c ≠ ']' := by
  constructor
  · rw [← Bool.not_eq_true]
    intro hSpace
    simp only [isSpace, Bool.or_eq_true, decide_eq_true_iff,
      Option.some.injEq] at hSpace
    rcases hSpace with ((rfl | rfl) | rfl) | rfl
    all_goals exact absurd h (by decide)
  · rintro rfl
    exact absurd h (by decide)

/- A written value begins neither with white space nor ']'. -/
theorem exists_cons_chars
    (v : Value) :
    ∃ c cs, v.chars = c :: cs ∧
      isSpace (some c) = false ∧ c ≠ ']' := by
  cases v with
  | null => exact ⟨_, _, rfl, by decide, by decide⟩
  | boolean b =>
      cases b with
      | false => exact ⟨_, _, rfl, by decide, by decide⟩
      | true => exact ⟨_, _, rfl, by decide, by decide⟩
  | natural n =>
      rcases exists_cons_digits n with
        ⟨d, ds, hDigits, hDigit⟩
      rw [Value.chars]
      exact ⟨d, ds, hDigits, isSpace_of_isDigit hDigit⟩
  | text s => exact ⟨_, _, rfl, by decide, by decide⟩
  | array items =>
      cases items with
      | nil => exact ⟨_, _, rfl, by decide, by decide⟩
      | cons v vs =>
          rw [Value.chars]
          exact ⟨_, _, rfl, by decide, by decide⟩
  | object ms =>
      cases ms with
      | nil => exact ⟨_, _, rfl, by decide, by decide⟩
      | cons m ms =>
          rw [Value.chars]
          exact ⟨_, _, rfl, by decide, by decide⟩

/- What is no white space is not skipped. -/
theorem skipSpace_cons
    {c : Char}
    (rest : Input)
    (h : isSpace (some c) = false) :
    skipSpace (some c :: rest) = some c :: rest := by
  rw [skipSpace, List.dropWhile_cons, h]
  rfl

/- A value that begins with a digit is a number. -/
theorem readValue_digit
    {c : Char}
    (n : Nat)
    (rest : Input)
    (h : Decimal.isDigit c = true) :
    readValue (n + 1) (some c :: rest) =
      (scanNumeral (some c :: rest)).map
        (fun r => (.number r.1, r.2)) := by
  rw [readValue, skipSpace_cons rest (isSpace_of_isDigit h).1]
  split
  case h_7 => cases scanNumeral (some c :: rest) <;> rfl
  all_goals
    rename_i hHead
    cases hHead
    exact absurd h (by decide)

/- A value that begins with a quote is a text. -/
theorem readValue_quote
    (n : Nat)
    (rest : Input) :
    readValue (n + 1) (some '"' :: rest) =
      (scanText rest).bind
        (fun r => some (.text (textOf r.1), r.2)) := rfl

/- A value that begins with a bracket is an array. -/
theorem readValue_bracket
    (n : Nat)
    {c : Char}
    (rest : Input)
    (hSpace : isSpace (some c) = false)
    (hOther : c ≠ ']') :
    readValue (n + 1) (some '[' :: some c :: rest) =
      (readItems n (some c :: rest)).bind
        (fun r => some (.array r.1, r.2)) := by
  rw [readValue, skipSpace_cons _ (by decide)]
  split
  case h_2 hHead =>
    cases hHead
    rw [skipSpace_cons rest hSpace]
    split
    next hClosed =>
      cases hClosed
      exact absurd rfl hOther
    next => rfl
  case h_7 hBracket _ _ _ _ =>
    exact absurd rfl (hBracket _)
  all_goals
    rename_i hHead
    simp at hHead

/- A value that begins with a brace is an object. -/
theorem readValue_brace
    (n : Nat)
    (rest : Input) :
    readValue (n + 1) (some '{' :: some '"' :: rest) =
      (readMembers n (some '"' :: rest)).bind
        (fun r => some (.object r.1, r.2)) := rfl

/- An item before a closing bracket is the last one. -/
theorem readItems_last
    {n : Nat}
    {s rest : Input}
    {item : Node}
    (h : readValue n s = some (item, some ']' :: rest)) :
    readItems (n + 1) s = some ([item], rest) := by
  rw [readItems, h]
  rfl

/- An item before a comma comes before others. -/
theorem readItems_more
    {n : Nat}
    {s rest : Input}
    {item : Node}
    (h : readValue n s = some (item, some ',' :: rest)) :
    readItems (n + 1) s =
      (readItems n rest).bind
        (fun r => some (item :: r.1, r.2)) := by
  rw [readItems, h]
  rfl

/- A member before a closing brace is the last one. -/
theorem readMembers_last
    {n : Nat}
    {s s' rest : Input}
    {ps : List Piece}
    {value : Node}
    (hName : scanText s = some (ps, some ':' :: s'))
    (hValue :
      readValue n s' = some (value, some '}' :: rest)) :
    readMembers (n + 1) (some '"' :: s) =
      some ([(textOf ps, value)], rest) := by
  change (scanText s).bind _ = _
  rw [hName]
  change (readValue n s').bind _ = _
  rw [hValue]
  rfl

/- A member before a comma comes before others. -/
theorem readMembers_more
    {n : Nat}
    {s s' rest : Input}
    {ps : List Piece}
    {value : Node}
    (hName : scanText s = some (ps, some ':' :: s'))
    (hValue :
      readValue n s' = some (value, some ',' :: rest)) :
    readMembers (n + 1) (some '"' :: s) =
      (readMembers n rest).bind
        (fun r =>
          some ((textOf ps, value) :: r.1, r.2)) := by
  change (scanText s).bind _ = _
  rw [hName]
  change (readValue n s').bind _ = _
  rw [hValue]
  rfl

/- A name between quotes is read back before what follows. -/
theorem scanText_name
    (k : String)
    (rest : Input) :
    ∃ ps, textOf ps = some k ∧
      inputOf (quote k.toList) ++ rest =
        some '"' ::
          (inputOf (k.toList.flatMap escape ++ ['"']) ++
            rest) ∧
      scanText
          (inputOf (k.toList.flatMap escape ++ ['"']) ++
            rest) =
        some (ps, rest) := by
  rcases scanText_quoted k.toList rest with
    ⟨ps, hJoin, hScan⟩
  refine ⟨ps, ?_, rfl, hScan⟩
  rw [textOf, hJoin, Option.map_some, String.ofList_toList]

/-
  With enough steps, one for each character, what was
  written is read back and what follows is left.
-/
structure ReadsBack
    (n : Nat) : Prop where
  value :
    ∀ (v : Value) (rest : Input),
      v.chars.length ≤ n →
        EndsNumeral rest →
          readValue n (inputOf v.chars ++ rest) =
            some (v.node, rest)
  items :
    ∀ (v : Value) (vs : List Value) (rest : Input),
      (v.chars ++ Value.itemChars vs).length ≤ n →
        readItems n
            (inputOf (v.chars ++ Value.itemChars vs) ++
              rest) =
          some (v.node :: Value.itemNodes vs, rest)
  members :
    ∀ (k : String) (v : Value)
      (ms : List (String × Value)) (rest : Input),
      (quote k.toList ++
          ':' :: (v.chars ++ Value.memberChars ms)).length ≤
          n →
        readMembers n
            (inputOf (quote k.toList ++
              ':' :: (v.chars ++ Value.memberChars ms)) ++
              rest) =
          some ((some k, v.node) :: Value.memberNodes ms,
            rest)

namespace ReadsBack

variable {n : Nat}

/- With one step more, values are read back. -/
theorem value_succ
    (h : ReadsBack n)
    (v : Value)
    (rest : Input)
    (hSteps : v.chars.length ≤ n + 1)
    (hEnds : EndsNumeral rest) :
    readValue (n + 1) (inputOf v.chars ++ rest) =
      some (v.node, rest) := by
  cases v with
  | null => rfl
  | boolean b => cases b <;> rfl
  | natural k =>
      rcases exists_cons_digits k with
        ⟨d, ds, hDigits, hDigit⟩
      have hScan := scanNumeral_digits k hEnds
      rw [Value.chars, Value.node]
      rw [hDigits] at hScan ⊢
      rw [inputOf_cons, List.cons_append] at hScan ⊢
      rw [readValue_digit n _ hDigit, hScan]
      rfl
  | text s =>
      rcases scanText_name s rest with
        ⟨ps, hText, hQuoted, hScan⟩
      rw [Value.chars, Value.node, hQuoted, readValue_quote,
        hScan, Option.bind_some, hText]
  | array items =>
      cases items with
      | nil => rfl
      | cons v vs =>
          rcases exists_cons_chars v with
            ⟨c, cs, hChars, hSpace, hOther⟩
          rw [Value.chars, List.length_cons] at hSteps
          have hItems :=
            h.items v vs rest (Nat.le_of_succ_le_succ hSteps)
          rw [Value.chars, Value.node, Value.itemNodes]
          rw [hChars] at hItems ⊢
          simp only [inputOf_cons, List.cons_append]
            at hItems ⊢
          rw [readValue_bracket n _ hSpace hOther, hItems]
          rfl
  | object ms =>
      cases ms with
      | nil => rfl
      | cons m ms =>
          rcases m with ⟨k, v⟩
          rw [Value.chars, List.length_cons] at hSteps
          have hMembers :=
            h.members k v ms rest
              (Nat.le_of_succ_le_succ hSteps)
          rw [Value.chars, Value.node, Value.memberNodes]
          rw [quote] at hMembers ⊢
          simp only [inputOf_cons, List.cons_append]
            at hMembers ⊢
          rw [readValue_brace, hMembers]
          rfl

/- With one step more, items are read back. -/
theorem items_succ
    (h : ReadsBack n)
    (v : Value)
    (vs : List Value)
    (rest : Input)
    (hSteps :
      (v.chars ++ Value.itemChars vs).length ≤ n + 1) :
    readItems (n + 1)
        (inputOf (v.chars ++ Value.itemChars vs) ++ rest) =
      some (v.node :: Value.itemNodes vs, rest) := by
  cases vs with
  | nil =>
      rw [Value.itemChars, List.length_append,
        List.length_singleton] at hSteps
      rw [Value.itemChars, Value.itemNodes, inputOf_append,
        List.append_assoc]
      apply readItems_last
      exact
        h.value v _ (by omega) (endsNumeral_mark _ (by simp))
  | cons w vs =>
      rw [Value.itemChars, List.length_append,
        List.length_cons] at hSteps
      have hFirst :=
        h.value v
          (some ',' ::
            (inputOf (w.chars ++ Value.itemChars vs) ++ rest))
          (by omega) (endsNumeral_mark _ (by simp))
      have hOthers := h.items w vs rest (by omega)
      rw [Value.itemChars, Value.itemNodes, inputOf_append,
        List.append_assoc, inputOf_cons, List.cons_append,
        readItems_more hFirst, hOthers, Option.bind_some]

/- With one step more, members are read back. -/
theorem members_succ
    (h : ReadsBack n)
    (k : String)
    (v : Value)
    (ms : List (String × Value))
    (rest : Input)
    (hSteps :
      (quote k.toList ++
          ':' :: (v.chars ++ Value.memberChars ms)).length ≤
        n + 1) :
    readMembers (n + 1)
        (inputOf (quote k.toList ++
          ':' :: (v.chars ++ Value.memberChars ms)) ++ rest) =
      some ((some k, v.node) :: Value.memberNodes ms,
        rest) := by
  rw [inputOf_append, List.append_assoc, inputOf_cons,
    List.cons_append]
  rcases scanText_name k
      (some ':' ::
        (inputOf (v.chars ++ Value.memberChars ms) ++ rest))
    with ⟨ps, hText, hQuoted, hName⟩
  rw [hQuoted]
  simp only [List.length_append, List.length_cons] at hSteps
  cases ms with
  | nil =>
      rw [Value.memberChars, List.length_singleton] at hSteps
      have hValue :=
        h.value v (some '}' :: rest) (by omega)
          (endsNumeral_mark _ (by simp))
      have hRest :
          inputOf (v.chars ++ Value.memberChars []) ++ rest =
            inputOf v.chars ++ some '}' :: rest := by
        rw [Value.memberChars, inputOf_append,
          List.append_assoc]
        rfl
      rw [hRest] at hName ⊢
      rw [Value.memberNodes, ← hText]
      exact readMembers_last hName hValue
  | cons m ms =>
      rcases m with ⟨l, w⟩
      let others :=
        quote l.toList ++
          ':' :: (w.chars ++ Value.memberChars ms)
      have hOthers : others.length ≤ n := by
        simp only [Value.memberChars, List.length_append,
          List.length_cons] at hSteps
        simp only [others, List.length_append,
          List.length_cons]
        omega
      have hValue :=
        h.value v (some ',' :: (inputOf others ++ rest))
          (by omega) (endsNumeral_mark _ (by simp))
      have hRest :
          inputOf
              (v.chars ++ Value.memberChars ((l, w) :: ms)) ++
                rest =
            inputOf v.chars ++
              some ',' :: (inputOf others ++ rest) := by
        rw [Value.memberChars, inputOf_append,
          List.append_assoc]
        rfl
      rw [hRest] at hName ⊢
      rw [Value.memberNodes, ← hText,
        readMembers_more hName hValue,
        h.members l w ms rest hOthers, Option.bind_some]

end ReadsBack

/- What was written is read back, however many steps. -/
theorem readsBack
    (n : Nat) :
    ReadsBack n := by
  induction n with
  | zero =>
      constructor
      · intro v rest hSteps
        rcases exists_cons_chars v with ⟨c, cs, hChars, _⟩
        simp [hChars] at hSteps
      · intro v vs rest hSteps
        rcases exists_cons_chars v with ⟨c, cs, hChars, _⟩
        simp [hChars] at hSteps
      · intro k v ms rest hSteps
        simp at hSteps
  | succ n ih =>
      exact ⟨ih.value_succ, ih.items_succ, ih.members_succ⟩

/- The text of a value is read back as the value. -/
theorem ofText?_write
    (v : Value) :
    ofText? v.write = some v.node := by
  have hRead :=
    (readsBack (v.chars.length + 1)).value v []
      (Nat.le_succ _) trivial
  rw [List.append_nil] at hRead
  have hInput : v.write.toList.map some = inputOf v.chars := by
    rw [Value.write, String.toList_ofList]
    rfl
  have hLength :
      (inputOf v.chars).length = v.chars.length :=
    List.length_map some
  rw [ofText?, hInput, read?, hLength, hRead]
  rfl

end Json

end Gatehouse
