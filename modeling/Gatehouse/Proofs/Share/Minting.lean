import Gatehouse.Proofs.History
import Gatehouse.Proofs.Text.Octets
import Mathlib.Algebra.Group.Int.Defs
import Mathlib.Algebra.Group.Nat.Defs

/-
  Tokens of failed draws.

  Such a token combines the clock with a count of the failed
  draws.  What a clock shows fits below the count, so tokens
  of different counts differ, also while the clock stands or
  goes back.  A count comes again only after as many failed
  draws as the highest digits can tell apart.

  Key definitions include:
    * `Share.Token.OnClock`
    * `Share.Token.distinctCounts`
    * `Share.Token.Minter.next`
    * `Share.Token.Minter.fallbacks`

  Main results include:
    * `Hex.mod_eq_of_padded_eq`
    * `Share.Token.count_eq_of_fallback_eq`
    * `Share.Token.Minter.exists_fallback_of_getElem?`
    * `Share.Token.Minter.fallbacks_never_repeat`
-/

namespace Gatehouse

------------------------------------------------------------
-- Padded Numbers
------------------------------------------------------------

namespace Hex

/- Numbers with the same digits agree as far as these go. -/
theorem mod_eq_of_paddedChars_eq
    {width m n : Nat}
    (h : paddedChars width m = paddedChars width n) :
    m % 16 ^ width = n % 16 ^ width := by
  induction width generalizing m n with
  | zero => simp [Nat.mod_one]
  | succ width ih =>
      have hParts := List.append_inj' h rfl
      have hHigh := ih hParts.1
      have hLow : m % 16 = n % 16 :=
        digit_inj (by omega) (by omega)
          (List.singleton_inj.mp hParts.2)
      rw [Nat.pow_succ', Nat.mod_mul, Nat.mod_mul, hHigh,
        hLow]

/- Numbers that are written alike agree in what is written. -/
theorem mod_eq_of_padded_eq
    {width m n : Nat}
    (h : padded width m = padded width n) :
    m % 16 ^ width = n % 16 ^ width :=
  mod_eq_of_paddedChars_eq (String.ofList_injective h)

end Hex

namespace Share

namespace Token

------------------------------------------------------------
-- Clock and Count
------------------------------------------------------------

/-
  Can a clock show the instant?  It counts the seconds since
  1970, or before, in a signed word of sixty-four bits.
-/
def OnClock
    (t : Instant) : Prop :=
  t.nanos < 2 ^ 63 * Span.second

/- The number of counts that four octets tell apart. -/
def distinctCounts : Nat :=
  2 ^ 32

/- The number that a clock and a count combine to. -/
def combined
    (now : Instant)
    (count : Nat) : Nat :=
  now.nanos.toNat ^^^ (count * Nat.pow 2 96 % bound)

/- A combined number has no more digits than are written. -/
theorem combined_lt
    {now : Instant}
    (h : OnClock now)
    (count : Nat) :
    combined now count < 2 ^ 128 := by
  have hClock : now.nanos.toNat < 2 ^ 128 := by
    unfold OnClock Span.second at h
    omega
  have hCount : count * Nat.pow 2 96 % bound < 2 ^ 128 :=
    Nat.mod_lt _ (by decide)
  exact Nat.xor_lt_two_pow hClock hCount

/- The highest digits of a combined number are the count. -/
theorem combined_div
    {now : Instant}
    (h : OnClock now)
    (count : Nat) :
    combined now count / 2 ^ 96 = count % distinctCounts := by
  have hClock : now.nanos.toNat / 2 ^ 96 = 0 := by
    unfold OnClock Span.second at h
    omega
  have hCount :
      count * Nat.pow 2 96 % bound / 2 ^ 96 =
        count % distinctCounts := by
    have hBound : bound = distinctCounts * 2 ^ 96 := rfl
    have hPower : Nat.pow 2 96 = 2 ^ 96 := rfl
    rw [hBound, hPower, Nat.mul_mod_mul_right,
      Nat.mul_div_cancel _ (Nat.two_pow_pos 96)]
  unfold combined
  rw [Nat.xor_div_two_pow, hClock, hCount, Nat.zero_xor]

/- Tokens of failed draws that agree have the same count. -/
theorem count_eq_of_fallback_eq
    {now now' : Instant}
    {m n : Nat}
    (hNow : OnClock now)
    (hNow' : OnClock now')
    (h : fallback now m = fallback now' n) :
    m % distinctCounts = n % distinctCounts := by
  have hDigits : (16 : Nat) ^ length = 2 ^ 128 := rfl
  have hSame :
      combined now m % 16 ^ length =
        combined now' n % 16 ^ length :=
    Hex.mod_eq_of_padded_eq h
  rw [hDigits, Nat.mod_eq_of_lt (combined_lt hNow m),
    Nat.mod_eq_of_lt (combined_lt hNow' n)] at hSame
  rw [← combined_div hNow m, ← combined_div hNow' n, hSame]

------------------------------------------------------------
-- Sequences of Draws
------------------------------------------------------------

namespace Minter

open History (Event Entry log)

/- The count after a draw. -/
def next
    (m : Minter)
    (event : Event Draw) : Minter :=
  (m.mint event.now event.call).2

/- The token of a draw. -/
def minted
    (e : Entry Minter Draw) : String :=
  (e.before.mint e.now e.call).1

/- The token of a draw that failed. -/
def fallback?
    (e : Entry Minter Draw) : Option String :=
  match e.call with
  | none => some (minted e)
  | some _ => none

/- The tokens of the draws that failed, in order. -/
def fallbacks
    (m : Minter)
    (events : List (Event Draw)) : List String :=
  (log next m events).filterMap fallback?

/- A failed draw has the count that it meets. -/
theorem fallbacks_cons_failed
    (m : Minter)
    (now : Instant)
    (events : List (Event Draw)) :
    m.fallbacks (⟨now, none⟩ :: events) =
      fallback now m.failures ::
        fallbacks ⟨(m.failures + 1) % period⟩ events := rfl

/-
  The token of each failed draw has a count of its own: the
  one at the beginning and the number of failures before.
-/
theorem exists_fallback_of_getElem?
    {m : Minter}
    {events : List (Event Draw)}
    (hClock : ∀ event ∈ events, OnClock event.now)
    {i : Nat}
    {token : String}
    (h : (m.fallbacks events)[i]? = some token) :
    ∃ now count,
      OnClock now ∧ token = fallback now count ∧
        count % distinctCounts =
          (m.failures + i) % distinctCounts := by
  induction events generalizing m i with
  | nil => cases h
  | cons event events ih =>
      rcases event with ⟨now, draw⟩
      rcases List.forall_mem_cons.mp hClock with
        ⟨hNow, hLater⟩
      cases draw with
      | some bs => exact ih hLater h
      | none =>
          rw [fallbacks_cons_failed] at h
          cases i with
          | zero =>
              have hToken := Option.some.inj h
              exact
                ⟨now, m.failures, hNow, hToken.symm, rfl⟩
          | succ i =>
              rw [List.getElem?_cons_succ] at h
              rcases ih hLater h with
                ⟨now', count, hNow', hToken, hCount⟩
              refine ⟨now', count, hNow', hToken, ?_⟩
              -- The counter runs through a multiple of the
              -- counts that are told apart.
              have hPeriod : period = 2 ^ 64 := rfl
              simp only [hPeriod, distinctCounts]
                at hCount ⊢
              omega

/-
  Whatever draws fail and whatever the clock shows, tokens
  of failed draws differ unless as many draws failed from
  one to the other as counts are told apart.  Every token,
  drawn or not, is thirty-two lower-case digits.
-/
theorem fallbacks_never_repeat
    (m : Minter)
    (events : List (Event Draw))
    (hClock : ∀ event ∈ events, OnClock event.now) :
    (∀ e ∈ log next m events, IsToken (minted e)) ∧
      ∀ i j token token',
        (m.fallbacks events)[i]? = some token →
          (m.fallbacks events)[j]? = some token' →
            i < j →
              j - i < distinctCounts →
                token ≠ token' := by
  constructor
  · intro e _
    exact isToken_mint e.before e.now e.call
  · intro i j token token' hFirst hSecond hOrder hNear hSame
    rcases exists_fallback_of_getElem? hClock hFirst with
      ⟨now, count, hNow, hToken, hCount⟩
    rcases exists_fallback_of_getElem? hClock hSecond with
      ⟨now', count', hNow', hToken', hCount'⟩
    rw [hToken, hToken'] at hSame
    have hCounts := count_eq_of_fallback_eq hNow hNow' hSame
    rw [hCount, hCount'] at hCounts
    unfold distinctCounts at hNear hCounts
    omega

/- A minter whose counter is about to begin again. -/
def exhausted : Minter :=
  ⟨2 ^ 64 - 1⟩

/- Failed draws at a late time and twice before 1970. -/
def backwards : List (Event Draw) :=
  [⟨⟨2 ^ 63 * Span.second - 1⟩, none⟩,
   ⟨⟨0⟩, some (Vector.replicate 16 7)⟩,
   ⟨⟨-1⟩, none⟩,
   ⟨⟨-1⟩, none⟩]

/-
  Tokens differ while the clock goes back and stands, and
  while the counter begins again.
-/
theorem fallbacks_backwards :
    (∀ event ∈ backwards, OnClock event.now) ∧
      ∃ a b c,
        exhausted.fallbacks backwards = [a, b, c] ∧
          a ≠ b ∧ a ≠ c ∧ b ≠ c := by
  have hClock : ∀ event ∈ backwards, OnClock event.now := by
    unfold OnClock
    decide
  have hApart :=
    (fallbacks_never_repeat exhausted backwards hClock).2
  refine ⟨hClock, _, _, _, rfl, ?_, ?_, ?_⟩
  · exact hApart 0 1 _ _ rfl rfl (by decide) (by decide)
  · exact hApart 0 2 _ _ rfl rfl (by decide) (by decide)
  · exact hApart 1 2 _ _ rfl rfl (by decide) (by decide)

end Minter

end Token

end Share

end Gatehouse
