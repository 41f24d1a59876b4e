import Gatehouse.Text.Hex
import Gatehouse.Time.Instant

/-
  Tokens of shares.

  A token is sixteen octets in lower-case hexadecimal.  The
  octets are drawn at random.  When a draw fails they come
  from the clock, combined with a counter of the failed
  draws in the first four octets.

  Key definitions include:
    * `Share.Draw`
    * `Share.Token.ofOctets`
    * `Share.Token.fallback`
    * `Share.Token.Minter`
    * `Share.Token.Minter.mint`
-/

namespace Gatehouse

namespace Share

/- What a source of random octets gave, if it gave any. -/
abbrev Draw :=
  Option (Vector UInt8 16)

namespace Token

/- The number of characters of a token. -/
def length : Nat :=
  32

/- The token of drawn octets. -/
def ofOctets
    (bs : Vector UInt8 16) : String :=
  Hex.ofOctets bs.toList

/- The bound of a number of thirty-two digits. -/
def bound : Nat :=
  Nat.pow 2 128

/-
  The token of a failed draw: the nanoseconds since 1970,
  none before, and the counter in the highest digits.
-/
def fallback
    (now : Instant)
    (count : Nat) : String :=
  let counted := (count * Nat.pow 2 96) % bound
  Hex.padded length (now.nanos.toNat ^^^ counted)

/- How many draws have failed, up to the width of a word. -/
structure Minter where
  failures : Nat
  deriving DecidableEq, Repr

namespace Minter

/- No draw has failed yet. -/
def initial : Minter :=
  ⟨0⟩

/- The number of values of the counter. -/
def period : Nat :=
  Nat.pow 2 64

/- The token of a draw. -/
def mint
    (m : Minter)
    (now : Instant) :
    Draw → String × Minter
  | some bs => (ofOctets bs, m)
  | none =>
      (fallback now m.failures,
        ⟨(m.failures + 1) % period⟩)

end Minter

/- A token has thirty-two characters. -/
theorem length_mint
    (m : Minter)
    (now : Instant)
    (d : Draw) :
    (m.mint now d).1.length = length := by
  cases d with
  | none =>
      simp [Minter.mint, fallback, Hex.padded]
  | some bs =>
      simp only [Minter.mint, ofOctets, Hex.length_ofOctets]
      simp [length]

end Token

end Share

end Gatehouse
