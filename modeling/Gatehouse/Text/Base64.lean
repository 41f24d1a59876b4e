/-
  Base 64 text.

  Three octets become four symbols.  The two alphabets
  differ in the last two symbols and in whether a short
  last group is padded.

  Key definitions include:
    * `Base64.Alphabet`
    * `Base64.urlSafe`
    * `Base64.standard`
    * `Base64.encode`
-/

namespace Gatehouse

namespace Base64

/- The symbols 62 and 63, and whether groups are padded. -/
structure Alphabet where
  symbol62 : Char
  symbol63 : Char
  padded : Bool
  deriving DecidableEq, Repr

/- The alphabet for names in URLs, without padding. -/
def urlSafe : Alphabet :=
  ⟨'-', '_', false⟩

/- The alphabet for headers, with padding. -/
def standard : Alphabet :=
  ⟨'+', '/', true⟩

/- The symbol of a value below sixty-four. -/
def Alphabet.symbol
    (a : Alphabet)
    (n : Nat) : Char :=
  if n < 26 then
    Char.ofNat (65 + n)
  else if n < 52 then
    Char.ofNat (71 + n)
  else if n < 62 then
    Char.ofNat (n - 4)
  else if n = 62 then
    a.symbol62
  else
    a.symbol63

/- The padding after a short group. -/
def Alphabet.padding
    (a : Alphabet)
    (n : Nat) : List Char :=
  if a.padded then List.replicate n '=' else []

/- The symbols of a list of octets. -/
def encodeChars
    (a : Alphabet) :
    List UInt8 → List Char
  | [] => []
  | [x] =>
      let n := x.toNat
      a.symbol (n / 4) ::
        a.symbol (n % 4 * 16) ::
        a.padding 2
  | [x, y] =>
      let n := x.toNat * 256 + y.toNat
      a.symbol (n / 1024) ::
        a.symbol (n / 16 % 64) ::
        a.symbol (n % 16 * 4) ::
        a.padding 1
  | x :: y :: z :: rest =>
      let n :=
        (x.toNat * 256 + y.toNat) * 256 + z.toNat
      a.symbol (n / 262144) ::
        a.symbol (n / 4096 % 64) ::
        a.symbol (n / 64 % 64) ::
        a.symbol (n % 64) ::
        encodeChars a rest

/- The base 64 text of a list of octets. -/
def encode
    (a : Alphabet)
    (bs : List UInt8) : String :=
  String.ofList (encodeChars a bs)

/-
  Three octets take four symbols; without padding, one more
  octet takes two, and two more take three.
-/
theorem length_encodeChars_urlSafe
    (bs : List UInt8) :
    (encodeChars urlSafe bs).length =
      (4 * bs.length + 2) / 3 := by
  fun_induction encodeChars urlSafe bs with
  | case1 => rfl
  | case2 x n => simp [Alphabet.padding, urlSafe]
  | case3 x y n => simp [Alphabet.padding, urlSafe]
  | case4 x y z rest n ih =>
      simp only [List.length_cons, ih]
      omega

end Base64

end Gatehouse
