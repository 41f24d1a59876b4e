import Gatehouse.Http.Header
import Gatehouse.Login.Pkce
import Gatehouse.Proofs.Url.Form
import Gatehouse.Share.Token
import Gatehouse.Text.Blank
import Mathlib.Data.List.Basic

/-
  Octets that are written out.

  Different octets are written differently, in base 64 as
  in hexadecimal.  What is written is safe: it consists of
  letters, digits, hyphens and low lines, so it stands for
  itself in a field, in a query and in a path.

  Key definitions include:
    * `Text.isUrlSafe`
    * `Text.isLowerHex`
    * `Share.Token.IsToken`

  Main results include:
    * `Base64.encode_urlSafe_injective`
    * `Hex.ofOctets_injective`
    * `Form.encode_of_urlSafe`
    * `Login.isUrlSafe_tokenOf`
    * `Share.Token.isToken_mint`
-/

namespace Gatehouse

------------------------------------------------------------
-- Safe Characters
------------------------------------------------------------

namespace Text

/- Is it a letter, a digit, a hyphen or a low line? -/
def isUrlSafe
    (c : Char) : Bool :=
  c.isAlphanum || c = '-' || c = '_'

/- Is the character a lower-case hexadecimal digit? -/
def isLowerHex
    (c : Char) : Bool :=
  c.isDigit || ('a' ≤ c && c ≤ 'f')

variable {c : Char}

/- Bounds on a character are bounds on its number. -/
theorem isBetween_iff
    {low high : UInt32} :
    (c.val ≥ low ∧ c.val ≤ high) ↔
      low.toNat ≤ c.toNat ∧ c.toNat ≤ high.toNat := by
  rw [ge_iff_le, UInt32.le_iff_toNat_le,
    UInt32.le_iff_toNat_le]
  rfl

/- The digits by their numbers. -/
theorem isDigit_iff :
    c.isDigit = true ↔ 48 ≤ c.toNat ∧ c.toNat ≤ 57 := by
  change (decide (_ ≥ _) && decide (_ ≤ _)) = true ↔ _
  rw [Bool.and_eq_true, decide_eq_true_eq,
    decide_eq_true_eq]
  exact isBetween_iff

/- The safe characters by their numbers. -/
theorem isUrlSafe_iff :
    isUrlSafe c = true ↔
      (((65 ≤ c.toNat ∧ c.toNat ≤ 90) ∨
            (97 ≤ c.toNat ∧ c.toNat ≤ 122)) ∨
          (48 ≤ c.toNat ∧ c.toNat ≤ 57)) ∨
        c = '-' ∨ c = '_' := by
  have hUpper :
      c.isUpper = true ↔ 65 ≤ c.toNat ∧ c.toNat ≤ 90 := by
    change decide (_ ∧ _) = true ↔ _
    rw [decide_eq_true_eq]
    exact isBetween_iff
  have hLower :
      c.isLower = true ↔ 97 ≤ c.toNat ∧ c.toNat ≤ 122 := by
    change (decide (_ ≥ _) && decide (_ ≤ _)) = true ↔ _
    rw [Bool.and_eq_true, decide_eq_true_eq,
      decide_eq_true_eq]
    exact isBetween_iff
  have hAlphanum :
      c.isAlphanum =
        ((c.isUpper || c.isLower) || c.isDigit) := rfl
  simp only [isUrlSafe, hAlphanum, Bool.or_eq_true, hUpper,
    hLower, isDigit_iff, decide_eq_true_eq, or_assoc]

/- Safe characters are in ASCII. -/
theorem lt_of_isUrlSafe
    (h : isUrlSafe c = true) :
    c.toNat < 0x80 := by
  rcases isUrlSafe_iff.mp h with hAlphanum | rfl | rfl
  · omega
  · decide
  · decide

/- What holds of each safe character can be tested. -/
theorem forall_of_isUrlSafe
    (P : Char → Prop)
    (hAll :
      ∀ n < 0x80,
        isUrlSafe (Char.ofNat n) = true → P (Char.ofNat n))
    (h : isUrlSafe c = true) :
    P c := by
  have hNamed := hAll c.toNat (lt_of_isUrlSafe h)
  rw [Char.ofNat_toNat] at hNamed
  exact hNamed h

/- A safe character is visible. -/
theorem isVisible_of_isUrlSafe
    (h : isUrlSafe c = true) :
    Http.isVisible (UInt8.ofNat c.toNat) = true :=
  forall_of_isUrlSafe
    (fun d => Http.isVisible (UInt8.ofNat d.toNat) = true)
    (by decide +kernel) h

/- A safe character is not blank. -/
theorem isBlank_of_isUrlSafe
    (h : isUrlSafe c = true) :
    isBlank c = false :=
  forall_of_isUrlSafe (fun d => isBlank d = false)
    (by decide +kernel) h

/- A safe character is written as itself in a form. -/
theorem encodeOctet_of_isUrlSafe
    (h : isUrlSafe c = true) :
    Form.encodeOctet (UInt8.ofNat c.toNat) = [c] :=
  forall_of_isUrlSafe
    (fun d => Form.encodeOctet (UInt8.ofNat d.toNat) = [d])
    (by decide +kernel) h

/- A hexadecimal digit is safe. -/
theorem isUrlSafe_of_isLowerHex
    (h : isLowerHex c = true) :
    isUrlSafe c = true := by
  have hLetter :
      ('a' ≤ c ∧ c ≤ 'f') ↔
        97 ≤ c.toNat ∧ c.toNat ≤ 102 :=
    isBetween_iff
  rw [isLowerHex, Bool.or_eq_true, Bool.and_eq_true,
    decide_eq_true_eq, decide_eq_true_eq, isDigit_iff,
    hLetter] at h
  rw [isUrlSafe_iff]
  omega

end Text

------------------------------------------------------------
-- Safe Texts
------------------------------------------------------------

section Safe

variable {s : String}
variable (hSafe : ∀ c ∈ s.toList, Text.isUrlSafe c = true)

include hSafe

/- A safe text has one octet for each character. -/
theorem Utf8.encode_of_urlSafe :
    Utf8.encode s =
      s.toList.map (fun c => UInt8.ofNat c.toNat) := by
  unfold Utf8.encode
  generalize s.toList = cs at hSafe ⊢
  induction cs with
  | nil => rfl
  | cons c cs ih =>
      rcases List.forall_mem_cons.mp hSafe with
        ⟨hFirst, hRest⟩
      have hLow := Text.lt_of_isUrlSafe hFirst
      rw [List.flatMap_cons, Utf8.encodeChar_of_lt hLow,
        ih hRest]
      rfl

/- A safe text is written as itself in a form. -/
theorem Form.encode_of_urlSafe :
    Form.encode s = s.toList := by
  unfold Form.encode
  rw [Utf8.encode_of_urlSafe hSafe]
  generalize s.toList = cs at hSafe ⊢
  induction cs with
  | nil => rfl
  | cons c cs ih =>
      rcases List.forall_mem_cons.mp hSafe with
        ⟨hFirst, hRest⟩
      rw [List.map_cons, List.flatMap_cons,
        Text.encodeOctet_of_isUrlSafe hFirst, ih hRest]
      rfl

/- A safe text is left as it is by trimming. -/
theorem Text.trim_of_urlSafe :
    Text.trim s = s := by
  unfold Text.trim
  rw [Text.trimChars_eq_self, String.ofList_toList]
  intro c hc
  exact Text.isBlank_of_isUrlSafe (hSafe c hc)

/- The octets of a safe text are no percent signs. -/
theorem Percent.decodeOctets_of_urlSafe :
    Percent.decodeOctets (Utf8.encode s) =
      Utf8.encode s := by
  apply Percent.decodeOctets_of_forall_ne
  rw [Utf8.encode_of_urlSafe hSafe]
  intro b hb
  rcases List.mem_map.mp hb with ⟨c, hc, rfl⟩
  exact
    Text.forall_of_isUrlSafe
      (fun d => (UInt8.ofNat d.toNat).toNat ≠ 0x25)
      (by decide +kernel) (hSafe c hc)

end Safe

------------------------------------------------------------
-- Base 64
------------------------------------------------------------

namespace Base64

/- The symbols of values below sixty-four differ. -/
theorem symbol_inj
    {m n : Nat}
    (hm : m < 64)
    (hn : n < 64)
    (h : urlSafe.symbol m = urlSafe.symbol n) :
    m = n := by
  have hAll :
      ∀ m < 64, ∀ n < 64,
        urlSafe.symbol m = urlSafe.symbol n → m = n := by
    decide +kernel
  exact hAll m hm n hn h

/- Every symbol is safe. -/
theorem isUrlSafe_symbol
    (n : Nat) :
    Text.isUrlSafe (urlSafe.symbol n) = true := by
  by_cases hSmall : n < 63
  · have hAll :
        ∀ n < 63,
          Text.isUrlSafe (urlSafe.symbol n) = true := by
      decide +kernel
    exact hAll n hSmall
  · have hLast : urlSafe.symbol n = '_' := by
      unfold Alphabet.symbol
      rw [if_neg (by omega), if_neg (by omega),
        if_neg (by omega), if_neg (by omega)]
      rfl
    rw [hLast]
    decide

/- Octets are written in safe characters. -/
theorem isUrlSafe_of_mem_encodeChars
    (bs : List UInt8) :
    ∀ c ∈ encodeChars urlSafe bs,
      Text.isUrlSafe c = true := by
  have hPadding : ∀ n, urlSafe.padding n = [] :=
    fun _ => rfl
  fun_induction encodeChars urlSafe bs with
  | case1 => simp
  | case2 x n => simp [hPadding, isUrlSafe_symbol]
  | case3 x y n => simp [hPadding, isUrlSafe_symbol]
  | case4 x y z rest n ih =>
      simpa [isUrlSafe_symbol] using ih

/- One octet is told by its two symbols. -/
theorem octet_of_symbols
    {x x' : UInt8}
    (hFirst :
      urlSafe.symbol (x.toNat / 4) =
        urlSafe.symbol (x'.toNat / 4))
    (hSecond :
      urlSafe.symbol (x.toNat % 4 * 16) =
        urlSafe.symbol (x'.toNat % 4 * 16)) :
    x = x' := by
  have hx : x.toNat < 256 := x.toNat_lt
  have hx' : x'.toNat < 256 := x'.toNat_lt
  have hHigh := symbol_inj (by omega) (by omega) hFirst
  have hLow := symbol_inj (by omega) (by omega) hSecond
  exact UInt8.toNat_inj.mp (by omega)

/- Two octets are told by their three symbols. -/
theorem octets_of_symbols
    {x y x' y' : UInt8}
    {n n' : Nat}
    (hn : n = x.toNat * 256 + y.toNat)
    (hn' : n' = x'.toNat * 256 + y'.toNat)
    (hFirst :
      urlSafe.symbol (n / 1024) =
        urlSafe.symbol (n' / 1024))
    (hSecond :
      urlSafe.symbol (n / 16 % 64) =
        urlSafe.symbol (n' / 16 % 64))
    (hThird :
      urlSafe.symbol (n % 16 * 4) =
        urlSafe.symbol (n' % 16 * 4)) :
    x = x' ∧ y = y' := by
  have hx : x.toNat < 256 := x.toNat_lt
  have hx' : x'.toNat < 256 := x'.toNat_lt
  have hy : y.toNat < 256 := y.toNat_lt
  have hy' : y'.toNat < 256 := y'.toNat_lt
  have hHigh := symbol_inj (by omega) (by omega) hFirst
  have hMiddle := symbol_inj (by omega) (by omega) hSecond
  have hLow := symbol_inj (by omega) (by omega) hThird
  have hSame : n = n' := by omega
  exact
    ⟨UInt8.toNat_inj.mp (by omega),
      UInt8.toNat_inj.mp (by omega)⟩

/- Three octets are told by their four symbols. -/
theorem group_of_symbols
    {x y z x' y' z' : UInt8}
    {n n' : Nat}
    (hn : n = (x.toNat * 256 + y.toNat) * 256 + z.toNat)
    (hn' :
      n' = (x'.toNat * 256 + y'.toNat) * 256 + z'.toNat)
    (hFirst :
      urlSafe.symbol (n / 262144) =
        urlSafe.symbol (n' / 262144))
    (hSecond :
      urlSafe.symbol (n / 4096 % 64) =
        urlSafe.symbol (n' / 4096 % 64))
    (hThird :
      urlSafe.symbol (n / 64 % 64) =
        urlSafe.symbol (n' / 64 % 64))
    (hFourth :
      urlSafe.symbol (n % 64) = urlSafe.symbol (n' % 64)) :
    x = x' ∧ y = y' ∧ z = z' := by
  have hx : x.toNat < 256 := x.toNat_lt
  have hx' : x'.toNat < 256 := x'.toNat_lt
  have hy : y.toNat < 256 := y.toNat_lt
  have hy' : y'.toNat < 256 := y'.toNat_lt
  have hz : z.toNat < 256 := z.toNat_lt
  have hz' : z'.toNat < 256 := z'.toNat_lt
  have h1 := symbol_inj (by omega) (by omega) hFirst
  have h2 := symbol_inj (by omega) (by omega) hSecond
  have h3 := symbol_inj (by omega) (by omega) hThird
  have h4 := symbol_inj (by omega) (by omega) hFourth
  have hSame : n = n' := by omega
  exact
    ⟨UInt8.toNat_inj.mp (by omega),
      UInt8.toNat_inj.mp (by omega),
      UInt8.toNat_inj.mp (by omega)⟩

/- Octets of one length that are written alike are the same. -/
theorem encodeChars_urlSafe_inj
    (bs : List UInt8)
    {ds : List UInt8}
    (hLength : bs.length = ds.length)
    (hSame :
      encodeChars urlSafe bs = encodeChars urlSafe ds) :
    bs = ds := by
  induction bs using encodeChars.induct generalizing ds with
  | case1 =>
      exact (List.length_eq_zero_iff.mp hLength.symm).symm
  | case2 x =>
      rcases List.length_eq_one_iff.mp hLength.symm with
        ⟨x', rfl⟩
      simp only [encodeChars, List.cons.injEq] at hSame
      rw [octet_of_symbols hSame.1 hSame.2.1]
  | case3 x y =>
      rcases List.length_eq_two.mp hLength.symm with
        ⟨x', y', rfl⟩
      simp only [encodeChars, List.cons.injEq] at hSame
      rcases octets_of_symbols rfl rfl hSame.1 hSame.2.1
          hSame.2.2.1 with ⟨rfl, rfl⟩
      rfl
  | case4 x y z rest ih =>
      rcases ds with _ | ⟨x', _ | ⟨y', _ | ⟨z', rest'⟩⟩⟩
      · cases hLength
      · cases hLength
      · cases hLength
      · simp only [encodeChars, List.cons.injEq] at hSame
        rcases hSame with ⟨h1, h2, h3, h4, hRest⟩
        rcases group_of_symbols rfl rfl h1 h2 h3 h4 with
          ⟨rfl, rfl, rfl⟩
        rw [ih (by simpa using hLength) hRest]

/- Different octets are written differently. -/
theorem encode_urlSafe_injective :
    Function.Injective (encode urlSafe) := by
  intro bs ds hSame
  have hChars := String.ofList_injective hSame
  have hLengths := congrArg List.length hChars
  rw [length_encodeChars_urlSafe,
    length_encodeChars_urlSafe] at hLengths
  exact encodeChars_urlSafe_inj bs (by omega) hChars

end Base64

------------------------------------------------------------
-- Hexadecimal
------------------------------------------------------------

namespace Hex

/- The digits of values below sixteen differ. -/
theorem digit_inj
    {m n : Nat}
    (hm : m < 16)
    (hn : n < 16)
    (h : digit m = digit n) :
    m = n := by
  have hValues := congrArg value? h
  rw [value?_digit m hm, value?_digit n hn] at hValues
  exact Option.some.inj hValues

/- A digit is in lower case. -/
theorem isLowerHex_digit
    {n : Nat}
    (h : n < 16) :
    Text.isLowerHex (digit n) = true := by
  have hAll :
      ∀ m < 16, Text.isLowerHex (digit m) = true := by
    decide
  exact hAll n h

/- Octets are written in lower-case digits. -/
theorem isLowerHex_of_mem_ofOctets
    (bs : List UInt8) :
    ∀ c ∈ (ofOctets bs).toList,
      Text.isLowerHex c = true := by
  intro c hc
  unfold ofOctets at hc
  rw [String.toList_ofList] at hc
  rcases List.mem_flatMap.mp hc with ⟨b, _, hDigit⟩
  have hOctet : b.toNat < 256 := b.toNat_lt
  simp only [List.mem_cons, List.not_mem_nil, or_false]
    at hDigit
  rcases hDigit with rfl | rfl
  · exact isLowerHex_digit (by omega)
  · exact isLowerHex_digit (by omega)

/- Numbers are written in lower-case digits. -/
theorem isLowerHex_of_mem_padded
    (width n : Nat) :
    ∀ c ∈ (padded width n).toList,
      Text.isLowerHex c = true := by
  unfold padded
  rw [String.toList_ofList]
  induction width generalizing n with
  | zero => simp [paddedChars]
  | succ width ih =>
      intro c hc
      rcases List.mem_append.mp hc with hHigh | hLow
      · exact ih _ c hHigh
      · rw [List.mem_singleton.mp hLow]
        exact isLowerHex_digit (by omega)

/- Different octets are written differently. -/
theorem ofOctets_injective :
    Function.Injective ofOctets := by
  intro bs ds hSame
  have hChars := String.ofList_injective hSame
  clear hSame
  induction bs generalizing ds with
  | nil =>
      cases ds with
      | nil => rfl
      | cons d ds => cases hChars
  | cons b bs ih =>
      cases ds with
      | nil => cases hChars
      | cons d ds =>
          have hb : b.toNat < 256 := b.toNat_lt
          have hd : d.toNat < 256 := d.toNat_lt
          simp only [List.flatMap_cons, List.cons_append,
            List.nil_append, List.cons.injEq] at hChars
          rcases hChars with ⟨hFirst, hSecond, hRest⟩
          have hHigh := digit_inj (by omega) (by omega) hFirst
          have hLow := digit_inj (by omega) (by omega) hSecond
          have hOctet : b = d :=
            UInt8.toNat_inj.mp (by omega)
          rw [hOctet, ih hRest]

end Hex

------------------------------------------------------------
-- Drawn Tokens
------------------------------------------------------------

/- A drawn token is written in safe characters. -/
theorem Login.isUrlSafe_tokenOf
    (bs : List UInt8) :
    ∀ c ∈ (tokenOf bs).toList, Text.isUrlSafe c = true := by
  unfold tokenOf Base64.encode
  rw [String.toList_ofList]
  exact Base64.isUrlSafe_of_mem_encodeChars bs

namespace Share

namespace Token

/- The tokens of different octets differ. -/
theorem ofOctets_injective :
    Function.Injective ofOctets := by
  intro bs ds hSame
  exact Vector.toList_inj.mp (Hex.ofOctets_injective hSame)

/- Whatever the draw, a token is in lower-case digits. -/
theorem isLowerHex_mint
    (m : Minter)
    (now : Instant)
    (draw : Draw) :
    ∀ c ∈ (m.mint now draw).1.toList,
      Text.isLowerHex c = true := by
  cases draw with
  | some bs => exact Hex.isLowerHex_of_mem_ofOctets bs.toList
  | none => exact Hex.isLowerHex_of_mem_padded length _

/- Is a text thirty-two lower-case hexadecimal digits? -/
def IsToken
    (s : String) : Prop :=
  s.length = 32 ∧ ∀ c ∈ s.toList, Text.isLowerHex c = true

/- Whatever the draw, a token looks like one. -/
theorem isToken_mint
    (m : Minter)
    (now : Instant)
    (draw : Draw) :
    IsToken (m.mint now draw).1 :=
  ⟨length_mint m now draw, isLowerHex_mint m now draw⟩

end Token

end Share

end Gatehouse
