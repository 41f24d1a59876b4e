/-
  Punycode: names in ASCII.

  The characters of ASCII are written first.  The others
  follow in the order of their code points, each as the
  distance from the one before: a number with digits in
  base thirty-six whose thresholds adapt to the distances.

  Key definitions include:
    * `Punycode.encode`
    * `Punycode.decode?`
-/

namespace Gatehouse

namespace Punycode

------------------------------------------------------------
-- Digits and Thresholds
------------------------------------------------------------

/- The letter or number of a digit. -/
def digit
    (d : Nat) : Char :=
  if d < 26 then
    Char.ofNat (97 + d)
  else
    Char.ofNat (22 + d)

/- The value of a digit, in either case. -/
def value?
    (c : Char) : Option Nat :=
  let n := c.toNat
  if 97 ≤ n && n ≤ 122 then
    some (n - 97)
  else if 65 ≤ n && n ≤ 90 then
    some (n - 65)
  else if 48 ≤ n && n ≤ 57 then
    some (n - 22)
  else
    none

/- The threshold of the digit at a position. -/
def threshold
    (k bias : Nat) : Nat :=
  if k ≤ bias then
    1
  else if bias + 26 ≤ k then
    26
  else
    k - bias

/- A threshold is at least one. -/
theorem threshold_pos
    (k bias : Nat) :
    1 ≤ threshold k bias := by
  unfold threshold
  split
  · omega
  · split <;> omega

/- A threshold is at most twenty-six. -/
theorem threshold_le
    (k bias : Nat) :
    threshold k bias ≤ 26 := by
  unfold threshold
  split
  · omega
  · split <;> omega

/- Shrink a distance; count the steps of thirty-six. -/
def shrink
    (delta k : Nat) : Nat × Nat :=
  if 455 < delta then
    shrink (delta / 35) (k + 36)
  else
    (delta, k)
termination_by delta
decreasing_by omega

/- The bias after a distance. -/
def adapt
    (delta count : Nat)
    (first : Bool) : Nat :=
  let half := if first then delta / 700 else delta / 2
  let (rest, k) := shrink (half + half / count) 0
  k + 36 * rest / (rest + 38)

------------------------------------------------------------
-- Encoding
------------------------------------------------------------

/- The digits of a distance. -/
def encodeNumber
    (bias k q : Nat) : List Char :=
  let t := threshold k bias
  if q < t then
    [digit q]
  else
    digit (t + (q - t) % (36 - t)) ::
      encodeNumber bias (k + 36) ((q - t) / (36 - t))
termination_by q
decreasing_by
  have h₁ := threshold_pos k bias
  have h₂ :
      (q - threshold k bias) / (36 - threshold k bias) ≤
        q - threshold k bias :=
    Nat.div_le_self _ _
  omega

/- Where the encoding stands. -/
structure Encoding where
  out : List Char
  delta : Nat
  bias : Nat
  handled : Nat

/- Pass a character while the code point `n` is handled. -/
def Encoding.pass
    (basic n : Nat)
    (e : Encoding)
    (c : Char) : Encoding :=
  if c.toNat < n then
    { e with delta := e.delta + 1 }
  else if c.toNat = n then
    { out := e.out ++ encodeNumber e.bias 36 e.delta
      delta := 0
      bias :=
        adapt e.delta (e.handled + 1) (e.handled == basic)
      handled := e.handled + 1 }
  else
    e

/- Handle code points in increasing order. -/
def Encoding.run
    (input : List Char)
    (basic : Nat) :
    List Nat → Nat → Encoding → Encoding
  | [], _, e => e
  | n :: ns, last, e =>
      let e := { e with
        delta := e.delta + (n - last) * (e.handled + 1) }
      let e := input.foldl (Encoding.pass basic n) e
      run input basic ns (n + 1)
        { e with delta := e.delta + 1 }

/- Insert a number into an increasing list, once. -/
def insertOnce
    (n : Nat) :
    List Nat → List Nat
  | [] => [n]
  | m :: ms =>
      if n < m then
        n :: m :: ms
      else if n = m then
        m :: ms
      else
        m :: insertOnce n ms

/- The name in ASCII. -/
def encode
    (input : List Char) : List Char :=
  let basic := input.filter (fun c => c.toNat < 0x80)
  let others :=
    (input.filter (fun c => 0x80 ≤ c.toNat)).map Char.toNat
  let e := Encoding.run input basic.length
    (others.foldr insertOnce []) 128
    ⟨[], 0, 72, basic.length⟩
  basic ++ (if basic.isEmpty then [] else ['-']) ++ e.out

------------------------------------------------------------
-- Decoding
------------------------------------------------------------

/- A distance, added to `i`, and what follows its digits. -/
def decodeNumber
    (bias : Nat) :
    List Char → Nat → Nat → Nat → Option (Nat × List Char)
  | [], _, _, _ => none
  | c :: cs, k, weight, i =>
      match value? c with
      | none => none
      | some d =>
          let t := threshold k bias
          if d < t then
            some (i + d * weight, cs)
          else
            decodeNumber bias cs (k + 36)
              (weight * (36 - t)) (i + d * weight)

/- Is the number a character? -/
def isScalar
    (n : Nat) : Bool :=
  n < 0xD800 || (0xDFFF < n && n < 0x110000)

/-
  Insert the characters of the distances.  The number bounds
  the steps; each step reads a digit at least.
-/
def insertAll :
    Nat → Nat → Nat → Nat → List Char → List Char →
      Option (List Char)
  | _, _, _, _, out, [] => some out
  | 0, _, _, _, _, _ => none
  | steps + 1, bias, n, i, out, cs =>
      match decodeNumber bias cs 36 1 i with
      | none => none
      | some (j, rest) =>
          let count := out.length + 1
          let n := n + j / count
          if isScalar n && j < Nat.pow 2 32 then
            let out :=
              out.insertIdx (j % count) (Char.ofNat n)
            insertAll steps (adapt (j - i) count (i == 0)) n
              (j % count + 1) out rest
          else
            none

/- The characters of a name in ASCII. -/
def decode?
    (input : List Char) : Option (List Char) :=
  let reversed := input.reverse
  let tail := reversed.takeWhile (· ≠ '-')
  let basic :=
    ((reversed.dropWhile (· ≠ '-')).drop 1).reverse
  if basic.all (fun c => c.toNat < 0x80) then
    insertAll (input.length + 1) 72 128 0 basic
      tail.reverse
  else
    none

end Punycode

end Gatehouse
