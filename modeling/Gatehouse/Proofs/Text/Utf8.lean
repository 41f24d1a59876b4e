import Gatehouse.Text.Utf8

/-
  UTF-8 reads back what it writes.

  The octets of a character are read as that character, from
  wherever they stand between two others.  So the octets of a
  text have no faults in them, and are read as the text.
  Octets without faults are those of the text that is read.

  Main results include:
    * `Utf8.unitsFrom_encodeChar_append`
    * `Utf8.units_encode`
    * `Utf8.decode?_encode`
    * `Utf8.decodeLossy_encode`
    * `Utf8.encode_of_decode?`
-/

namespace Gatehouse

namespace Utf8

------------------------------------------------------------
-- Octets Within a Character
------------------------------------------------------------

/- An octet is delivered before those that follow it. -/
theorem unitsFrom_cons
    (st : Option Pending)
    {n : Nat}
    (bs : List UInt8)
    (h : n < 256) :
    unitsFrom st (UInt8.ofNat n :: bs) =
      (step st n).1 ++ unitsFrom (step st n).2 bs := by
  simp only [unitsFrom, UInt8.toNat_ofNat_of_lt' h]

/- The last octet that a character owes completes it. -/
theorem unitsFrom_last
    (value : Nat)
    {n : Nat}
    (bs : List UInt8)
    (h : n < 64) :
    unitsFrom (some ⟨1, 0x80, 0xBF, value⟩)
        (UInt8.ofNat (n + 0x80) :: bs) =
      some (Char.ofNat (value * 64 + n)) ::
        unitsFrom none bs := by
  have hGreatest : n + 0x80 ≤ 0xBF := by omega
  rw [unitsFrom_cons _ bs (by omega)]
  simp [step, hGreatest]

/- Any other octet that it owes leaves it in progress. -/
theorem unitsFrom_more
    {owed least greatest : Nat}
    (value : Nat)
    {n : Nat}
    (bs : List UInt8)
    (h : n < 64)
    (hOwed : 1 < owed)
    (hLeast : least ≤ n + 0x80)
    (hGreatest : n + 0x80 ≤ greatest) :
    unitsFrom (some ⟨owed, least, greatest, value⟩)
        (UInt8.ofNat (n + 0x80) :: bs) =
      unitsFrom
        (some ⟨owed - 1, 0x80, 0xBF, value * 64 + n⟩)
        bs := by
  rw [unitsFrom_cons _ bs (by omega)]
  simp [step, Nat.not_le.mpr hOwed, hLeast, hGreatest]

/- The first octet decides what a character owes. -/
theorem unitsFrom_first
    {n : Nat}
    {p : Pending}
    (bs : List UInt8)
    (hOctet : n < 256)
    (hFirst : first n = ([], some p)) :
    unitsFrom none (UInt8.ofNat n :: bs) =
      unitsFrom (some p) bs := by
  rw [unitsFrom_cons none bs hOctet]
  simp [step, hFirst]

------------------------------------------------------------
-- Characters by Their Number of Octets
------------------------------------------------------------

variable {n : Nat}

/- A character of one octet. -/
theorem unitsFrom_one
    (bs : List UInt8)
    (h : n ≤ 0x7F) :
    unitsFrom none (UInt8.ofNat n :: bs) =
      some (Char.ofNat n) :: unitsFrom none bs := by
  have hLow : n < 0x80 := by omega
  rw [unitsFrom_cons none bs (by omega)]
  simp [step, first, hLow]

/- A character of two octets. -/
theorem unitsFrom_two
    (bs : List UInt8)
    (hLow : 0x7F < n)
    (hHigh : n ≤ 0x7FF) :
    unitsFrom none
        (UInt8.ofNat (n / 64 % 32 + 0xC0) ::
          UInt8.ofNat (n % 64 + 0x80) :: bs) =
      some (Char.ofNat n) :: unitsFrom none bs := by
  have hFirst :
      first (n / 64 % 32 + 0xC0) =
        ([], some ⟨1, 0x80, 0xBF, n / 64 % 32⟩) := by
    unfold first
    rw [if_neg (by omega), if_neg (by omega),
      if_pos (by omega), Nat.add_sub_cancel]
  have hValue : n / 64 % 32 * 64 + n % 64 = n := by
    omega
  rw [unitsFrom_first _ (by omega) hFirst,
    unitsFrom_last _ bs (by omega), hValue]

/- A character of three octets. -/
theorem unitsFrom_three
    (bs : List UInt8)
    (hLow : 0x7FF < n)
    (hHigh : n ≤ 0xFFFF)
    (hValid : n.isValidChar) :
    unitsFrom none
        (UInt8.ofNat (n / 4096 % 16 + 0xE0) ::
          UInt8.ofNat (n / 64 % 64 + 0x80) ::
            UInt8.ofNat (n % 64 + 0x80) :: bs) =
      some (Char.ofNat n) :: unitsFrom none bs := by
  let least := if n / 4096 % 16 = 0 then 0xA0 else 0x80
  let greatest := if n / 4096 % 16 = 13 then 0x9F else 0xBF
  have hFirst :
      first (n / 4096 % 16 + 0xE0) =
        ([], some ⟨2, least, greatest, n / 4096 % 16⟩) := by
    unfold first
    rw [if_neg (by omega), if_neg (by omega),
      if_neg (by omega), if_pos (by omega),
      Nat.add_sub_cancel]
    simp only [least, greatest, Nat.add_eq_right,
      Nat.reduceEqDiff]
  have hValue :
      (n / 4096 % 16 * 64 + n / 64 % 64) * 64 + n % 64 =
        n := by
    omega
  have hLeast : least ≤ n / 64 % 64 + 0x80 := by
    simp only [least]
    split <;> omega
  -- The surrogates would stand above this bound.
  have hGreatest : n / 64 % 64 + 0x80 ≤ greatest := by
    simp only [greatest]
    split <;> omega
  rw [unitsFrom_first _ (by omega) hFirst,
    unitsFrom_more _ _ (by omega) (by omega) hLeast
      hGreatest,
    unitsFrom_last _ bs (by omega), hValue]

/- A character of four octets. -/
theorem unitsFrom_four
    (bs : List UInt8)
    (hLow : 0xFFFF < n)
    (hValid : n.isValidChar) :
    unitsFrom none
        (UInt8.ofNat (n / 262144 % 8 + 0xF0) ::
          UInt8.ofNat (n / 4096 % 64 + 0x80) ::
            UInt8.ofNat (n / 64 % 64 + 0x80) ::
              UInt8.ofNat (n % 64 + 0x80) :: bs) =
      some (Char.ofNat n) :: unitsFrom none bs := by
  let least := if n / 262144 % 8 = 0 then 0x90 else 0x80
  let greatest := if n / 262144 % 8 = 4 then 0x8F else 0xBF
  have hFirst :
      first (n / 262144 % 8 + 0xF0) =
        ([], some ⟨3, least, greatest, n / 262144 % 8⟩) := by
    unfold first
    rw [if_neg (by omega), if_neg (by omega),
      if_neg (by omega), if_neg (by omega),
      if_pos (by omega), Nat.add_sub_cancel]
    simp only [least, greatest, Nat.add_eq_right,
      Nat.reduceEqDiff]
  have hValue :
      ((n / 262144 % 8 * 64 + n / 4096 % 64) * 64 +
          n / 64 % 64) * 64 + n % 64 = n := by
    omega
  have hLeast : least ≤ n / 4096 % 64 + 0x80 := by
    simp only [least]
    split <;> omega
  -- The greatest character stands at this bound.
  have hGreatest : n / 4096 % 64 + 0x80 ≤ greatest := by
    simp only [greatest]
    split <;> omega
  rw [unitsFrom_first _ (by omega) hFirst,
    unitsFrom_more _ _ (by omega) (by omega) hLeast
      hGreatest,
    unitsFrom_more _ _ (by omega) (by omega) (by omega)
      (by omega),
    unitsFrom_last _ bs (by omega), hValue]

/- The octets of a character are read as that character. -/
theorem unitsFrom_encodeChar_append
    (c : Char)
    (bs : List UInt8) :
    unitsFrom none (String.utf8EncodeChar c ++ bs) =
      some c :: unitsFrom none bs := by
  have hValid : c.val.toNat.isValidChar := c.valid
  have hSame : c = Char.ofNat c.val.toNat :=
    (Char.ofNat_toNat c).symm
  suffices hValue :
      unitsFrom none (String.utf8EncodeChar c ++ bs) =
        some (Char.ofNat c.val.toNat) ::
          unitsFrom none bs by
    rwa [← hSame] at hValue
  unfold String.utf8EncodeChar
  by_cases hOne : c.val.toNat ≤ 0x7F
  · rw [if_pos hOne]
    exact unitsFrom_one bs hOne
  · rw [if_neg hOne]
    by_cases hTwo : c.val.toNat ≤ 0x7FF
    · rw [if_pos hTwo]
      exact unitsFrom_two bs (by omega) hTwo
    · rw [if_neg hTwo]
      by_cases hThree : c.val.toNat ≤ 0xFFFF
      · rw [if_pos hThree]
        exact unitsFrom_three bs (by omega) hThree hValid
      · rw [if_neg hThree]
        exact unitsFrom_four bs (by omega) hValid

/- A character of ASCII is one octet. -/
theorem encodeChar_of_lt
    {c : Char}
    (h : c.toNat < 0x80) :
    String.utf8EncodeChar c = [UInt8.ofNat c.toNat] := by
  have hOne : c.val.toNat ≤ 0x7F := Nat.le_of_lt_succ h
  unfold String.utf8EncodeChar
  rw [if_pos hOne]
  rfl

------------------------------------------------------------
-- Texts
------------------------------------------------------------

/- The octets of characters are read as these characters. -/
theorem units_flatMap_encodeChar
    (cs : List Char) :
    units (cs.flatMap String.utf8EncodeChar) =
      cs.map some := by
  induction cs with
  | nil => rfl
  | cons c cs ih =>
      rw [List.flatMap_cons, List.map_cons, ← ih]
      exact unitsFrom_encodeChar_append c _

/- There are no faults in the octets of a text. -/
theorem units_encode
    (s : String) :
    units (encode s) = s.toList.map some :=
  units_flatMap_encodeChar s.toList

/- The octets of a text are read as the text. -/
@[simp]
theorem decode?_encode
    (s : String) :
    decode? (encode s) = some s := by
  simp [decode?, units_encode]

/- No fault is replaced in the octets of a text. -/
@[simp]
theorem decodeLossy_encode
    (s : String) :
    decodeLossy (encode s) = s := by
  simp [decodeLossy, units_encode, Function.comp_def]

------------------------------------------------------------
-- Octets Without Faults
------------------------------------------------------------

/- The octet of a number is the octet it was taken from. -/
theorem ofNat_eq_of_toNat
    {b : UInt8}
    {n : Nat}
    (h : b.toNat = n) :
    UInt8.ofNat n = b := by
  rw [← h, UInt8.ofNat_toNat]

/- Characters without faults have no fault in front. -/
theorem exists_of_whole_cons
    {u : Option Char}
    {us : List (Option Char)}
    {cs : List Char}
    (h : whole (u :: us) = some cs) :
    ∃ c ds, u = some c ∧ cs = c :: ds ∧
      whole us = some ds := by
  cases u with
  | none => cases h
  | some c =>
      rcases Option.map_eq_some_iff.mp h with
        ⟨ds, hWhole, rfl⟩
      exact ⟨c, ds, rfl, rfl, hWhole⟩

/- What a character owes comes next if there is no fault. -/
theorem exists_of_whole_pending
    {p : Pending}
    {bs : List UInt8}
    {cs : List Char}
    (hLeast : 0x80 ≤ p.least)
    (hGreatest : p.greatest ≤ 0xBF)
    (h : whole (unitsFrom (some p) bs) = some cs) :
    ∃ n bs', n < 64 ∧ p.least ≤ n + 0x80 ∧
      n + 0x80 ≤ p.greatest ∧
        bs = UInt8.ofNat (n + 0x80) :: bs' := by
  cases bs with
  | nil => cases h
  | cons b bs =>
      by_cases hNext : p.least ≤ b.toNat ∧ b.toNat ≤ p.greatest
      · have hOctet :
            UInt8.ofNat (b.toNat - 0x80 + 0x80) = b :=
          ofNat_eq_of_toNat (by omega)
        refine ⟨b.toNat - 0x80, bs, by omega, by omega,
          by omega, ?_⟩
        rw [hOctet]
      · have hFault :
            (step (some p) b.toNat).1 =
              none :: (first b.toNat).1 := by
          unfold step
          simp [hNext]
        change
          whole ((step (some p) b.toNat).1 ++ _) = _ at h
        rw [hFault] at h
        cases h

/- The value of a character in range is its number. -/
theorem toNat_val_ofNat
    (h : n.isValidChar) :
    (Char.ofNat n).val.toNat = n := by
  rw [Char.ofNat, dif_pos h]
  rfl

/- The two octets of a character. -/
theorem encodeChar_two
    (hLow : 0x7F < n)
    (hHigh : n ≤ 0x7FF) :
    String.utf8EncodeChar (Char.ofNat n) =
      [UInt8.ofNat (n / 64 % 32 + 0xC0),
       UInt8.ofNat (n % 64 + 0x80)] := by
  have hValid : n.isValidChar := Or.inl (by omega)
  unfold String.utf8EncodeChar
  rw [toNat_val_ofNat hValid, if_neg (by omega),
    if_pos (by omega)]

/- The three octets of a character. -/
theorem encodeChar_three
    (hLow : 0x7FF < n)
    (hHigh : n ≤ 0xFFFF)
    (hValid : n.isValidChar) :
    String.utf8EncodeChar (Char.ofNat n) =
      [UInt8.ofNat (n / 4096 % 16 + 0xE0),
       UInt8.ofNat (n / 64 % 64 + 0x80),
       UInt8.ofNat (n % 64 + 0x80)] := by
  unfold String.utf8EncodeChar
  rw [toNat_val_ofNat hValid, if_neg (by omega),
    if_neg (by omega), if_pos (by omega)]

/- The four octets of a character. -/
theorem encodeChar_four
    (hLow : 0xFFFF < n)
    (hValid : n.isValidChar) :
    String.utf8EncodeChar (Char.ofNat n) =
      [UInt8.ofNat (n / 262144 % 8 + 0xF0),
       UInt8.ofNat (n / 4096 % 64 + 0x80),
       UInt8.ofNat (n / 64 % 64 + 0x80),
       UInt8.ofNat (n % 64 + 0x80)] := by
  unfold String.utf8EncodeChar
  rw [toNat_val_ofNat hValid, if_neg (by omega),
    if_neg (by omega), if_neg (by omega)]

section Faultless

variable {b : UInt8} {bs : List UInt8} {cs : List Char}

/- One octet that stands for itself. -/
theorem exists_encodeChar_of_one
    (bs : List UInt8)
    (h : b.toNat < 0x80) :
    ∃ c bs', b :: bs = String.utf8EncodeChar c ++ bs' := by
  have hValue : (Char.ofNat b.toNat).toNat = b.toNat :=
    toNat_val_ofNat (Or.inl (by omega))
  refine ⟨Char.ofNat b.toNat, bs, ?_⟩
  rw [encodeChar_of_lt (by omega), hValue,
    UInt8.ofNat_toNat]
  rfl

/- A first octet that owes one is followed by it. -/
theorem exists_encodeChar_of_two
    (hLow : 0xC2 ≤ b.toNat)
    (hHigh : b.toNat < 0xE0)
    (h :
      whole
          (unitsFrom
            (some ⟨1, 0x80, 0xBF, b.toNat - 0xC0⟩) bs) =
        some cs) :
    ∃ c bs', b :: bs = String.utf8EncodeChar c ++ bs' := by
  rcases exists_of_whole_pending (Nat.le_refl _)
      (Nat.le_refl _) h with ⟨n, bs', hSmall, _, _, rfl⟩
  have hHead :
      ((b.toNat - 0xC0) * 64 + n) / 64 % 32 + 0xC0 =
        b.toNat := by
    omega
  have hLast :
      ((b.toNat - 0xC0) * 64 + n) % 64 = n := by
    omega
  refine ⟨Char.ofNat ((b.toNat - 0xC0) * 64 + n), bs', ?_⟩
  rw [encodeChar_two (by omega) (by omega), hHead, hLast,
    UInt8.ofNat_toNat]
  rfl

/- A first octet that owes two is followed by them. -/
theorem exists_encodeChar_of_three
    {least greatest : Nat}
    (hLow : 0xE0 ≤ b.toNat)
    (hHigh : b.toNat < 0xF0)
    (hLeast :
      least = if b.toNat = 0xE0 then 0xA0 else 0x80)
    (hGreatest :
      greatest = if b.toNat = 0xED then 0x9F else 0xBF)
    (h :
      whole
          (unitsFrom
            (some ⟨2, least, greatest, b.toNat - 0xE0⟩)
            bs) =
        some cs) :
    ∃ c bs', b :: bs = String.utf8EncodeChar c ++ bs' := by
  rcases exists_of_whole_pending
      (by dsimp only; split at hLeast <;> omega)
      (by dsimp only; split at hGreatest <;> omega) h with
    ⟨n, bs₁, hSmall, hAbove, hBelow, rfl⟩
  rw [unitsFrom_more _ _ hSmall (by decide) hAbove hBelow]
    at h
  rcases exists_of_whole_pending (Nat.le_refl _)
      (Nat.le_refl _) h with ⟨k, bs', hSmall', _, _, rfl⟩
  dsimp only at hAbove hBelow
  let v := ((b.toNat - 0xE0) * 64 + n) * 64 + k
  have hWide : 0x7FF < v := by
    simp only [v]
    split at hLeast <;> omega
  -- The greatest second octet keeps the surrogates out.
  have hValid : v.isValidChar := by
    simp only [v, Nat.isValidChar]
    split at hGreatest <;> omega
  have hHead : v / 4096 % 16 + 0xE0 = b.toNat := by
    simp only [v]
    omega
  have hNext : v / 64 % 64 = n := by
    simp only [v]
    omega
  have hLast : v % 64 = k := by
    simp only [v]
    omega
  refine ⟨Char.ofNat v, bs', ?_⟩
  rw [encodeChar_three hWide (by simp only [v]; omega) hValid,
    hHead, hNext, hLast, UInt8.ofNat_toNat]
  rfl

/- A first octet that owes three is followed by them. -/
theorem exists_encodeChar_of_four
    {least greatest : Nat}
    (hLow : 0xF0 ≤ b.toNat)
    (hHigh : b.toNat < 0xF5)
    (hLeast :
      least = if b.toNat = 0xF0 then 0x90 else 0x80)
    (hGreatest :
      greatest = if b.toNat = 0xF4 then 0x8F else 0xBF)
    (h :
      whole
          (unitsFrom
            (some ⟨3, least, greatest, b.toNat - 0xF0⟩)
            bs) =
        some cs) :
    ∃ c bs', b :: bs = String.utf8EncodeChar c ++ bs' := by
  rcases exists_of_whole_pending
      (by dsimp only; split at hLeast <;> omega)
      (by dsimp only; split at hGreatest <;> omega) h with
    ⟨n, bs₁, hSmall, hAbove, hBelow, rfl⟩
  rw [unitsFrom_more _ _ hSmall (by decide) hAbove hBelow]
    at h
  rcases exists_of_whole_pending (Nat.le_refl _)
      (Nat.le_refl _) h with
    ⟨k, bs₂, hSmall', hAbove', hBelow', rfl⟩
  rw [unitsFrom_more _ _ hSmall' (by decide) hAbove' hBelow']
    at h
  rcases exists_of_whole_pending (Nat.le_refl _)
      (Nat.le_refl _) h with ⟨l, bs', hSmall'', _, _, rfl⟩
  dsimp only at hAbove hBelow
  let v := (((b.toNat - 0xF0) * 64 + n) * 64 + k) * 64 + l
  have hWide : 0xFFFF < v := by
    simp only [v]
    split at hLeast <;> omega
  -- The greatest second octet keeps to the last character.
  have hValid : v.isValidChar := by
    simp only [v, Nat.isValidChar]
    split at hGreatest <;> split at hLeast <;> omega
  have hHead : v / 262144 % 8 + 0xF0 = b.toNat := by
    simp only [v]
    omega
  have hSecond : v / 4096 % 64 = n := by
    simp only [v]
    omega
  have hThird : v / 64 % 64 = k := by
    simp only [v]
    omega
  have hLast : v % 64 = l := by
    simp only [v]
    omega
  refine ⟨Char.ofNat v, bs', ?_⟩
  rw [encodeChar_four hWide hValid, hHead, hSecond, hThird,
    hLast, UInt8.ofNat_toNat]
  rfl

/- Octets without faults begin with those of a character. -/
theorem exists_encodeChar_append
    (h : whole (units (b :: bs)) = some cs) :
    ∃ c bs', b :: bs = String.utf8EncodeChar c ++ bs' := by
  have hFirst :
      whole
          ((first b.toNat).1 ++
            unitsFrom (first b.toNat).2 bs) =
        some cs := h
  unfold first at hFirst
  split at hFirst
  next hOne => exact exists_encodeChar_of_one bs hOne
  split at hFirst
  next => cases hFirst
  split at hFirst
  next hNotOne hFault hTwo =>
    exact
      exists_encodeChar_of_two (by omega) hTwo hFirst
  split at hFirst
  next hNotTwo hThree =>
    exact
      exists_encodeChar_of_three (by omega) hThree rfl rfl
        hFirst
  split at hFirst
  next hNotThree hFour =>
    exact
      exists_encodeChar_of_four (by omega) hFour rfl rfl
        hFirst
  next => cases hFirst

end Faultless

/- Octets that are read without fault are those of a text. -/
theorem flatMap_encodeChar_of_whole
    (cs : List Char) :
    ∀ {bs : List UInt8},
      whole (units bs) = some cs →
        cs.flatMap String.utf8EncodeChar = bs := by
  induction cs with
  | nil =>
      intro bs h
      cases bs with
      | nil => rfl
      | cons b bs =>
          rcases exists_encodeChar_append h with
            ⟨c, bs', hOctets⟩
          rw [hOctets, units, unitsFrom_encodeChar_append] at h
          rcases exists_of_whole_cons h with ⟨_, _, _, hNil, _⟩
          cases hNil
  | cons c cs ih =>
      intro bs h
      cases bs with
      | nil => cases h
      | cons b bs =>
          rcases exists_encodeChar_append h with
            ⟨d, bs', hOctets⟩
          rw [hOctets, units, unitsFrom_encodeChar_append] at h
          rcases exists_of_whole_cons h with
            ⟨_, _, hSame, hCons, hRest⟩
          cases hSame
          cases hCons
          rw [List.flatMap_cons, ih hRest, hOctets]

/- Octets that are a text are the octets of that text. -/
theorem encode_of_decode?
    {bs : List UInt8}
    {s : String}
    (h : decode? bs = some s) :
    encode s = bs := by
  rcases Option.map_eq_some_iff.mp h with ⟨cs, hWhole, rfl⟩
  rw [encode, String.toList_ofList]
  exact flatMap_encodeChar_of_whole cs hWhole

end Utf8

end Gatehouse
