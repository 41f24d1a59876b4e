import Gatehouse.Proofs.Text.Utf8
import Gatehouse.Url.Percent

/-
  Percent-encoding reads back what it writes.

  An octet that is no percent sign stands for itself, and a
  percent sign with two digits for the octet they denote.

  Main results include:
    * `Percent.decodeOctets_of_forall_ne`
    * `Percent.decodeOctets_escape_append`
-/

namespace Gatehouse

namespace Hex

/- An upper-case digit reads back as its value. -/
theorem value?_upperDigit
    (n : Nat)
    (h : n < 16) :
    value? (upperDigit n) = some n := by
  have hAll :
      ∀ m < 16, value? (upperDigit m) = some m := by
    decide
  exact hAll n h

/- An upper-case digit is in ASCII. -/
theorem toNat_upperDigit_lt
    (n : Nat)
    (h : n < 16) :
    (upperDigit n).toNat < 0x80 := by
  have hAll : ∀ m < 16, (upperDigit m).toNat < 0x80 := by
    decide
  exact hAll n h

end Hex

namespace Percent

/- An octet that is no percent sign stands for itself. -/
theorem decodeOctets_cons_of_ne
    {b : UInt8}
    (h : b.toNat ≠ 0x25)
    (bs : List UInt8) :
    decodeOctets (b :: bs) = b :: decodeOctets bs := by
  match bs with
  | [] => rfl
  | [_] => rfl
  | _ :: _ :: _ =>
      rw [decodeOctets, if_neg h]

/- Octets without a percent sign stand for themselves. -/
theorem decodeOctets_of_forall_ne
    {bs : List UInt8}
    (h : ∀ b ∈ bs, b.toNat ≠ 0x25) :
    decodeOctets bs = bs := by
  induction bs with
  | nil => rfl
  | cons b bs ih =>
      rcases List.forall_mem_cons.mp h with ⟨hFirst, hRest⟩
      rw [decodeOctets_cons_of_ne hFirst, ih hRest]

/- The octet of an upper-case digit has its value. -/
theorem hexOctet?_upperDigit
    (n : Nat)
    (h : n < 16) :
    hexOctet? (UInt8.ofNat (Hex.upperDigit n).toNat) =
      some n := by
  have hLow := Hex.toNat_upperDigit_lt n h
  have hOctet :
      (UInt8.ofNat (Hex.upperDigit n).toNat).toNat =
        (Hex.upperDigit n).toNat :=
    UInt8.toNat_ofNat_of_lt' (Nat.lt_trans hLow (by decide))
  unfold hexOctet?
  rw [hOctet, if_pos hLow, Char.ofNat_toNat]
  exact Hex.value?_upperDigit n h

/- The octets of an escape stand for the octet escaped. -/
theorem decodeOctets_escape_append
    (b : UInt8)
    (bs : List UInt8) :
    decodeOctets
        ((encodeOctet b).flatMap String.utf8EncodeChar ++
          bs) =
      b :: decodeOctets bs := by
  have hOctet : b.toNat < 256 := b.toNat_lt
  have hHigh : b.toNat / 16 < 16 := by omega
  have hLow : b.toNat % 16 < 16 := by omega
  have hWhole : b.toNat / 16 * 16 + b.toNat % 16 = b.toNat :=
    Nat.div_add_mod' _ _
  have hSign :
      String.utf8EncodeChar '%' = [UInt8.ofNat 0x25] := rfl
  have hSignValue : (UInt8.ofNat 0x25).toNat = 0x25 := rfl
  unfold encodeOctet
  simp only [List.flatMap_cons, List.flatMap_nil, hSign,
    Utf8.encodeChar_of_lt (Hex.toNat_upperDigit_lt _ hHigh),
    Utf8.encodeChar_of_lt (Hex.toNat_upperDigit_lt _ hLow),
    List.cons_append, List.nil_append]
  rw [decodeOctets, if_pos hSignValue,
    hexOctet?_upperDigit _ hHigh, hexOctet?_upperDigit _ hLow]
  simp only [hWhole, UInt8.ofNat_toNat]

end Percent

end Gatehouse
