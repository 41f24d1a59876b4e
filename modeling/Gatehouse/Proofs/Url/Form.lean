import Gatehouse.Proofs.Url.Percent
import Gatehouse.Url.Basic
import Mathlib.Data.List.TakeWhile

/-
  Forms read back what they write.

  A written text holds neither an ampersand nor an equals
  sign, and is read as the text.  So written pairs are read
  as these pairs, also at the end of a query that holds
  pairs of its own.

  Key definitions include:
    * `Form.octets`
    * `Url.queryPairs`

  Main results include:
    * `Form.decode_encode`
    * `Form.pairs_encodePairs`
    * `Form.pairs_append`
    * `Url.queryPairs_withPairs`
-/

namespace Gatehouse

namespace Form

------------------------------------------------------------
-- Written Octets
------------------------------------------------------------

/- The octets of written characters. -/
def octets
    (cs : List Char) : List UInt8 :=
  cs.flatMap String.utf8EncodeChar

/- The octets of a text are those of its characters. -/
theorem encode_ofList
    (cs : List Char) :
    Utf8.encode (String.ofList cs) = octets cs := by
  unfold Utf8.encode octets
  rw [String.toList_ofList]

/- The octets of one part stand before those of the next. -/
theorem octets_append
    (cs ds : List Char) :
    octets (cs ++ ds) = octets cs ++ octets ds :=
  List.flatMap_append

/- The octet of an ampersand. -/
theorem octets_ampersand
    (cs : List Char) :
    octets ('&' :: cs) = UInt8.ofNat 0x26 :: octets cs := rfl

/- The octet of an equals sign. -/
theorem octets_equals
    (cs : List Char) :
    octets ('=' :: cs) = UInt8.ofNat 0x3D :: octets cs := rfl

/- What holds of each octet can be tested. -/
theorem forall_octet
    (P : UInt8 → Prop)
    (hAll : ∀ n < 256, P (UInt8.ofNat n))
    (b : UInt8) :
    P b := by
  have hNamed := hAll b.toNat b.toNat_lt
  rwa [UInt8.ofNat_toNat] at hNamed

/- No octet is written with a mark of the form. -/
theorem ne_mark_of_mem_encodeOctet
    (b : UInt8) :
    ∀ d ∈ octets (encodeOctet b),
      d.toNat ≠ 0x26 ∧ d.toNat ≠ 0x3D := by
  have hAll :=
    forall_octet
      (fun b =>
        (octets (encodeOctet b)).all
            (fun d => d.toNat ≠ 0x26 ∧ d.toNat ≠ 0x3D) =
          true)
      (by decide +kernel) b
  intro d hd
  exact of_decide_eq_true (List.all_eq_true.mp hAll d hd)

/- No text is written with a mark of the form. -/
theorem ne_mark_of_mem_encode
    {s : String}
    {d : UInt8}
    (h : d ∈ octets (encode s)) :
    d.toNat ≠ 0x26 ∧ d.toNat ≠ 0x3D := by
  unfold octets encode at h
  rw [List.flatMap_assoc] at h
  rcases List.mem_flatMap.mp h with ⟨b, _, hMem⟩
  exact ne_mark_of_mem_encodeOctet b d hMem

------------------------------------------------------------
-- Reading a Text
------------------------------------------------------------

/- A plus sign stands for a space. -/
def spaced
    (b : UInt8) : UInt8 :=
  if b.toNat = 0x2B then 0x20 else b

/- An octet is written as itself, a plus or an escape. -/
theorem encodeOctet_cases
    (b : UInt8) :
    (octets (encodeOctet b) = [b] ∧
        b.toNat ≠ 0x25 ∧ spaced b = b) ∨
      (octets (encodeOctet b) = [0x2B] ∧ b = 0x20) ∨
        (encodeOctet b = Percent.encodeOctet b ∧
          (octets (encodeOctet b)).map spaced =
            octets (encodeOctet b)) :=
  forall_octet
    (fun b =>
      (octets (encodeOctet b) = [b] ∧
          b.toNat ≠ 0x25 ∧ spaced b = b) ∨
        (octets (encodeOctet b) = [0x2B] ∧ b = 0x20) ∨
          (encodeOctet b = Percent.encodeOctet b ∧
            (octets (encodeOctet b)).map spaced =
              octets (encodeOctet b)))
    (by decide +kernel) b

/- A written octet is read as the octet. -/
theorem decodeOctets_encodeOctet_append
    (b : UInt8)
    (bs : List UInt8) :
    Percent.decodeOctets
        ((octets (encodeOctet b)).map spaced ++ bs) =
      b :: Percent.decodeOctets bs := by
  rcases encodeOctet_cases b with
    ⟨hPlain, hNoSign, hSame⟩ | ⟨hPlus, hSpace⟩ |
      ⟨hEscape, hSame⟩
  · rw [hPlain, List.map_singleton, hSame]
    exact Percent.decodeOctets_cons_of_ne hNoSign bs
  · rw [hPlus, hSpace]
    exact Percent.decodeOctets_cons_of_ne (by decide) bs
  · rw [hSame, hEscape]
    exact Percent.decodeOctets_escape_append b bs

/- Written octets are read as the octets. -/
theorem decodeOctets_flatMap_encodeOctet
    (bs : List UInt8) :
    Percent.decodeOctets
        ((octets (bs.flatMap encodeOctet)).map spaced) =
      bs := by
  induction bs with
  | nil => rfl
  | cons b bs ih =>
      rw [List.flatMap_cons, octets_append, List.map_append,
        decodeOctets_encodeOctet_append, ih]

/- A written text is read as the text. -/
@[simp]
theorem decode_encode
    (s : String) :
    decode (octets (encode s)) = s := by
  have hOctets :
      Percent.decodeOctets
          ((octets (encode s)).map spaced) =
        Utf8.encode s :=
    decodeOctets_flatMap_encodeOctet (Utf8.encode s)
  change
    Utf8.decodeLossy
        (Percent.decodeOctets
          ((octets (encode s)).map spaced)) = s
  rw [hOctets, Utf8.decodeLossy_encode]

------------------------------------------------------------
-- Reading Pairs
------------------------------------------------------------

variable {sep : Nat}

/- There is at least one part. -/
theorem splitOctets_ne_nil
    (bs : List UInt8) :
    splitOctets sep bs ≠ [] := by
  cases bs with
  | nil => simp [splitOctets]
  | cons b bs =>
      unfold splitOctets
      split
      · simp
      · split
        · simp
        · simp

/- Octets without a separator are one part. -/
theorem splitOctets_of_forall_ne
    {bs : List UInt8}
    (h : ∀ b ∈ bs, b.toNat ≠ sep) :
    splitOctets sep bs = [bs] := by
  induction bs with
  | nil => rfl
  | cons b bs ih =>
      rcases List.forall_mem_cons.mp h with ⟨hFirst, hRest⟩
      simp [splitOctets, hFirst, ih hRest]

/- A separator divides what is before from what is after. -/
theorem splitOctets_append
    {b : UInt8}
    (hSep : b.toNat = sep)
    (bs ds : List UInt8) :
    splitOctets sep (bs ++ b :: ds) =
      splitOctets sep bs ++ splitOctets sep ds := by
  induction bs with
  | nil => simp [splitOctets, hSep]
  | cons c bs ih =>
      by_cases hMark : c.toNat = sep
      · simp [splitOctets, hMark, ih]
      · cases hParts : splitOctets sep bs with
        | nil => exact absurd hParts (splitOctets_ne_nil bs)
        | cons p ps =>
            simp [splitOctets, hMark, ih, hParts]

/- The octet of an ampersand divides pairs from pairs. -/
theorem pairs_append_ampersand
    (bs ds : List UInt8) :
    pairs (bs ++ 0x26 :: ds) = pairs bs ++ pairs ds := by
  unfold pairs
  rw [splitOctets_append (by decide), List.filter_append,
    List.map_append]

/- A separator divides pairs from pairs. -/
theorem pairs_append
    (cs ds : List Char) :
    pairs (octets (cs ++ '&' :: ds)) =
      pairs (octets cs) ++ pairs (octets ds) := by
  rw [octets_append, octets_ampersand]
  exact pairs_append_ampersand _ _

/- A written pair is read as the pair. -/
theorem pair_encodePair
    (p : String × String) :
    pair (octets (encodePair p)) = p := by
  have hName :
      ∀ b ∈ octets (encode p.1),
        decide (b.toNat ≠ 0x3D) = true := by
    intro b hb
    exact decide_eq_true (ne_mark_of_mem_encode hb).2
  have hTake :
      (octets (encodePair p)).takeWhile
          (fun b => b.toNat ≠ 0x3D) =
        octets (encode p.1) := by
    unfold encodePair
    rw [octets_append, octets_equals,
      List.takeWhile_append_of_pos hName]
    simp
  have hDrop :
      ((octets (encodePair p)).dropWhile
          (fun b => b.toNat ≠ 0x3D)).drop 1 =
        octets (encode p.2) := by
    unfold encodePair
    rw [octets_append, octets_equals,
      List.dropWhile_append_of_pos hName]
    simp
  unfold pair
  simp only [hTake, hDrop, decode_encode]

/- A written pair is one part of a form. -/
theorem pairs_encodePair
    (p : String × String) :
    pairs (octets (encodePair p)) = [p] := by
  have hPart :
      splitOctets 0x26 (octets (encodePair p)) =
        [octets (encodePair p)] := by
    apply splitOctets_of_forall_ne
    intro b hb
    unfold encodePair at hb
    rw [octets_append, octets_equals] at hb
    rcases List.mem_append.mp hb with hName | hValue
    · exact (ne_mark_of_mem_encode hName).1
    · rcases List.mem_cons.mp hValue with hSign | hIn
      · rw [hSign]
        decide
      · exact (ne_mark_of_mem_encode hIn).1
  have hSome : octets (encodePair p) ≠ [] := by
    simp [encodePair, octets_append, octets_equals]
  unfold pairs
  rw [hPart]
  simp [hSome, pair_encodePair]

/- Written pairs are read as the pairs. -/
theorem pairs_encodePairs
    (ps : List (String × String)) :
    pairs (octets (encodePairs ps)) = ps := by
  induction ps with
  | nil => rfl
  | cons p ps ih =>
      cases ps with
      | nil => exact pairs_encodePair p
      | cons q ps =>
          rw [encodePairs, pairs_append, pairs_encodePair,
            ih]
          · rfl
          · simp

end Form

namespace Url

/- The pairs in the query of a URL. -/
def queryPairs
    (u : Url) : List (String × String) :=
  Form.pairs (Form.octets (u.query.getD []))

/- Pairs that are appended come after those of the URL. -/
theorem queryPairs_withPairs
    (u : Url)
    (ps : List (String × String)) :
    (u.withPairs ps).queryPairs = u.queryPairs ++ ps := by
  have hAdded := Form.pairs_encodePairs ps
  unfold queryPairs withPairs
  cases hQuery : u.query with
  | none => exact hAdded
  | some cs =>
      cases cs with
      | nil => exact hAdded
      | cons c cs =>
          cases ps with
          | nil => simp
          | cons p ps =>
              simp only [List.isEmpty_cons,
                Bool.false_eq_true, if_false,
                Option.getD_some]
              rw [Form.pairs_append, hAdded]

end Url

end Gatehouse
