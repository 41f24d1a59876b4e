/-
  Finite tables.

  A table holds at most one value for each key.  Its view is
  `get?`; each operation has one equation through it.

  Key definitions include:
    * `Table`
    * `Table.get?`
    * `Table.insert`
    * `Table.erase`
    * `Table.retain`
    * `Table.size`
-/

namespace Gatehouse

/- Entries with pairwise distinct keys. -/
structure Table
    (κ : Type)
    (α : Type) where
  entries : List (κ × α)
  distinct : (entries.map Prod.fst).Nodup

namespace Table

variable {κ α : Type}

/- A part of the entries has distinct keys too. -/
theorem nodup_filter
    {es : List (κ × α)}
    (h : (es.map Prod.fst).Nodup)
    (p : κ × α → Bool) :
    ((es.filter p).map Prod.fst).Nodup :=
  h.sublist ((List.filter_sublist).map Prod.fst)

/- The table without entries. -/
def empty : Table κ α :=
  ⟨[], by simp⟩

/- The number of entries. -/
def size
    (t : Table κ α) : Nat :=
  t.entries.length

/- The values in the table. -/
def values
    (t : Table κ α) : List α :=
  t.entries.map Prod.snd

/- Keep the entries that pass a test. -/
def retain
    (p : κ → α → Bool)
    (t : Table κ α) : Table κ α :=
  ⟨t.entries.filter (fun e => p e.1 e.2),
    nodup_filter t.distinct _⟩

/- What is kept is no more than there was. -/
theorem size_retain_le
    (p : κ → α → Bool)
    (t : Table κ α) :
    (t.retain p).size ≤ t.size :=
  List.length_filter_le _ _

variable [DecidableEq κ]

/- The value of a key. -/
def get?
    (t : Table κ α)
    (k : κ) : Option α :=
  (t.entries.find? (fun e => e.1 = k)).map Prod.snd

/- Does the table hold the key? -/
def contains
    (t : Table κ α)
    (k : κ) : Bool :=
  (t.get? k).isSome

/- Remove a key. -/
def erase
    (t : Table κ α)
    (k : κ) : Table κ α :=
  t.retain (fun k' _ => k' ≠ k)

/- Give a key a value, in place of the one it had. -/
def insert
    (t : Table κ α)
    (k : κ)
    (v : α) : Table κ α :=
  ⟨(k, v) :: (t.erase k).entries, by
    refine List.nodup_cons.mpr ⟨?_, (t.erase k).distinct⟩
    simp [erase, retain]⟩

------------------------------------------------------------
-- The View
------------------------------------------------------------

/- A key has a value exactly when the pair is an entry. -/
theorem get?_eq_some_iff
    (t : Table κ α)
    (k : κ)
    (v : α) :
    t.get? k = some v ↔ (k, v) ∈ t.entries := by
  obtain ⟨es, hd⟩ := t
  simp only [get?]
  induction es with
  | nil => simp
  | cons e es ih =>
      have hd' := (List.nodup_cons.mp hd)
      by_cases he : e.1 = k
      · have hnot : (k, v) ∉ es := by
          intro hm
          exact hd'.1
            (List.mem_map.mpr ⟨(k, v), hm, he.symm⟩)
        have hpair : e = (k, v) ↔ e.2 = v := by
          constructor
          · rintro rfl
            rfl
          · intro h
            exact Prod.ext he h
        have hflip : (k, v) = e ↔ e.2 = v :=
          ⟨fun h => hpair.mp h.symm,
            fun h => (hpair.mpr h).symm⟩
        simp [he, hnot, hflip]
      · have hne : (k, v) ≠ e := by
          rintro rfl
          exact he rfl
        simp only [List.find?_cons, he, decide_false,
          List.mem_cons, hne, false_or]
        exact ih hd'.2

/- The empty table has no value for any key. -/
@[simp]
theorem get?_empty
    (k : κ) :
    (empty : Table κ α).get? k = none := rfl

/- An inserted key has the new value, others keep theirs. -/
theorem get?_insert
    (t : Table κ α)
    (k k' : κ)
    (v : α) :
    (t.insert k v).get? k' =
      if k = k' then some v else t.get? k' := by
  by_cases h : k = k'
  · subst h
    simp [get?, insert]
  · simp only [get?, insert, List.find?_cons, h,
      decide_false, if_false, erase, retain,
      List.find?_filter]
    congr 2
    funext e
    by_cases he : e.1 = k'
    · simp [he, Ne.symm h]
    · simp [he]

/- A removed key has no value, others keep theirs. -/
theorem get?_erase
    (t : Table κ α)
    (k k' : κ) :
    (t.erase k).get? k' =
      if k = k' then none else t.get? k' := by
  by_cases h : k = k'
  · subst h
    simp only [get?, erase, retain, List.find?_filter,
      if_true, Option.map_eq_none_iff,
      List.find?_eq_none]
    intro e _
    by_cases he : e.1 = k <;> simp [he]
  · simp only [get?, erase, retain, List.find?_filter, h,
      if_false]
    congr 2
    funext e
    by_cases he : e.1 = k'
    · simp [he, Ne.symm h]
    · simp [he]

/- What is kept is what passed the test. -/
theorem get?_retain
    (t : Table κ α)
    (p : κ → α → Bool)
    (k : κ) :
    (t.retain p).get? k =
      (t.get? k).filter (p k) := by
  apply Option.ext
  intro v
  rw [get?_eq_some_iff, Option.filter_eq_some_iff,
    get?_eq_some_iff]
  simp [retain]

/- The values are those of the keys. -/
theorem mem_values_iff
    (t : Table κ α)
    (v : α) :
    v ∈ t.values ↔ ∃ k, t.get? k = some v := by
  simp only [values, List.mem_map, Prod.exists,
    exists_eq_right, get?_eq_some_iff]

------------------------------------------------------------
-- Sizes
------------------------------------------------------------

/- A key that has a value takes one entry. -/
theorem size_erase_of_some
    {t : Table κ α}
    {k : κ}
    {v : α}
    (h : t.get? k = some v) :
    (t.erase k).size + 1 = t.size := by
  have hMem : k ∈ t.entries.map Prod.fst :=
    List.mem_map.mpr
      ⟨(k, v), (t.get?_eq_some_iff k v).mp h, rfl⟩
  have hOne : t.entries.countP (fun e => e.1 = k) = 1 := by
    have hCount : (t.entries.map Prod.fst).count k = 1 := by
      rw [t.distinct.count, if_pos hMem]
    rw [List.count_eq_countP, List.countP_map] at hCount
    exact hCount
  have hSplit :=
    List.length_eq_countP_add_countP
      (fun e : κ × α => e.1 = k) (l := t.entries)
  rw [hOne, Nat.add_comm] at hSplit
  rw [size, size, hSplit]
  simp [erase, retain, List.countP_eq_length_filter]

/- A key without a value takes no entry. -/
theorem erase_of_none
    {t : Table κ α}
    {k : κ}
    (h : t.get? k = none) :
    t.erase k = t := by
  have hAbsent : ∀ e ∈ t.entries, e.1 ≠ k := by
    rintro ⟨k', v⟩ hMem rfl
    rw [(t.get?_eq_some_iff k' v).mpr hMem] at h
    cases h
  obtain ⟨es, hd⟩ := t
  simp only [erase, retain, mk.injEq, List.filter_eq_self]
  intro e hMem
  exact decide_eq_true (hAbsent e hMem)

/- An inserted key takes one entry. -/
theorem size_insert
    (t : Table κ α)
    (k : κ)
    (v : α) :
    (t.insert k v).size = (t.erase k).size + 1 := rfl

end Table

end Gatehouse
