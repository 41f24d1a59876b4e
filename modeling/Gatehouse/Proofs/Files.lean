import Gatehouse.FileTree

/-
  What is put into a tree is read from it.

  A file that is put at a path is what is read there.  The
  path may begin at the root or at the working directory; it
  ends in a name, does not go up, and no file stands above
  the place that it names.

  Key definitions include:
    * `FileTree.IsOpen`
    * `FileTree.Fits`

  Main results include:
    * `FileTree.walk_of_directories`
    * `FileTree.read_put`
-/

namespace Gatehouse

namespace FileTree

variable {t : FileTree} {p : List String}

------------------------------------------------------------
-- Entries
------------------------------------------------------------

/- What is put stands at its place, and nothing else moves. -/
theorem found?_putAt
    (t : FileTree)
    (place p : List String)
    (e : Entry) :
    (t.putAt place e).found? p =
      if place = p ∧ p.isPrefixOf t.working = false then
        some e
      else
        t.found? p := by
  unfold found? putAt
  dsimp only
  rw [Table.get?_insert]
  by_cases hAbove : p.isPrefixOf t.working = true
  · simp [hAbove]
  · by_cases hSame : place = p <;> simp [hAbove, hSame]

/- A directory is made where nothing stands. -/
theorem found?_makeDirectory
    (t : FileTree)
    (place p : List String) :
    (t.makeDirectory place).found? p =
      if place = p then
        (t.found? p).or (some .directory)
      else
        t.found? p := by
  unfold makeDirectory
  cases hFound : t.places.get? place with
  | some e =>
      by_cases hSame : place = p
      · subst hSame
        unfold found?
        by_cases hAbove : place.isPrefixOf t.working <;>
          simp [hAbove, hFound]
      · simp [hSame]
  | none =>
      rw [if_neg (by simp), found?_putAt]
      by_cases hSame : place = p
      · subst hSame
        unfold found?
        by_cases hAbove : place.isPrefixOf t.working <;>
          simp [hAbove, hFound]
      · simp [hSame]

/- Is the place a directory, or free for one? -/
def IsOpen
    (t : FileTree)
    (p : List String) : Prop :=
  (t.found? p).or (some .directory) = some .directory

/- An open place stays open when a directory is made. -/
theorem IsOpen.makeDirectory
    (h : t.IsOpen p)
    (place : List String) :
    (t.makeDirectory place).IsOpen p := by
  unfold IsOpen at h ⊢
  rw [found?_makeDirectory]
  split
  · rw [h]
    rfl
  · exact h

/- Directories are made of all places that are open. -/
theorem found?_foldl_makeDirectory
    {places : List (List String)}
    (hOpen : t.IsOpen p)
    (hMem : t.found? p = some .directory ∨ p ∈ places) :
    (places.foldl FileTree.makeDirectory t).found? p =
      some .directory := by
  induction places generalizing t with
  | nil =>
      rcases hMem with hDirectory | hMem
      · exact hDirectory
      · cases hMem
  | cons place places ih =>
      apply ih (hOpen.makeDirectory place)
      rw [found?_makeDirectory]
      by_cases hSame : place = p
      · rw [if_pos hSame]
        exact Or.inl hOpen
      · rw [if_neg hSame]
        simpa [Ne.symm hSame] using hMem

/- The working directory is where it was. -/
theorem working_foldl_makeDirectory
    (places : List (List String)) :
    (places.foldl FileTree.makeDirectory t).working =
      t.working := by
  induction places generalizing t with
  | nil => rfl
  | cons place places ih =>
      rw [List.foldl_cons, ih]
      unfold makeDirectory putAt
      split <;> rfl

------------------------------------------------------------
-- Walks
------------------------------------------------------------

/- A name that does not go up leads below, or nowhere. -/
theorem prefix_onward
    {name : String}
    (h : name ≠ "..")
    (place : List String) :
    place <+: onward place name := by
  unfold onward
  rw [if_neg h]
  split
  · exact List.prefix_refl place
  · exact List.prefix_append place [name]

/- Names that do not go up lead below, or nowhere. -/
theorem prefix_foldl_onward
    {names : List String}
    (h : ∀ name ∈ names, name ≠ "..")
    (place : List String) :
    place <+: names.foldl onward place := by
  induction names generalizing place with
  | nil => exact List.prefix_refl place
  | cons name names ih =>
      rcases List.forall_mem_cons.mp h with ⟨hName, hNames⟩
      exact
        (prefix_onward hName place).trans (ih hNames _)

/-
  A walk arrives if there is something at its end and all
  places on the way are directories.
-/
theorem walk_of_directories
    {names : List String}
    {place : List String}
    (hWay :
      ∀ before name after,
        names = before ++ name :: after →
          t.found? (before.foldl onward place) =
            some .directory)
    (hShort :
      ∀ name ∈ names, name.utf8ByteSize ≤ greatestName)
    (hEnd : (t.found? (names.foldl onward place)).isSome) :
    t.walk place names =
      .ok (names.foldl onward place) := by
  induction names generalizing place with
  | nil =>
      rcases Option.isSome_iff_exists.mp hEnd with ⟨e, hEntry⟩
      rw [List.foldl_nil] at hEntry
      unfold walk
      rw [hEntry]
      rfl
  | cons name names ih =>
      have hHere : t.found? place = some .directory :=
        hWay [] name names rfl
      rcases List.forall_mem_cons.mp hShort with
        ⟨hName, hNames⟩
      unfold walk
      rw [hHere]
      dsimp only
      rw [if_neg (Nat.not_lt.mpr hName)]
      apply ih _ hNames hEnd
      intro before next after hSplit
      exact
        hWay (name :: before) next after
          (by rw [hSplit, List.cons_append])

------------------------------------------------------------
-- Files That Were Put
------------------------------------------------------------

/- Can a file be put at the path and be found there? -/
structure Fits
    (t : FileTree)
    (path : String) : Prop where
  withoutNul : path.toList.any (·.toNat = 0) = false
  short : path.utf8ByteSize ≤ greatestPath
  namesShort :
    ∀ name ∈ FilePath.components path,
      name.utf8ByteSize ≤ greatestName
  neverUp :
    ∀ name ∈ FilePath.components path, name ≠ ".."
  endsInName :
    ∃ before name,
      FilePath.components path = before ++ [name] ∧
        name ≠ "" ∧ name ≠ "."
  elsewhere : (t.placeOf path).isPrefixOf t.working = false
  isOpen : ∀ p ∈ above (t.placeOf path), t.IsOpen p

/- A place that is strictly below leads to those above. -/
theorem mem_above
    {place p : List String}
    (h : p <+: place)
    (hLength : p.length < place.length) :
    p ∈ above place := by
  rw [List.prefix_iff_eq_take.mp h]
  exact
    List.mem_map.mpr
      ⟨p.length, List.mem_range.mpr hLength, rfl⟩

/- The places on the way to a file are above it. -/
theorem Fits.mem_above
    {path : String}
    (h : t.Fits path)
    {before after : List String}
    {name : String}
    (hSplit :
      FilePath.components path = before ++ name :: after) :
    before.foldl onward (t.origin path) ∈
      above (t.placeOf path) := by
  rcases h.endsInName with ⟨front, last, hAll, hLast, hDot⟩
  -- All that stands before the last name is on the way.
  have hPlace :
      t.placeOf path =
        front.foldl onward (t.origin path) ++ [last] := by
    unfold placeOf
    rw [hAll, List.foldl_append, List.foldl_cons,
      List.foldl_nil]
    have hUp : last ≠ ".." :=
      h.neverUp last (by simp [hAll])
    simp [onward, hLast, hDot, hUp]
  have hFront : before <+: front := by
    have hWhole : before <+: front ++ [last] := by
      rw [← hAll, hSplit]
      exact List.prefix_append _ _
    rcases List.prefix_concat_iff.mp hWhole with hSame | hIn
    · rw [hAll, hSame] at hSplit
      simp at hSplit
    · exact hIn
  rcases hFront with ⟨rest, hRest⟩
  have hNames : ∀ n ∈ rest, n ≠ ".." := by
    intro n hMem
    exact h.neverUp n (by simp [hAll, ← hRest, hMem])
  have hBelow :
      before.foldl onward (t.origin path) <+:
        front.foldl onward (t.origin path) := by
    rw [← hRest, List.foldl_append]
    exact prefix_foldl_onward hNames _
  rw [hPlace]
  apply FileTree.mem_above
  · exact hBelow.trans (List.prefix_append _ _)
  · rw [List.length_append, List.length_singleton]
    exact Nat.lt_succ_of_le hBelow.length_le

/- A file that is put at a path is read there. -/
theorem read_put
    {path : String}
    (h : t.Fits path)
    (octets : List UInt8) :
    (t.put path (.file octets)).read path = .ok octets := by
  have hOrigin :
      (t.put path (.file octets)).origin path =
        t.origin path := by
    unfold origin put putAt
    rw [working_foldl_makeDirectory]
  have hFile :
      (t.put path (.file octets)).found? (t.placeOf path) =
        some (.file octets) := by
    unfold put
    rw [found?_putAt, working_foldl_makeDirectory,
      if_pos ⟨rfl, h.elsewhere⟩]
  have hAbove :
      ∀ p ∈ above (t.placeOf path),
        (t.put path (.file octets)).found? p =
          some .directory := by
    intro p hMem
    have hOther : t.placeOf path ≠ p := by
      rintro rfl
      rcases List.mem_map.mp hMem with ⟨n, hLess, hTake⟩
      have hLength := congrArg List.length hTake
      rw [List.length_take] at hLength
      have := List.mem_range.mp hLess
      omega
    unfold put
    rw [found?_putAt, if_neg (fun hBoth => hOther hBoth.1)]
    exact
      found?_foldl_makeDirectory (h.isOpen p hMem)
        (Or.inr hMem)
  have hWalk :
      (t.put path (.file octets)).walk (t.origin path)
          (FilePath.components path) =
        .ok (t.placeOf path) := by
    apply walk_of_directories _ h.namesShort
    · rw [← placeOf, hFile]
      rfl
    · intro before name after hSplit
      exact hAbove _ (h.mem_above hSplit)
  have hNotEmpty : path.isEmpty = false := by
    rcases h.endsInName with ⟨front, last, hAll, hLast, _⟩
    cases hEmpty : path.isEmpty with
    | false => rfl
    | true =>
        have hOne : FilePath.components "" = [""] := rfl
        rw [String.isEmpty_iff.mp hEmpty, hOne] at hAll
        have hEnds := congrArg List.getLast? hAll
        rw [List.getLast?_concat] at hEnds
        exact absurd (Option.some.inj hEnds).symm hLast
  unfold read
  rw [h.withoutNul, hNotEmpty, hOrigin, hWalk]
  simp [Nat.not_lt.mpr h.short, hFile]

end FileTree

end Gatehouse
