import Gatehouse.Proofs.Redirect.Local
import Gatehouse.Proofs.Settings.Acceptance

/-
  Lists of return addresses.

  The settings divide a list at its commas and keep what is
  left of the entries, and a policy keeps what is left of
  them again.  The second time changes nothing, so a list in
  a variable makes the policy that it makes by itself.

  Main results include:
    * `Redirect.mem_kept_iff`
    * `Redirect.kept_eq_self`
    * `Settings.Draft.entries_eq_kept`
    * `Redirect.Policy.admits_of_subset`
    * `Redirect.Policy.lists_agree`
-/

namespace Gatehouse

namespace Redirect

------------------------------------------------------------
-- Kept Entries
------------------------------------------------------------

variable {entries : List String}

/- What is kept is a trimmed entry, and not empty. -/
theorem mem_kept_iff
    (t : String) :
    t ∈ kept entries ↔
      t ≠ "" ∧ ∃ e ∈ entries, Text.trim e = t := by
  unfold kept
  rw [List.mem_filter, List.mem_map, and_comm]
  simp

/- Entries that are trimmed and not empty are kept as is. -/
theorem kept_eq_self
    (h :
      ∀ t ∈ entries,
        t ≠ "" ∧ Text.IsTrimmed t.toList) :
    kept entries = entries := by
  have hTrim : entries.map Text.trim = entries.map id := by
    apply List.map_congr_left
    intro t ht
    exact Text.trim_eq_self (h t ht).2
  unfold kept
  rw [hTrim, List.map_id, List.filter_eq_self]
  intro t ht
  simpa using (h t ht).1

/- What is kept is trimmed and not empty. -/
theorem isTrimmed_of_mem_kept
    {t : String}
    (h : t ∈ kept entries) :
    t ≠ "" ∧ Text.IsTrimmed t.toList := by
  rcases (mem_kept_iff t).mp h with ⟨hSome, e, _, rfl⟩
  exact ⟨hSome, Text.isTrimmed_trim e⟩

------------------------------------------------------------
-- Divided Lists
------------------------------------------------------------

variable {s : String}

/- What is kept of a divided list holds no comma. -/
theorem ne_comma_of_mem_kept
    {t : String}
    {c : Char}
    (h : t ∈ kept (splitCommas s))
    (hc : c ∈ t.toList) :
    c ≠ ',' := by
  rcases (mem_kept_iff t).mp h with ⟨_, e, he, rfl⟩
  rcases List.mem_map.mp he with ⟨f, hField, rfl⟩
  apply Text.ne_of_mem_fields hField
  simpa using Text.mem_of_mem_trim hc

/- Nothing is kept of commas and blanks, and only of them. -/
theorem kept_splitCommas_eq_nil_iff :
    kept (splitCommas s) = [] ↔
      ∀ c ∈ s.toList, c = ',' ∨ Text.isBlank c = true := by
  rw [kept_eq_nil_iff, ← Text.forall_mem_fields_iff]
  unfold splitCommas
  simp [Text.isBlankText]

/- The settings keep of a list what a policy keeps of it. -/
theorem entries_eq_kept
    (s : String) :
    Settings.Draft.entries s = kept (splitCommas s) := by
  have hTrim :
      Text.trim ∘ String.ofList =
        String.ofList ∘ Text.trimChars := by
    funext cs
    simp [Text.trim]
  have hEmpty :
      (fun t : String => !t.isEmpty) ∘ String.ofList =
        (!·.isEmpty) := by
    funext cs
    cases cs <;> simp
  unfold kept splitCommas Settings.Draft.entries
  rw [List.map_map, hTrim, ← List.map_map, List.filter_map,
    hEmpty]

namespace Policy

/- A policy from a list keeps what is left of its entries. -/
theorem ofEntries_entries
    (s : String) :
    ofEntries (Settings.Draft.entries s) = ofText s := by
  unfold ofText ofEntries
  rw [entries_eq_kept,
    kept_eq_self (fun _ => isTrimmed_of_mem_kept)]

/- Settings with a list in the variable have its policy. -/
theorem redirects_of_list
    {e : Environment}
    {read : FileTree.TextReader}
    {path : String}
    {settings : Settings}
    (hSet : e.text? Settings.redirectsVariable = some s)
    (hLoaded : Settings.load e read path = .ok settings) :
    settings.terms.redirects = ofText s := by
  rcases Settings.exists_draft_of_load hLoaded with
    ⟨d, hComplete⟩
  rcases (Settings.Draft.complete_eq_ok_iff _).mp
      hComplete with
    ⟨_, _, _, _, rfl⟩
  have hRedirects :
      d.redirects e = Settings.Draft.entries s := by
    simp [Settings.Draft.redirects, hSet]
  rw [← ofEntries_entries, ← hRedirects]
  rfl

------------------------------------------------------------
-- Larger Policies
------------------------------------------------------------

variable {p q : Policy}

/- A policy with entries accepts their beginnings only. -/
theorem beginnings_of_ne_nil
    (h : p.allowed ≠ []) :
    p.beginnings = p.allowed := by
  simp [beginnings, h]

/- A policy with more entries has more beginnings. -/
theorem beginnings_subset
    (hSome : p.allowed ≠ [])
    (hSubset : p.allowed ⊆ q.allowed) :
    p.beginnings ⊆ q.beginnings := by
  have hMore : q.allowed ≠ [] := by
    intro hNone
    rw [hNone] at hSubset
    exact hSome (List.subset_nil.mp hSubset)
  rw [beginnings_of_ne_nil hSome, beginnings_of_ne_nil hMore]
  exact hSubset

/- A policy with more entries admits more addresses. -/
theorem admits_of_subset
    (hSome : p.allowed ≠ [])
    (hSubset : p.allowed ⊆ q.allowed)
    {address : String}
    (h : p.admits address = true) :
    q.admits address = true := by
  rw [admits_iff] at h ⊢
  rcases h with ⟨b, hBeginning, hBegins⟩
  exact
    ⟨b, beginnings_subset hSome hSubset hBeginning,
      hBegins⟩

/- A policy with more entries accepts more addresses. -/
theorem check_of_subset
    (hSome : p.allowed ≠ [])
    (hSubset : p.allowed ⊆ q.allowed)
    {address : String}
    (h : p.check address = .ok ()) :
    q.check address = .ok () := by
  rw [check_eq_ok_iff] at h ⊢
  rcases h with ⟨hHost, b, hBeginning, hBegins⟩
  exact
    ⟨hHost, b, beginnings_subset hSome hSubset hBeginning,
      hBegins⟩

------------------------------------------------------------
-- Agreement
------------------------------------------------------------

/-
  A list in the variable makes the policy that it makes by
  itself.  It keeps what is left of the texts between the
  commas without their blanks, so that the entries are not
  empty, trimmed and free of commas, and a policy of its own
  entries is the same policy.  More entries accept more.  A
  list falls back to the local machine exactly if nothing
  but commas and blanks stands in it.
-/
theorem lists_agree
    (s : String) :
    (∀ e read path settings,
      e.text? Settings.redirectsVariable = some s →
        Settings.load e read path = .ok settings →
          settings.terms.redirects = ofText s) ∧
      (∀ t,
        t ∈ (ofText s).allowed ↔
          t ≠ "" ∧ ∃ e ∈ splitCommas s, Text.Trims e t) ∧
        (∀ t ∈ (ofText s).allowed,
          t ≠ "" ∧ Text.IsTrimmed t.toList ∧
            ∀ c ∈ t.toList, c ≠ ',') ∧
          (∀ entries,
            ofEntries (ofEntries entries).allowed =
              ofEntries entries) ∧
            (∀ p q : Policy,
              p.allowed ≠ [] → p.allowed ⊆ q.allowed →
                ∀ address,
                  (p.admits address = true →
                      q.admits address = true) ∧
                    (p.check address = .ok () →
                      q.check address = .ok ())) ∧
              ((ofText s).allowed = [] ↔
                  ∀ c ∈ s.toList,
                    c = ',' ∨ Text.isBlank c = true) ∧
                ((ofText s).allowed = [] →
                  (ofText s).beginnings =
                    localBeginnings) := by
  refine ⟨?_, ?_, ?_, ?_, ?_, ?_, ?_⟩
  · intro e read path settings hSet hLoaded
    exact redirects_of_list hSet hLoaded
  · intro t
    simp only [← Text.trim_eq_iff]
    exact mem_kept_iff t
  · intro t ht
    rcases isTrimmed_of_mem_kept ht with ⟨hSome, hTrimmed⟩
    exact
      ⟨hSome, hTrimmed, fun _ => ne_comma_of_mem_kept ht⟩
  · intro entries
    unfold ofEntries
    rw [kept_eq_self (fun _ => isTrimmed_of_mem_kept)]
  · intro p q hSome hSubset address
    exact
      ⟨admits_of_subset hSome hSubset,
        check_of_subset hSome hSubset⟩
  · exact kept_splitCommas_eq_nil_iff
  · intro hNone
    simp [beginnings, hNone]

/- An environment with a secret and a list. -/
def listed : Environment :=
  Settings.keyed.set Settings.redirectsVariable
    (Utf8.encode " http://a ,, https://b/")

/- The entries of the list are kept without their blanks. -/
theorem redirects_listed :
    ∃ settings,
      Settings.load listed Settings.findsDocument "a" =
          .ok settings ∧
        settings.terms.redirects =
          ⟨["http://a", "https://b/"]⟩ := by
  have hSecret :
      listed.text? Settings.secretVariable =
        some " key " := by
    decide +kernel
  have hSet :
      listed.text? Settings.redirectsVariable =
        some " http://a ,, https://b/" := by
    decide +kernel
  have hSecretIs :
      Settings.drafted.SecretIs listed
        Settings.findsDocument " key " :=
    .ofVariable hSecret
  have hComplete :=
    (Settings.Draft.complete_eq_ok_iff _).mpr
      ⟨" key ", Settings.valid_drafted, hSecretIs,
        by decide, rfl⟩
  have hRead :
      Settings.findsDocument "a" = .ok Settings.document :=
    rfl
  have hLoaded :=
    Settings.load_of_draft (e := listed) hRead
      Settings.ofText?_document
  rw [hComplete] at hLoaded
  refine ⟨_, hLoaded, ?_⟩
  rw [(lists_agree _).1 _ _ _ _ hSet hLoaded]
  decide +kernel

end Policy

end Redirect

end Gatehouse
