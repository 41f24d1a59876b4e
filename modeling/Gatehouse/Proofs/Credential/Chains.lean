import Gatehouse.Credential.Source
import Mathlib.Data.List.Basic
import Mathlib.Logic.Relation

/-
  Chains of sources.

  What a source says is what the first decisive source says
  among those that are left when all chains in it are
  opened.  So chains may be opened, formed and left out
  anywhere, and what comes after a decisive source does not
  matter, such as variables after a damaged file.

  Key definitions include:
    * `Credentials.otherwise`
    * `Credentials.FileSource.Damaged`
    * `Credentials.Source.Opens`
    * `Credentials.Source.Regrouped`

  Main results include:
    * `Credentials.Source.load_eq_firstDecisive_flatten`
    * `Credentials.Source.Regrouped.flatten_eq`
    * `Credentials.Source.load_of_damaged`
    * `Credentials.Source.load_first_decisive`
-/

namespace Gatehouse

namespace Credentials

------------------------------------------------------------
-- Findings
------------------------------------------------------------

/- A finding, or the next one if it is empty-handed. -/
def otherwise
    (found next : Finding) : Finding :=
  match found with
  | .ok none => next
  | found => found

/- After an empty-handed finding comes the next. -/
@[simp]
theorem otherwise_empty
    (next : Finding) :
    otherwise (.ok none) next = next := rfl

/- After a decisive finding nothing comes. -/
theorem otherwise_of_ne
    {found : Finding}
    (h : found ≠ .ok none)
    (next : Finding) :
    otherwise found next = found := by
  unfold otherwise
  split
  · exact absurd rfl h
  · rfl

/- An empty-handed finding at the end adds nothing. -/
@[simp]
theorem otherwise_empty_right
    (found : Finding) :
    otherwise found (.ok none) = found := by
  unfold otherwise
  split <;> rfl

/- It does not matter which findings are taken together. -/
theorem otherwise_assoc
    (a b c : Finding) :
    otherwise (otherwise a b) c =
      otherwise a (otherwise b c) := by
  by_cases h : a = .ok none
  · rw [h, otherwise_empty, otherwise_empty]
  · rw [otherwise_of_ne h, otherwise_of_ne h,
      otherwise_of_ne h]

/- The first finding counts before those after it. -/
theorem firstDecisive_cons
    (found : Finding)
    (rest : List Finding) :
    firstDecisive (found :: rest) =
      otherwise found (firstDecisive rest) := by
  by_cases h : found = .ok none
  · rw [h]
    rfl
  · rw [otherwise_of_ne h]
    unfold firstDecisive
    split
    next hNone => cases hNone
    next hEmpty => exact absurd (List.cons.inj hEmpty).1 h
    next hSame => exact (List.cons.inj hSame).1.symm

/- A finding decides for itself. -/
theorem firstDecisive_singleton
    (found : Finding) :
    firstDecisive [found] = found := by
  rw [firstDecisive_cons]
  exact otherwise_empty_right found

/- The first findings count before the later ones. -/
theorem firstDecisive_append
    (first second : List Finding) :
    firstDecisive (first ++ second) =
      otherwise (firstDecisive first)
        (firstDecisive second) := by
  induction first with
  | nil => rfl
  | cons found first ih =>
      rw [List.cons_append, firstDecisive_cons,
        firstDecisive_cons, ih, otherwise_assoc]

/- Findings that are all empty-handed decide nothing. -/
theorem firstDecisive_of_forall_empty
    {found : List Finding}
    (h : ∀ f ∈ found, f = .ok none) :
    firstDecisive found = .ok none := by
  induction found with
  | nil => rfl
  | cons f found ih =>
      rcases List.forall_mem_cons.mp h with ⟨hFirst, hRest⟩
      rw [firstDecisive_cons, hFirst, ih hRest]
      rfl

/- After empty-handed findings, a decisive one decides. -/
theorem firstDecisive_of_decisive
    {before : List Finding}
    {found : Finding}
    (hBefore : ∀ f ∈ before, f = .ok none)
    (hFound : found ≠ .ok none)
    (after : List Finding) :
    firstDecisive (before ++ found :: after) = found := by
  rw [firstDecisive_append,
    firstDecisive_of_forall_empty hBefore, otherwise_empty,
    firstDecisive_cons, otherwise_of_ne hFound]

------------------------------------------------------------
-- Damaged Files
------------------------------------------------------------

/- The same files, with other variables. -/
def Surroundings.withEnvironment
    (s : Surroundings)
    (env : Environment) : Surroundings :=
  { s with environment := env }

/-
  The fault of a file for a user that is there and cannot be
  read, or is no document of credentials.
-/
inductive FileSource.Damaged
    (f : FileSource)
    (s : Surroundings)
    (user : String) :
    Fault → Prop where
  | unreadable (path : String) (e : FileTree.ReadFault)
      (hPath : f.path s.ownerHome user = .ok path)
      (hRead : s.files.readText path = .error e)
      (hThere : e ≠ .missing) :
      Damaged f s user
        (.io ("reading credentials file " ++ path ++ ": " ++
          e.message))
  | malformed (path text : String)
      (hPath : f.path s.ownerHome user = .ok path)
      (hRead : s.files.readText path = .ok text)
      (hText : ofDocument text = none) :
      Damaged f s user
        (.parse ("parsing credentials file " ++ path))

/- A damaged file gives its fault. -/
theorem FileSource.load_of_damaged
    {f : FileSource}
    {s : Surroundings}
    {user : String}
    {fault : Fault}
    (h : f.Damaged s user fault) :
    f.load s user = .error fault := by
  cases h with
  | unreadable path e hPath hRead hThere =>
      simp only [load, hPath, hRead]
  | malformed path text hPath hRead hText =>
      simp only [load, hPath, hRead, hText]

namespace Source

------------------------------------------------------------
-- Opened Chains
------------------------------------------------------------

section Loading

variable (s : Surroundings)
variable (user : String)

/- A source in a chain is asked before those after it. -/
theorem loadFirst_cons
    (source : Source)
    (sources : List Source) :
    loadFirst s user (source :: sources) =
      otherwise (load s user source)
        (loadFirst s user sources) := by
  rw [loadFirst]
  unfold otherwise
  split <;> simp_all

/- A chain says what its first decisive source says. -/
theorem load_chain
    (sources : List Source) :
    load s user (.chain sources) =
      firstDecisive (sources.map (load s user)) := by
  rw [load]
  induction sources with
  | nil => rfl
  | cons source sources ih =>
      rw [loadFirst_cons, ih, List.map_cons,
        firstDecisive_cons]

mutual

/-
  A source says what the first decisive source says among
  those that are left when all its chains are opened.
-/
theorem load_eq_firstDecisive_flatten
    (source : Source) :
    load s user source =
      firstDecisive (source.flatten.map (load s user)) := by
  cases source with
  | chain sources =>
      rw [load, flatten]
      exact loadFirst_eq_firstDecisive_flattenAll sources
  | files f => exact (firstDecisive_singleton _).symm
  | environment v => exact (firstDecisive_singleton _).symm
  | settled n answer => exact (firstDecisive_singleton _).symm

/- So it is with the sources of a chain, one by one. -/
theorem loadFirst_eq_firstDecisive_flattenAll
    (sources : List Source) :
    loadFirst s user sources =
      firstDecisive
        ((flattenAll sources).map (load s user)) := by
  cases sources with
  | nil => rfl
  | cons source sources =>
      rw [loadFirst_cons, flattenAll, List.map_append,
        firstDecisive_append,
        load_eq_firstDecisive_flatten source,
        loadFirst_eq_firstDecisive_flattenAll sources]

end

/- What is left of a source decides what it says. -/
theorem load_congr
    {a b : Source}
    (h : a.flatten = b.flatten) :
    load s user a = load s user b := by
  rw [load_eq_firstDecisive_flatten,
    load_eq_firstDecisive_flatten, h]

end Loading

/- What is left of two lists is left of one after the other. -/
theorem flattenAll_append
    (first second : List Source) :
    flattenAll (first ++ second) =
      flattenAll first ++ flattenAll second := by
  induction first with
  | nil => rfl
  | cons source first ih =>
      rw [List.cons_append, flattenAll, flattenAll, ih,
        List.append_assoc]

mutual

/- No chain is left when all chains are opened. -/
theorem not_chain_of_mem_flatten
    (source : Source) :
    ∀ x ∈ source.flatten, ∀ sources, x ≠ .chain sources := by
  cases source with
  | chain sources =>
      rw [flatten]
      exact not_chain_of_mem_flattenAll sources
  | files f => simp [flatten]
  | environment v => simp [flatten]
  | settled n answer => simp [flatten]

/- So it is with all sources of a list. -/
theorem not_chain_of_mem_flattenAll
    (all : List Source) :
    ∀ x ∈ flattenAll all, ∀ sources, x ≠ .chain sources := by
  cases all with
  | nil => simp [flattenAll]
  | cons source rest =>
      intro x hx
      rw [flattenAll] at hx
      rcases List.mem_append.mp hx with hFirst | hRest
      · exact not_chain_of_mem_flatten source x hFirst
      · exact not_chain_of_mem_flattenAll rest x hRest

end

------------------------------------------------------------
-- Regrouped Sources
------------------------------------------------------------

/-
  A chain within a chain is opened in its place, here or
  deeper inside.  Nothing is left of an empty one.
-/
inductive Opens :
    Source → Source → Prop where
  | here (before inner after : List Source) :
      Opens (.chain (before ++ .chain inner :: after))
        (.chain (before ++ inner ++ after))
  | within {a b : Source}
      (before after : List Source)
      (hOpens : Opens a b) :
      Opens (.chain (before ++ a :: after))
        (.chain (before ++ b :: after))

/- Chains are opened and formed, any number of times. -/
def Regrouped :
    Source → Source → Prop :=
  Relation.EqvGen Opens

/- Opening a chain changes nothing about what is left. -/
theorem Opens.flatten_eq
    {a b : Source}
    (h : Opens a b) :
    a.flatten = b.flatten := by
  induction h with
  | here before inner after =>
      simp only [flatten, flattenAll_append, flattenAll,
        List.append_assoc]
  | within before after _ ih =>
      simp only [flatten, flattenAll_append, flattenAll, ih]

/- Regrouping changes nothing about what is left. -/
theorem Regrouped.flatten_eq
    {a b : Source}
    (h : Regrouped a b) :
    a.flatten = b.flatten := by
  induction h with
  | rel a b hOpens => exact hOpens.flatten_eq
  | refl a => rfl
  | symm a b _ ih => exact ih.symm
  | trans a b c _ _ ih₁ ih₂ => exact ih₁.trans ih₂

/- An empty chain may be left out, or put in. -/
theorem regrouped_of_empty
    (before after : List Source) :
    Regrouped (.chain (before ++ .chain [] :: after))
      (.chain (before ++ after)) := by
  have hOpens := Opens.here before [] after
  rw [List.append_nil] at hOpens
  exact Relation.EqvGen.rel _ _ hOpens

------------------------------------------------------------
-- What Decides
------------------------------------------------------------

/-
  Only variables depend on the variables, once all chains
  are opened.
-/
theorem load_of_no_variables
    {x : Source}
    (hNoChain : ∀ sources, x ≠ .chain sources)
    (hNoVariables : ∀ v, x ≠ .environment v)
    (s : Surroundings)
    (user : String)
    (env : Environment) :
    load (s.withEnvironment env) user x =
      load s user x := by
  cases x with
  | files f => rfl
  | environment v => exact absurd rfl (hNoVariables v)
  | settled n answer => rfl
  | chain sources => exact absurd rfl (hNoChain sources)

/-
  A damaged file before all variables, after nothing but
  empty-handed sources, gives its fault whatever is set.
-/
theorem load_of_damaged
    {source : Source}
    {before after : List Source}
    {f : FileSource}
    {s : Surroundings}
    {user : String}
    {fault : Fault}
    (hOpened :
      source.flatten = before ++ .files f :: after)
    (hBefore :
      ∀ x ∈ before,
        (∀ v, x ≠ .environment v) ∧
          load s user x = .ok none)
    (hDamaged : f.Damaged s user fault)
    (env : Environment) :
    load (s.withEnvironment env) user source =
      .error fault := by
  have hFile :
      load (s.withEnvironment env) user
          (.files f) = .error fault := by
    rw [load_of_no_variables (by simp) (by simp)]
    exact FileSource.load_of_damaged hDamaged
  have hEmpty :
      ∀ found ∈
        before.map
          (load (s.withEnvironment env) user),
        found = .ok none := by
    intro found hFound
    rcases List.mem_map.mp hFound with ⟨x, hx, rfl⟩
    rcases hBefore x hx with ⟨hNoVariables, hNothing⟩
    have hNoChain :=
      not_chain_of_mem_flatten source x
        (by rw [hOpened]; exact List.mem_append_left _ hx)
    rw [load_of_no_variables hNoChain hNoVariables,
      hNothing]
  rw [load_eq_firstDecisive_flatten, hOpened,
    List.map_append, List.map_cons,
    firstDecisive_of_decisive hEmpty (by rw [hFile]; simp),
    hFile]

/-
  A chain says what the first source says that is not
  empty-handed, unchanged and whatever comes after it, and
  nothing if there is none.  Sources that are regrouped, and
  those whose chains are all opened, say the same.  A
  damaged file before the variables always gives its fault.
-/
theorem load_first_decisive
    (s : Surroundings)
    (user : String) :
    (∀ sources,
      (∀ x ∈ sources, load s user x = .ok none) →
        load s user (.chain sources) = .ok none) ∧
      (∀ before source after,
        (∀ x ∈ before, load s user x = .ok none) →
          load s user source ≠ .ok none →
            load s user
                (.chain (before ++ source :: after)) =
              load s user source) ∧
        (∀ a b,
          Regrouped a b → load s user a = load s user b) ∧
          (∀ before after,
            load s user
                (.chain (before ++ .chain [] :: after)) =
              load s user (.chain (before ++ after))) ∧
            (∀ source : Source,
              load s user (.chain source.flatten) =
                load s user source) ∧
              ∀ source before f after fault env,
                source.flatten =
                    before ++ .files f :: after →
                  (∀ x ∈ before,
                    (∀ v, x ≠ .environment v) ∧
                      load s user x = .ok none) →
                    f.Damaged s user fault →
                      load
                          (s.withEnvironment env)
                          user source =
                        .error fault := by
  refine ⟨?_, ?_, ?_, ?_, ?_, ?_⟩
  · intro sources hEmpty
    rw [load_chain]
    exact
      firstDecisive_of_forall_empty
        (List.forall_mem_map.mpr hEmpty)
  · intro before source after hBefore hDecisive
    rw [load_chain, List.map_append, List.map_cons]
    exact
      firstDecisive_of_decisive
        (List.forall_mem_map.mpr hBefore) hDecisive _
  · intro a b hRegrouped
    exact load_congr s user hRegrouped.flatten_eq
  · intro before after
    exact
      load_congr s user
        (regrouped_of_empty before after).flatten_eq
  · intro source
    rw [load_chain]
    exact (load_eq_firstDecisive_flatten s user source).symm
  · intro source before f after fault env hOpened hBefore
      hDamaged
    exact
      load_of_damaged hOpened hBefore hDamaged env

/-
  Homes of which one holds a document that breaks off, and
  another one a file that may not be read.
-/
def broken : Surroundings :=
  ⟨(FileTree.empty.put
      "/srv/homes/ann/.claude/.credentials.json"
        (.file (Utf8.encode "["))).put
      "/srv/homes/cy/.claude/.credentials.json" .locked,
    Environment.empty, none⟩

/- The files in these homes, deep inside, then variables. -/
def nested : Source :=
  .chain
    [.chain [],
     .chain
       [.settled "none" (.ok none),
        .chain [.files ⟨"/srv/homes", none⟩]],
     .environment VariableSource.usual]

/-
  The document that breaks off is told of, though a variable
  after it holds a token, and without the chains as well.  So
  is the file that may not be read.
-/
theorem load_nested_broken :
    load
        (broken.withEnvironment
          (Environment.empty.set "CLAUDE_ACCESS_TOKEN"
            (Utf8.encode "t")))
        "ann" nested =
      .error
        (.parse
          ("parsing credentials file " ++
            "/srv/homes/ann/.claude/.credentials.json")) ∧
      load broken "ann" (.chain nested.flatten) =
        .error
          (.parse
            ("parsing credentials file " ++
              "/srv/homes/ann/.claude/.credentials.json")) ∧
        load
            (broken.withEnvironment
              (Environment.empty.set "CLAUDE_ACCESS_TOKEN"
                (Utf8.encode "t")))
            "cy" nested =
          .error
            (.io
              ("reading credentials file " ++
                "/srv/homes/cy/.claude/.credentials.json" ++
                ": " ++ FileTree.ReadFault.denied.message)) ∧
          load broken "bob" nested = .ok none := by
  have hParse :
      FileSource.Damaged ⟨"/srv/homes", none⟩ broken "ann"
        (.parse
          ("parsing credentials file " ++
            "/srv/homes/ann/.claude/.credentials.json")) := by
    apply
      FileSource.Damaged.malformed
        "/srv/homes/ann/.claude/.credentials.json" "["
    · decide +kernel
    · decide +kernel
    · decide +kernel
  have hLocked :
      FileSource.Damaged ⟨"/srv/homes", none⟩ broken "cy"
        (.io
          ("reading credentials file " ++
            "/srv/homes/cy/.claude/.credentials.json" ++
            ": " ++ FileTree.ReadFault.denied.message)) := by
    apply FileSource.Damaged.unreadable _ .denied
    · decide +kernel
    · decide +kernel
    · decide
  have hOpened :
      nested.flatten =
        [.settled "none" (.ok none)] ++
          .files ⟨"/srv/homes", none⟩ ::
            [.environment VariableSource.usual] := rfl
  have hBefore :
      ∀ user,
        ∀ x ∈ [settled "none" (.ok none)],
          (∀ v, x ≠ .environment v) ∧
            load broken user x = .ok none := by
    intro user x hx
    rw [List.mem_singleton.mp hx]
    exact ⟨by simp, rfl⟩
  have hAnn := load_first_decisive broken "ann"
  have hCy := load_first_decisive broken "cy"
  have hBob := load_first_decisive broken "bob"
  refine ⟨?_, ?_, ?_, ?_⟩
  · exact
      hAnn.2.2.2.2.2 nested _ _ _ _ _ hOpened
        (hBefore "ann") hParse
  · rw [hAnn.2.2.2.2.1 nested]
    exact
      hAnn.2.2.2.2.2 nested _ _ _ _ Environment.empty
        hOpened (hBefore "ann") hParse
  · exact
      hCy.2.2.2.2.2 nested _ _ _ _ _ hOpened
        (hBefore "cy") hLocked
  · rw [← hBob.2.2.2.2.1 nested, hOpened]
    apply hBob.1
    intro x hx
    simp only [List.cons_append, List.nil_append,
      List.mem_cons, List.not_mem_nil, or_false] at hx
    rcases hx with rfl | rfl | rfl <;> decide +kernel

end Source

end Credentials

end Gatehouse
