/-
What a compiler is asked for.

A package is chosen for each id and a file for each name, so the packages bring no name
twice.  The local assemblies are put to those files by their paths alone.  So a reference set
has one path for each name exactly if the local assemblies bring no second one: none has the
name of a package's assembly or of another local one, unless it is that very file.

Of paths alone there are no two, and no file is left out: neither an assembly nor a script of
the graph, which stand behind those of the packages.
-/
import Mathlib.Data.List.Pairwise
import ScriptDeps.Compilation
import ScriptDeps.Proofs.Manifest.Members
import ScriptDeps.Proofs.Resolved

namespace ScriptDeps

/-! ### Paths with one name -/

namespace Path

/-- The name of the assembly that a file is, in any case. -/
def lowerStem? (p : Path) : Option String :=
  p.fileStem?.map Text.lowercase

/-- The files are assemblies of one name. -/
def Rivals (p q : Path) : Prop :=
  ∃ name, p.lowerStem? = some name ∧ q.lowerStem? = some name

instance (p q : Path) : Decidable (p.Rivals q) :=
  decidable_of_iff (p.lowerStem? ≠ none ∧ p.lowerStem? = q.lowerStem?) <| by
    unfold Rivals
    cases p.lowerStem? with
    | none => simp
    | some name => simp [eq_comm]

theorem Rivals.symm {p q : Path} (h : p.Rivals q) : q.Rivals p := by
  obtain ⟨name, hp, hq⟩ := h
  exact ⟨name, hq, hp⟩

theorem fileStem?_of_same {p q : Path} (h : p.same q = true) : p.fileStem? = q.fileStem? := by
  unfold fileStem? fileName?
  rw [(compares_same p q).mp h]

/-- A path written in another way has the same rivals. -/
theorem Rivals.of_same {p q r : Path} (h : q.Rivals r) (hp : p.same q = true) : p.Rivals r := by
  have hstem : p.lowerStem? = q.lowerStem? := by rw [lowerStem?, lowerStem?, fileStem?_of_same hp]
  obtain ⟨name, hq, hr⟩ := h
  exact ⟨name, hstem.trans hq, hr⟩

/-- Paths that are the same are rivals, if they have a name at all. -/
theorem rivals_of_same {p q : Path} (h : p.same q = true) (hp : p.lowerStem? ≠ none) :
    p.Rivals q := by
  obtain ⟨name, hname⟩ := Option.ne_none_iff_exists'.mp hp
  refine ⟨name, hname, ?_⟩
  rw [lowerStem?, ← fileStem?_of_same h]
  exact hname

/-- No two of the paths are assemblies of one name. -/
def OnePerName (paths : List Path) : Prop :=
  paths.Pairwise fun p q => ¬ p.Rivals q

instance (paths : List Path) : Decidable (OnePerName paths) :=
  inferInstanceAs (Decidable (paths.Pairwise fun p q => ¬ p.Rivals q))

theorem OnePerName.eq {paths : List Path} (h : OnePerName paths) {p q : Path} (hp : p ∈ paths)
    (hq : q ∈ paths) (hrivals : p.Rivals q) : p = q := by
  have hsymm : Std.Symm fun p q : Path => ¬ p.Rivals q := ⟨fun _ _ hpq hqp => hpq hqp.symm⟩
  by_contra hne
  exact h.forall hp hq hne hrivals

/-- Paths stay one for each name exactly if what is added is no second path of a name. -/
theorem onePerName_insertAll_iff {paths : List Path} (h : OnePerName paths) (added : List Path) :
    OnePerName (insertAll same paths added) ↔
      (∀ p ∈ added, ∀ q ∈ paths, p.Rivals q → p.same q = true) ∧
      ∀ p ∈ added, ∀ q ∈ added, p.Rivals q → p.same q = true := by
  obtain ⟨new, heq, hnew, hnodup⟩ := exists_insertAll_eq_append compares_same paths added
  constructor
  · intro hone
    -- each path has one among the references that is the same
    have hkept : ∀ p, p ∈ paths ∨ p ∈ added →
        ∃ r ∈ insertAll same paths added, r.same p = true := by
      intro p hp
      have hkey := (mem_keys_insertAll compares_same).mpr
        (hp.imp (List.mem_map_of_mem (f := components)) (List.mem_map_of_mem (f := components)))
      obtain ⟨r, hr, hrp⟩ := List.mem_map.mp hkey
      exact ⟨r, hr, (compares_same r p).mpr hrp⟩
    have hsame : ∀ p ∈ added, ∀ q, q ∈ paths ∨ q ∈ added → p.Rivals q → p.same q = true := by
      intro p hp q hq hrivals
      obtain ⟨r, hr, hrp⟩ := hkept p (Or.inr hp)
      obtain ⟨t, ht, htq⟩ := hkept q hq
      have hrt : r = t := hone.eq hr ht ((hrivals.of_same hrp).symm.of_same htq).symm
      rw [compares_same] at hrp htq ⊢
      rw [← hrp, hrt, htq]
    exact ⟨fun p hp q hq => hsame p hp q (Or.inl hq), fun p hp q hq => hsame p hp q (Or.inr hq)⟩
  · rintro ⟨hpaths, hadded⟩
    rw [heq]
    refine List.pairwise_append.mpr ⟨h, ?_, ?_⟩
    · refine (List.pairwise_map.mp hnodup).imp_of_mem fun hp hq hne hrivals => hne ?_
      exact (compares_same _ _).mp (hadded _ (hnew _ hp).1 _ (hnew _ hq).1 hrivals)
    · intro q hq p hp hrivals
      have hsame := hpaths p (hnew p hp).1 q hq hrivals.symm
      exact (hnew p hp).2 ((compares_same p q).mp hsame ▸ List.mem_map_of_mem hq)

end Path

/-! ### The references of packages -/

namespace VersionLog

variable {look : Path → Option String}

/-- An assembly of a package has the name of its file, whatever is found in the file. -/
theorem fileStem?_of_mem_candidates {packageVersion : String} {files : List Path}
    {log : VersionLog} {a : Assembly} (h : a ∈ (candidates look packageVersion files log).1) :
    a.path.fileStem? = some a.name := by
  induction files generalizing log with
  | nil => exact absurd h List.not_mem_nil
  | cons p files ih =>
      rw [candidates] at h
      split at h
      · exact ih h
      · rename_i name hstem
        rcases List.mem_cons.mp h with rfl | h
        · exact hstem
        · exact ih h

theorem fileStem?_of_mem_allCandidates {filesOf : Dependency → List Path}
    {packages : List Dependency} {log : VersionLog} {a : Assembly}
    (h : a ∈ (allCandidates look filesOf packages log).1) : a.path.fileStem? = some a.name := by
  induction packages generalizing log with
  | nil => exact absurd h List.not_mem_nil
  | cons d packages ih =>
      rcases List.mem_append.mp h with h | h
      · exact fileStem?_of_mem_candidates h
      · exact ih h

theorem fileStem?_of_mem_choose {filesOf : Dependency → List Path} {packages : List Dependency}
    {log : VersionLog} {a : Assembly}
    (h : a ∈ Assembly.choose (allCandidates look filesOf packages log).1) :
    a.path.fileStem? = some a.name := by
  obtain ⟨name, -, hname⟩ := List.mem_filterMap.mp h
  have hmem := (mem_inGroup.mp (Version.firstHighest_of_highest hname).mem).1
  exact fileStem?_of_mem_allCandidates hmem

end VersionLog

namespace Resolved

variable {context : List Dependency} {look : Path → Option String}

theorem nodup_compile : (lowerNames Assembly.name (ofContext context look).compile).Nodup :=
  (chosen_highestOfEach _).names.nodup

theorem fileStem?_of_mem_compile {a : Assembly} (h : a ∈ (ofContext context look).compile) :
    a.path.fileStem? = some a.name :=
  VersionLog.fileStem?_of_mem_choose h

/-- The packages bring one path for each name. -/
theorem onePerName_compilePaths : Path.OnePerName (ofContext context look).compilePaths := by
  refine List.pairwise_map.mpr ((List.pairwise_map.mp nodup_compile).imp_of_mem ?_)
  intro a b ha hb hne hrivals
  obtain ⟨name, hna, hnb⟩ := hrivals
  rw [Path.lowerStem?, fileStem?_of_mem_compile ha, Option.map_some, Option.some.injEq] at hna
  rw [Path.lowerStem?, fileStem?_of_mem_compile hb, Option.map_some, Option.some.injEq] at hnb
  exact hne (hna.trans hnb.symm)

/-- No path is there twice, since no name is. -/
theorem distinct_compilePaths :
    (ofContext context look).compilePaths.Pairwise fun p q => p.same q = false := by
  refine onePerName_compilePaths.imp_of_mem fun {p q} hp _ hrivals => ?_
  obtain ⟨a, ha, rfl⟩ := List.mem_map.mp hp
  rw [Bool.eq_false_iff]
  refine fun hsame => hrivals (Path.rivals_of_same hsame ?_)
  simp [Path.lowerStem?, fileStem?_of_mem_compile ha]

end Resolved

/-! ### The references of a request -/

namespace CompilationRequest

/-- **The compiler gets one path for each assembly name exactly if no local assembly has the name
of another assembly.**  A local one may be there twice or be a package's own file. -/
theorem onePerName_references_iff (entry : Path) (graph : List Path) (context : List Dependency)
    (look : Path → Option String) (localAssemblies : List Path) (framework : String) :
    Path.OnePerName (of entry graph (Resolved.ofContext context look) localAssemblies
        framework).references ↔
      (∀ p ∈ localAssemblies, ∀ q ∈ (Resolved.ofContext context look).compilePaths,
        p.Rivals q → p.same q = true) ∧
      ∀ p ∈ localAssemblies, ∀ q ∈ localAssemblies, p.Rivals q → p.same q = true :=
  Path.onePerName_insertAll_iff Resolved.onePerName_compilePaths localAssemblies

/-- One package with one assembly. -/
def jsonContext : List Dependency :=
  [⟨"Json", "13.0.0", [⟨"/packages/json/13.0.0/lib/Json.dll"⟩], [], [], []⟩]

/-- A local copy of the package's assembly is a second path of its name. -/
theorem not_onePerName_localCopy :
    ¬ Path.OnePerName (of ⟨"/scripts/main.csx"⟩ [⟨"/scripts/main.csx"⟩]
      (Resolved.ofContext jsonContext fun _ => none) [⟨"/scripts/lib/json.dll"⟩]
      "net8.0").references := by
  decide +kernel

/-! ### All that a request holds -/

/-- What is compiled and what it refers to is complete, and nothing is there twice but what the
packages bring twice. -/
structure Complete (entry : Path) (graph : List Path) (resolved : Resolved)
    (localAssemblies : List Path) (request : CompilationRequest) : Prop where
  entry : request.entry = entry
  /-- The local assemblies that the packages do not bring stand behind theirs, each once. -/
  references : ∃ added, request.references = resolved.compilePaths ++ added ∧
    ListsFirst Path.same
      (localAssemblies.filter fun p => !resolved.compilePaths.any p.same) added
  distinct : request.references.Pairwise fun p q => p.same q = false
  /-- The graph without the entry stands behind the scripts of the packages. -/
  scripts : request.scripts = resolved.scripts ++ graph.tail
  /-- The entry and the scripts behind those of the packages have each file of the graph once. -/
  once : ∀ p ∈ graph,
    (request.entry :: request.scripts.drop resolved.scripts.length).countP p.same = 1

/-- Behind the entry all files of a graph are others. -/
theorem filter_graph {entry first : Path} {rest : List Path} (hfirst : first.same entry = true)
    (hgraph : (first :: rest).Pairwise fun p q => p.same q = false) :
    (first :: rest).filter (!·.same entry) = rest := by
  have hother : ∀ p ∈ rest, p.same entry = false := by
    intro p hp
    have hne := (List.pairwise_cons.mp hgraph).1 p hp
    rw [Bool.eq_false_iff, Ne, Path.compares_same] at hne ⊢
    rw [← (Path.compares_same first entry).mp hfirst]
    exact fun heq => hne heq.symm
  rw [List.filter_cons_of_neg (by simp [hfirst]), List.filter_eq_self]
  simpa using hother

/-- **A request leaves nothing out and repeats nothing.**  The graph is one of different files that
begins with the entry. -/
theorem of_complete (entry first : Path) (rest : List Path) (context : List Dependency)
    (look : Path → Option String) (localAssemblies : List Path) (framework : String)
    (hfirst : first.same entry = true)
    (hgraph : (first :: rest).Pairwise fun p q => p.same q = false) :
    Complete entry (first :: rest) (Resolved.ofContext context look) localAssemblies
      (of entry (first :: rest) (Resolved.ofContext context look) localAssemblies framework) := by
  have hscripts : (of entry (first :: rest) (Resolved.ofContext context look) localAssemblies
      framework).scripts = (Resolved.ofContext context look).scripts ++ rest :=
    congrArg (_ ++ ·) (filter_graph hfirst hgraph)
  have hreferences := (nodup_keys_iff Path.compares_same).mpr
    (Resolved.distinct_compilePaths : (Resolved.ofContext context look).compilePaths.Pairwise _)
  exact
    { entry := rfl
      references := ⟨_, insertAll_eq_append_insertAll Path.compares_same _ _,
        listsFirst_insertAll Path.compares_same _⟩
      distinct := (nodup_keys_iff Path.compares_same).mp
        (nodup_insertAll Path.compares_same hreferences localAssemblies)
      scripts := hscripts
      once := by
        intro p hp
        rw [hscripts, List.drop_left]
        -- the entry stands for the first file
        have hentry : (entry :: rest).map Path.components =
            (first :: rest).map Path.components := by
          rw [List.map_cons, List.map_cons, (Path.compares_same first entry).mp hfirst]
        have hgraphKeys := (nodup_keys_iff Path.compares_same).mpr hgraph
        refine countP_same_eq_one Path.compares_same (hentry ▸ hgraphKeys) ?_
        exact hentry ▸ List.mem_map_of_mem hp }

/-- A package with one assembly and one script. -/
def scriptContext : List Dependency :=
  [⟨"Helpers", "1.0.0", [⟨"/p/lib/Helpers.dll"⟩], [], [], [⟨"/p/main.csx"⟩]⟩]

/-- One local assembly is there twice, and one is the package's own file, each spelled anew. -/
theorem of_complete_spelled :
    let graph : List Path := [⟨"/s/./main.csx"⟩, ⟨"/s/b.csx"⟩, ⟨"/s/a.csx"⟩]
    let localAssemblies : List Path :=
      [⟨"/s/Local.dll"⟩, ⟨"/p/lib//Helpers.dll"⟩, ⟨"/s/./Local.dll"⟩]
    let resolved := Resolved.ofContext scriptContext fun _ => none
    let request := of ⟨"/s/main.csx"⟩ graph resolved localAssemblies "net8.0"
    Path.same ⟨"/s/./main.csx"⟩ ⟨"/s/main.csx"⟩ = true ∧
    (graph.Pairwise fun p q => p.same q = false) ∧
    Complete ⟨"/s/main.csx"⟩ graph resolved localAssemblies request ∧
    request = ⟨⟨"/s/main.csx"⟩, [⟨"/p/main.csx"⟩, ⟨"/s/b.csx"⟩, ⟨"/s/a.csx"⟩],
      [⟨"/p/lib/Helpers.dll"⟩, ⟨"/s/Local.dll"⟩], "net8.0"⟩ := by
  intro graph localAssemblies resolved request
  have hfirst : Path.same ⟨"/s/./main.csx"⟩ ⟨"/s/main.csx"⟩ = true := by decide +kernel
  have hgraph : graph.Pairwise fun p q => p.same q = false := by decide +kernel
  exact ⟨hfirst, hgraph, of_complete _ _ _ scriptContext (fun _ => none) localAssemblies "net8.0"
    hfirst hgraph, by decide +kernel⟩

end CompilationRequest

end ScriptDeps
