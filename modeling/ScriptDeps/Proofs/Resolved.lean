/-
Conflict resolution chooses rightly.

Of several items with one name, `highestOfEach` keeps the first whose version no other
exceeds, and it keeps the names in the order in which they were first seen.  `Chosen` says
so, and it leaves nothing open: there is one list only that it holds of.

Resolution chooses twice, first among the packages and then among the files of those that
were kept.  Between the two stands the log of versions, through which a file is read once
though many packages may bring it.  If equal paths hold the same file, the log may be
forgotten, and the second choice is one among `Assembly.ofFiles`.

The index is built from the outcome, whose names are all different, so that it leads from
each name to the one assembly of that name.
-/
import ScriptDeps.Proofs.Dictionary
import ScriptDeps.Proofs.Distinct
import ScriptDeps.Proofs.VersionOrder
import ScriptDeps.Resolved

namespace ScriptDeps

variable {α : Type} {nameOf versionOf : α → String}

/-! ### One item for each name -/

/-- The names of items, in any case. -/
def lowerNames (nameOf : α → String) (xs : List α) : List String :=
  xs.map fun x => Text.lowercase (nameOf x)

/-- One item of each name was chosen, the first of the highest version. -/
structure Chosen (nameOf versionOf : α → String) (xs chosen : List α) : Prop where
  /-- Every name is there once, where it was first seen. -/
  names : FirstSeen (lowerNames nameOf xs) (lowerNames nameOf chosen)
  /-- No item of its name exceeds it, and those before it are lower. -/
  highest : ∀ x ∈ chosen,
    Version.FirstHighest versionOf (inGroup nameOf xs (Text.lowercase (nameOf x))) x

/-- Two lists of items that were chosen so are the same list. -/
theorem Chosen.unique {xs chosen others : List α} (h : Chosen nameOf versionOf xs chosen)
    (ho : Chosen nameOf versionOf xs others) : chosen = others := by
  have hnames : lowerNames nameOf chosen = lowerNames nameOf others := h.names.unique ho.names
  refine List.ext_getElem? fun place => ?_
  have hname := congrArg (·[place]?) hnames
  simp only [lowerNames, List.getElem?_map] at hname
  cases hx : chosen[place]? with
  | none =>
      rw [hx, Option.map_none, eq_comm, Option.map_eq_none_iff] at hname
      exact hname.symm
  | some x =>
      rw [hx, Option.map_some, eq_comm, Option.map_eq_some_iff] at hname
      obtain ⟨y, hy, hxy⟩ := hname
      have hhighest := ho.highest y (List.mem_of_getElem? hy)
      rw [hxy] at hhighest
      rw [hy, (h.highest x (List.mem_of_getElem? hx)).unique hhighest]

theorem groupNames_firstSeen (xs : List α) :
    FirstSeen (lowerNames nameOf xs) (groupNames nameOf xs) :=
  firstSeen_insertAll _

theorem mem_inGroup {xs : List α} {name : String} {x : α} :
    x ∈ inGroup nameOf xs name ↔ x ∈ xs ∧ Text.lowercase (nameOf x) = name := by
  rw [inGroup, List.mem_filter, beq_iff_eq]

/-- The item chosen from a group has the name of the group. -/
theorem lowercase_of_highest {xs : List α} {name : String} {x : α}
    (h : Version.highest versionOf (inGroup nameOf xs name) = some x) :
    Text.lowercase (nameOf x) = name :=
  (mem_inGroup.mp (Version.firstHighest_of_highest h).mem).2

/-- A name that was seen has an item in its group. -/
theorem exists_highest (versionOf : α → String) {xs : List α} {name : String}
    (h : name ∈ groupNames nameOf xs) :
    ∃ x, Version.highest versionOf (inGroup nameOf xs name) = some x := by
  obtain ⟨y, hy, hname⟩ := List.mem_map.mp (((groupNames_firstSeen xs).mem name).mp h)
  have hne : inGroup nameOf xs name ≠ [] := List.ne_nil_of_mem (mem_inGroup.mpr ⟨hy, hname⟩)
  exact Version.exists_highest_of_ne_nil versionOf hne

/-- Each group keeps its name and its place. -/
theorem lowerNames_highestOfEach (xs : List α) :
    lowerNames nameOf (highestOfEach nameOf versionOf xs) = groupNames nameOf xs := by
  have hgroups : ∀ names : List String, (∀ name ∈ names, name ∈ groupNames nameOf xs) →
      lowerNames nameOf (names.filterMap fun name =>
        Version.highest versionOf (inGroup nameOf xs name)) = names := by
    intro names hnames
    induction names with
    | nil => rfl
    | cons name names ih =>
        obtain ⟨x, hx⟩ := exists_highest versionOf (hnames name List.mem_cons_self)
        rw [List.filterMap_cons, hx, lowerNames, List.map_cons, lowercase_of_highest hx]
        exact congrArg _ (ih fun n hn => hnames n (List.mem_cons_of_mem _ hn))
  exact hgroups _ fun _ h => h

theorem chosen_highestOfEach (xs : List α) :
    Chosen nameOf versionOf xs (highestOfEach nameOf versionOf xs) where
  names := by
    rw [lowerNames_highestOfEach]
    exact groupNames_firstSeen xs
  highest x hx := by
    obtain ⟨name, -, hname⟩ := List.mem_filterMap.mp hx
    rw [lowercase_of_highest hname]
    exact Version.firstHighest_of_highest hname

/-! ### The files of the packages -/

namespace Assembly

/-- The assembly that a file of a package is, if the file has a name. -/
def ofFile? (look : Path → Option String) (d : Dependency) (p : Path) : Option Assembly :=
  p.fileStem?.map fun name => ⟨name, (look p).getD d.version, p⟩

theorem ofFile?_of_unnamed {look : Path → Option String} {d : Dependency} {p : Path}
    (h : p.fileStem? = none) : ofFile? look d p = none := by
  rw [ofFile?, h]
  rfl

theorem ofFile?_of_named {look : Path → Option String} {d : Dependency} {p : Path} {name : String}
    (h : p.fileStem? = some name) :
    ofFile? look d p = some ⟨name, (look p).getD d.version, p⟩ := by
  rw [ofFile?, h]
  rfl

/-- The assemblies that the files of packages are, in the order of the packages and, for each
package, in that of its files. -/
def ofFiles (look : Path → Option String) (filesOf : Dependency → List Path)
    (packages : List Dependency) : List Assembly :=
  packages.flatMap fun d => (filesOf d).filterMap (ofFile? look d)

/-- An assembly has the name of its file. -/
theorem map_name_ofFiles (look : Path → Option String) (filesOf : Dependency → List Path)
    (packages : List Dependency) :
    (ofFiles look filesOf packages).map name =
      (packages.flatMap filesOf).filterMap Path.fileStem? := by
  have hfiles : ∀ d : Dependency, ((filesOf d).filterMap (ofFile? look d)).map name =
      (filesOf d).filterMap Path.fileStem? := by
    intro d
    rw [List.map_filterMap]
    congr 1
    funext p
    rw [ofFile?, Option.map_map]
    exact Option.map_id'
  rw [ofFiles, List.map_flatMap, List.filterMap_flatMap]
  simp only [hfiles]

end Assembly

namespace VersionLog

/-- What the log says is what a look into the file says. -/
def Tells (look : Path → Option String) (log : VersionLog) : Prop :=
  ∀ entry ∈ log, entry.2 = look entry.1

theorem tells_nil {look : Path → Option String} : Tells look [] :=
  fun _ h => absurd h List.not_mem_nil

section

variable {look : Path → Option String} (hlook : ∀ p q : Path, p.same q = true → look p = look q)
include hlook

theorem consult_spec {log : VersionLog} (hlog : Tells look log) (p : Path) :
    (log.consult look p).1 = look p ∧ Tells look (log.consult look p).2 := by
  unfold consult
  split
  · rename_i entry hentry
    refine ⟨?_, hlog⟩
    rw [hlog entry (List.mem_of_find?_eq_some hentry)]
    exact hlook _ _ (by simpa using List.find?_some hentry)
  · refine ⟨rfl, fun entry hentry => ?_⟩
    rcases List.mem_append.mp hentry with h | h
    · exact hlog entry h
    · rw [List.mem_singleton.mp h]

theorem candidates_spec (d : Dependency) (files : List Path) {log : VersionLog}
    (hlog : Tells look log) :
    (candidates look d.version files log).1 = files.filterMap (Assembly.ofFile? look d) ∧
      Tells look (candidates look d.version files log).2 := by
  induction files generalizing log with
  | nil => exact ⟨rfl, hlog⟩
  | cons p files ih =>
      rw [candidates]
      split
      · rename_i hstem
        rw [List.filterMap_cons_none (Assembly.ofFile?_of_unnamed hstem)]
        exact ih hlog
      · rename_i name hstem
        obtain ⟨hversion, hlog⟩ := consult_spec hlook hlog p
        obtain ⟨hmore, hlog⟩ := ih hlog
        refine ⟨?_, hlog⟩
        rw [List.filterMap_cons_some (Assembly.ofFile?_of_named hstem), ← hmore, ← hversion]

theorem allCandidates_spec (filesOf : Dependency → List Path) (packages : List Dependency)
    {log : VersionLog} (hlog : Tells look log) :
    (allCandidates look filesOf packages log).1 = Assembly.ofFiles look filesOf packages ∧
      Tells look (allCandidates look filesOf packages log).2 := by
  induction packages generalizing log with
  | nil => exact ⟨rfl, hlog⟩
  | cons d packages ih =>
      obtain ⟨hhere, hlog⟩ := candidates_spec hlook d (filesOf d) hlog
      obtain ⟨hmore, hlog⟩ := ih hlog
      refine ⟨?_, hlog⟩
      show (candidates look d.version (filesOf d) log).1 ++ _ = _
      rw [hhere]
      exact congrArg _ hmore

end

end VersionLog

/-! ### The index -/

namespace Assembly

theorem mem_placesOf {assemblies : List Assembly} {entry : String × Nat}
    (h : entry ∈ placesOf assemblies) :
    ∃ a, assemblies[entry.2]? = some a ∧ Text.lowercase a.name = entry.1 := by
  obtain ⟨⟨a, place⟩, ha, rfl⟩ := List.mem_map.mp (Dictionary.mem_of_mem_ofEntries h)
  exact ⟨a, List.mem_zipIdx_iff_getElem?.mp ha, rfl⟩

/-- The keys of the index are the names. -/
theorem keys_placesOf (assemblies : List Assembly) :
    (assemblies.zipIdx.map fun (a, place) => (Text.lowercase a.name, place)).map Prod.fst =
      lowerNames name assemblies := by
  rw [List.map_map, lowerNames]
  conv_rhs => rw [← List.zipIdx_map_fst 0 assemblies, List.map_map]
  rfl

theorem get?_placesOf {assemblies : List Assembly} {a : Assembly}
    (hnames : (lowerNames name assemblies).Nodup) (ha : a ∈ assemblies) :
    ∃ place, (placesOf assemblies).get? (Text.lowercase a.name) = some place ∧
      assemblies[place]? = some a := by
  obtain ⟨place, hplace⟩ := List.mem_iff_getElem?.mp ha
  have hentry : (Text.lowercase a.name, place) ∈
      assemblies.zipIdx.map fun (a, place) => (Text.lowercase a.name, place) :=
    List.mem_map.mpr ⟨(a, place), List.mem_zipIdx_iff_getElem?.mpr hplace, rfl⟩
  exact ⟨place, Dictionary.get?_ofEntries_of_mem (keys_placesOf assemblies ▸ hnames) hentry, hplace⟩

end Assembly

namespace Resolved

variable (context : List Dependency) (look : Path → Option String)

/-- The assemblies are those that the files of packages are, one for each name. -/
structure Settled (look : Path → Option String) (filesOf : Dependency → List Path)
    (packages : List Dependency) (assemblies : List Assembly) : Prop where
  /-- The names are the file stems, each once, where it was first seen. -/
  stems : FirstSeen (((packages.flatMap filesOf).filterMap Path.fileStem?).map Text.lowercase)
    (lowerNames Assembly.name assemblies)
  /-- Each is the first of the highest version among those of its name. -/
  chosen : Chosen Assembly.name Assembly.version
    (Assembly.ofFiles look filesOf packages) assemblies

theorem settled_choose (filesOf : Dependency → List Path) (packages : List Dependency) :
    Settled look filesOf packages (Assembly.choose (Assembly.ofFiles look filesOf packages)) := by
  have hchosen : Chosen Assembly.name Assembly.version _
      (Assembly.choose (Assembly.ofFiles look filesOf packages)) := chosen_highestOfEach _
  refine ⟨?_, hchosen⟩
  rw [← Assembly.map_name_ofFiles look, List.map_map]
  exact hchosen.names

theorem runtime_ofContext (hlook : ∀ p q : Path, p.same q = true → look p = look q) :
    (ofContext context look).runtime =
      Assembly.choose (Assembly.ofFiles look Dependency.runtime (choosePackages context)) := by
  obtain ⟨-, hlog⟩ := VersionLog.allCandidates_spec hlook Dependency.compile
    (choosePackages context) VersionLog.tells_nil
  obtain ⟨hruntime, -⟩ := VersionLog.allCandidates_spec hlook Dependency.runtime
    (choosePackages context) hlog
  exact congrArg Assembly.choose hruntime

theorem compile_ofContext (hlook : ∀ p q : Path, p.same q = true → look p = look q) :
    (ofContext context look).compile =
      Assembly.choose (Assembly.ofFiles look Dependency.compile (choosePackages context)) := by
  obtain ⟨hcompile, -⟩ := VersionLog.allCandidates_spec hlook Dependency.compile
    (choosePackages context) VersionLog.tells_nil
  exact congrArg Assembly.choose hcompile

theorem places_ofContext :
    (ofContext context look).places = Assembly.placesOf (ofContext context look).runtime := rfl

variable {context look}

/-- The assemblies have different names, whatever the files say of their versions. -/
theorem nodup_runtime : (lowerNames Assembly.name (ofContext context look).runtime).Nodup :=
  (chosen_highestOfEach _).names.nodup

/-- What is found by a name is the assembly of that name. -/
theorem find?_eq_some_iff {name : String} {a : Assembly} :
    (ofContext context look).find? name = some a ↔
      a ∈ (ofContext context look).runtime ∧ Text.lowercase a.name = Text.lowercase name := by
  rw [find?, places_ofContext]
  constructor
  · intro h
    obtain ⟨place, hplace, ha⟩ := Option.bind_eq_some_iff.mp h
    refine ⟨List.mem_of_getElem? ha, ?_⟩
    -- the index says a place only for the name that it holds there
    by_contra hne
    obtain ⟨b, hb, hname⟩ := Assembly.mem_placesOf (Dictionary.mem_of_get? hplace)
    rw [ha, Option.some.injEq] at hb
    exact hne (hb ▸ hname)
  · rintro ⟨ha, hname⟩
    obtain ⟨place, hplace, hget⟩ := Assembly.get?_placesOf nodup_runtime ha
    rw [← hname, hplace]
    exact hget

theorem find?_eq_none_iff {name : String} :
    (ofContext context look).find? name = none ↔
      ∀ a ∈ (ofContext context look).runtime, Text.lowercase a.name ≠ Text.lowercase name := by
  rw [Option.eq_none_iff_forall_ne_some]
  exact ⟨fun h a ha hname => h a (find?_eq_some_iff.mpr ⟨ha, hname⟩),
    fun h a ha => h a (find?_eq_some_iff.mp ha).1 (find?_eq_some_iff.mp ha).2⟩

/-- **Resolution leaves one package for each id and one file for each name, and finds it.** -/
theorem ofContext_resolves (context : List Dependency) (look : Path → Option String)
    (hlook : ∀ p q : Path, p.same q = true → look p = look q) :
    Chosen Dependency.name Dependency.version context (choosePackages context) ∧
    Settled look Dependency.runtime (choosePackages context) (ofContext context look).runtime ∧
    Settled look Dependency.compile (choosePackages context) (ofContext context look).compile ∧
    (∀ name a, (ofContext context look).find? name = some a ↔
      a ∈ (ofContext context look).runtime ∧ Text.lowercase a.name = Text.lowercase name) ∧
    (∀ name, (ofContext context look).find? name = none ↔
      ∀ a ∈ (ofContext context look).runtime, Text.lowercase a.name ≠ Text.lowercase name) ∧
    ∀ entry ∈ (ofContext context look).places, ∃ a,
      (ofContext context look).runtime[entry.2]? = some a ∧
        Text.lowercase a.name = entry.1 := by
  refine ⟨chosen_highestOfEach _, ?_, ?_, fun _ _ => find?_eq_some_iff,
    fun _ => find?_eq_none_iff, fun _ => Assembly.mem_placesOf⟩
  · rw [runtime_ofContext context look hlook]
    exact settled_choose look Dependency.runtime _
  · rw [compile_ofContext context look hlook]
    exact settled_choose look Dependency.compile _

/-- Two versions of one package and another package, both with a file of one name. -/
def sharedContext : List Dependency :=
  [⟨"Alpha", "1.0.0", [], [⟨"/alpha/1.0.0/Json.dll"⟩], [], []⟩,
   ⟨"Beta", "3.0.0", [], [⟨"/beta/3.0.0/JSON.dll"⟩, ⟨"/beta/3.0.0/Beta.dll"⟩], [], []⟩,
   ⟨"alpha", "1.2.0", [], [⟨"/alpha/1.2.0/Json.dll"⟩], [], []⟩]

/-- One file states its version. -/
def statedVersion (p : Path) : Option String :=
  if p.same ⟨"/alpha/1.2.0/Json.dll"⟩ then some "13.0.0.0" else none

/-- The version that a file states counts more than that of the package with another. -/
theorem find?_sharedContext :
    (∀ p q : Path, p.same q = true → statedVersion p = statedVersion q) ∧
    (ofContext sharedContext statedVersion).find? "JSON" =
      some ⟨"Json", "13.0.0.0", ⟨"/alpha/1.2.0/Json.dll"⟩⟩ := by
  have hlook : ∀ p q : Path, p.same q = true → statedVersion p = statedVersion q := by
    intro p q hpq
    simp only [statedVersion, Path.same, beq_iff_eq] at hpq ⊢
    rw [hpq]
  obtain ⟨-, -, -, hfind, -⟩ := ofContext_resolves sharedContext statedVersion hlook
  exact ⟨hlook, (hfind "JSON" _).mpr ⟨by decide +kernel, by decide +kernel⟩⟩

end Resolved

end ScriptDeps
