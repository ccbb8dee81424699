/-
Reading the dependencies is all or nothing.

Reading goes through the packages of a target that have assets, in the order of their keys.
If all are in place it gives what they provide, and otherwise it fails at the first that
lacks something.  A target is always found but if no key has a slash.
-/
import ScriptDeps.Proofs.Context.Package
import ScriptDeps.Proofs.LockArtifact
import ScriptDeps.Proofs.Store.Tree

namespace ScriptDeps.Context

open Traversal (bind_eq_ok_iff)

variable {s : Store} {lock : LockArtifact} {framework runtime : String} {chain : List String}
  {e : String × TargetLibrary}

/-! ### Targets -/

/-- The target that is read for a runtime: the first one whose key ends in a slash and the
runtime, or if there is none the first one whose key has a slash at all. -/
inductive IsTarget (lock : LockArtifact) (runtime key : String)
    (target : Dictionary TargetLibrary) : Prop
  | own (before after : List (String × Dictionary TargetLibrary)) :
      lock.targets = before ++ (key, target) :: after →
      '/' :: runtime.toList <:+ key.toList →
      (∀ e ∈ before, ¬ '/' :: runtime.toList <:+ e.1.toList) → IsTarget lock runtime key target
  | other (before after : List (String × Dictionary TargetLibrary)) :
      lock.targets = before ++ (key, target) :: after →
      '/' ∈ key.toList → (∀ e ∈ before, '/' ∉ e.1.toList) →
      (∀ e ∈ lock.targets, ¬ '/' :: runtime.toList <:+ e.1.toList) →
      IsTarget lock runtime key target

theorem isTargetOf_iff (runtime key : String) :
    isTargetOf runtime key = true ↔ '/' :: runtime.toList <:+ key.toList := by
  rw [isTargetOf, List.isPrefixOf_iff_prefix, ← List.reverse_prefix, List.reverse_cons]

theorem target?_eq_some_iff {key : String} {target : Dictionary TargetLibrary} :
    target? lock runtime = some (key, target) ↔ IsTarget lock runtime key target := by
  unfold target?
  rw [Option.or_eq_some_iff, List.find?_eq_some_iff_append, List.find?_eq_none,
    List.find?_eq_some_iff_append]
  simp only [isTargetOf_iff, List.contains_iff_mem, Bool.not_eq_true', Bool.eq_false_iff, ne_eq]
  constructor
  · rintro (⟨hkey, before, after, hsplit, hbefore⟩ | ⟨hnone, hkey, before, after, hsplit, hbefore⟩)
    · exact .own before after hsplit hkey hbefore
    · exact .other before after hsplit hkey hbefore hnone
  · rintro (⟨before, after, hsplit, hkey, hbefore⟩ | ⟨before, after, hsplit, hkey, hbefore, hnone⟩)
    · exact Or.inl ⟨hkey, before, after, hsplit, hbefore⟩
    · exact Or.inr ⟨hnone, hkey, before, after, hsplit, hbefore⟩

theorem mem_target {found : String × Dictionary TargetLibrary}
    (h : target? lock runtime = some found) : found ∈ lock.targets := by
  obtain h | ⟨-, h⟩ := Option.or_eq_some_iff.mp h
  · exact List.mem_of_find?_eq_some h
  · exact List.mem_of_find?_eq_some h

/-- There is no target only if no key has a slash. -/
theorem target?_eq_none_iff :
    target? lock runtime = none ↔ ∀ e ∈ lock.targets, '/' ∉ e.1.toList := by
  unfold target?
  rw [Option.or_eq_none_iff, List.find?_eq_none, List.find?_eq_none]
  simp only [isTargetOf_iff, List.contains_iff_mem]
  constructor
  · exact fun h => h.2
  · intro h
    refine ⟨fun e he hends => h e he (hends.subset List.mem_cons_self), h⟩

/-! ### All packages -/

/-- The packages of a target that have assets. -/
def contributing (lock : LockArtifact) (framework : String) (chain : List String)
    (target : Dictionary TargetLibrary) : List (String × TargetLibrary) :=
  (packages target).filter fun e => !(selected lock framework chain e).isEmpty

/-- The dependencies that a list of libraries gives. -/
def gathered (s : Store) (lock : LockArtifact) (framework : String) (chain : List String)
    (entries : List (String × TargetLibrary)) : Except Failure Context :=
  (entries.mapM fun e => dependency s lock framework chain e.1 e.2).map (·.filterMap id)

theorem gathered_nil : gathered s lock framework chain [] = .ok [] :=
  rfl

theorem gathered_cons (entries : List (String × TargetLibrary)) :
    gathered s lock framework chain (e :: entries) =
      (do
        let first ← dependency s lock framework chain e.1 e.2
        let others ← gathered s lock framework chain entries
        .ok (first.toList ++ others)) := by
  unfold gathered
  rw [List.mapM_cons]
  cases dependency s lock framework chain e.1 e.2 with
  | error failure => rfl
  | ok first =>
      cases entries.mapM fun e => dependency s lock framework chain e.1 e.2 with
      | error failure => rfl
      | ok others => cases first <;> rfl

/-- Libraries without assets give nothing and hold nothing up. -/
theorem gathered_filter (entries : List (String × TargetLibrary)) :
    gathered s lock framework chain
        (entries.filter fun e => !(selected lock framework chain e).isEmpty) =
      gathered s lock framework chain entries := by
  induction entries with
  | nil => rfl
  | cons e entries ih =>
      by_cases h : (selected lock framework chain e).isEmpty = true
      · rw [List.filter_cons_of_neg (by simp [h]), ih, gathered_cons, dependency_of_isEmpty h]
        cases gathered s lock framework chain entries <;> rfl
      · rw [List.filter_cons_of_pos (by simp [h]), gathered_cons, gathered_cons, ih]

section Contributing

variable {entries : List (String × TargetLibrary)}
  (hassets : ∀ e ∈ entries, (selected lock framework chain e).isEmpty = false)

include hassets

theorem gathered_eq_ok_iff {context : Context} :
    gathered s lock framework chain entries = .ok context ↔
      List.Forall₂ (Provides s lock framework chain) entries context := by
  induction entries generalizing context with
  | nil => cases context <;> simp [gathered_nil]
  | cons e entries ih =>
      obtain ⟨hfirst, hothers⟩ := List.forall_mem_cons.mp hassets
      obtain ⟨hok, -⟩ := dependency_spec (s := s) hfirst
      simp only [gathered_cons, bind_eq_ok_iff, Except.ok.injEq]
      constructor
      · rintro ⟨r, hdependency, others, hrest, rfl⟩
        obtain ⟨d, rfl, hd⟩ := (hok r).mp hdependency
        exact .cons hd ((ih hothers).mp hrest)
      · intro h
        cases h with
        | @cons _ d _ others hd hrest =>
            exact ⟨some d, (hok _).mpr ⟨d, rfl, hd⟩, others, (ih hothers).mpr hrest, rfl⟩

theorem gathered_eq_error_iff {failure : Failure} :
    gathered s lock framework chain entries = .error failure ↔
      ∃ before e after p, entries = before ++ e :: after ∧
        (∀ b ∈ before, ∃ d, Provides s lock framework chain b d) ∧
        Lacks s lock framework chain e p ∧ failure = .missingAsset (splitLibraryKey e.1).1 p := by
  rw [gathered, Traversal.map_eq_error_iff, Traversal.mapM_eq_error_iff]
  constructor
  · rintro ⟨before, e, after, rfl, hbefore, he⟩
    obtain ⟨p, hp, hfailure⟩ := ((dependency_spec (hassets e (by simp))).2 failure).mp he
    refine ⟨before, e, after, p, rfl, ?_, hp, hfailure⟩
    intro b hb
    obtain ⟨r, hr⟩ := hbefore b hb
    obtain ⟨d, -, hd⟩ := ((dependency_spec (hassets b (by simp [hb]))).1 r).mp hr
    exact ⟨d, hd⟩
  · rintro ⟨before, e, after, p, rfl, hbefore, hp, hfailure⟩
    refine ⟨before, e, after, rfl, ?_, ?_⟩
    · intro b hb
      obtain ⟨d, hd⟩ := hbefore b hb
      exact ⟨some d, ((dependency_spec (hassets b (by simp [hb]))).1 _).mpr ⟨d, rfl, hd⟩⟩
    · exact ((dependency_spec (hassets e (by simp))).2 failure).mpr ⟨p, hp, hfailure⟩

/-- Gathering fails exactly when some library is broken. -/
theorem exists_gathered_eq_error_iff :
    (∃ failure, gathered s lock framework chain entries = .error failure) ↔
      ∃ e ∈ entries, Broken s lock framework chain e := by
  constructor
  · rintro ⟨failure, h⟩
    obtain ⟨before, e, after, p, rfl, -, hp, -⟩ := (gathered_eq_error_iff hassets).mp h
    exact ⟨e, by simp, broken_iff.mpr ⟨p, hp⟩⟩
  · rintro ⟨e, he, hbroken⟩
    obtain ⟨p, hp⟩ := broken_iff.mp hbroken
    cases h : gathered s lock framework chain entries with
    | error failure => exact ⟨failure, rfl⟩
    | ok context =>
        obtain ⟨d, hd⟩ := Traversal.exists_right_of_mem ((gathered_eq_ok_iff hassets).mp h) he
        obtain ⟨hok, herror⟩ := dependency_spec (s := s) (hassets e he)
        have hgood := (hok (some d)).mpr ⟨d, rfl, hd⟩
        rw [(herror _).mpr ⟨p, hp, rfl⟩] at hgood
        contradiction

end Contributing

/-! ### Reading -/

/-- The framework that the key of a target starts with. -/
def frameworkOf (key : String) : String :=
  String.ofList (Text.before '/' key.toList)

/-- The runtimes whose assets count for a runtime, the nearest first. -/
def chainOf (s : Store) (lock : LockArtifact) (runtime : String) : List String :=
  (runtimeGraph s lock).expand runtime

theorem read_of_none {path : Path} (hlock : LockArtifact.read s path = .ok lock)
    (hnone : target? lock runtime = none) :
    read s runtime path = .error (.missingRuntimeTarget path runtime) := by
  simp [read, hlock, hnone, bind, Except.bind]

theorem read_of_target {path : Path} {key : String} {target : Dictionary TargetLibrary}
    (hlock : LockArtifact.read s path = .ok lock)
    (htarget : target? lock runtime = some (key, target)) :
    read s runtime path = gathered s lock (frameworkOf key) (chainOf s lock runtime)
      (contributing lock (frameworkOf key) (chainOf s lock runtime) target) := by
  rw [contributing, gathered_filter]
  simp only [read, hlock, htarget, bind, Except.bind]
  rfl

/-- The path is that of an asset listed for a library, below the directory of the library. -/
def IsAsset (lock : LockArtifact) (s : Store) (e : String × TargetLibrary) (p : Path) : Prop :=
  ∃ library dir asset, lock.libraries.get? e.1 = some library ∧
    IsHome s lock.packageFolders (libraryDir (fullKey e.1) library) dir ∧
    p = dir.child asset ∧ Assets.IsListed e.2 (some library) asset ∧
    Text.afterLast '/' asset.toList ≠ ['_', '.', '_']

theorem Provides.sound {d : Dependency} (h : Provides s lock framework chain e d) {p : Path}
    (hp : p ∈ d.paths) : s.exists? p = true ∧ IsAsset lock s e p := by
  obtain ⟨-, -, hlisted, library, dir, hlibrary, hdir, hholds⟩ := h
  have hpaths : d.paths = (selected lock framework chain e).all.map dir.child := by
    unfold Dependency.paths Assets.all
    rw [hholds.compile, hholds.runtime, hholds.native, hholds.scripts]
    simp only [List.map_append]
  rw [hpaths] at hp
  obtain ⟨asset, hasset, rfl⟩ := List.mem_map.mp hp
  refine ⟨hholds.there asset hasset, library, dir, asset, hlibrary, hdir, rfl, ?_,
    hlisted.real asset hasset⟩
  rw [← hlibrary]
  exact hlisted.isListed hasset

theorem mem_contributing_iff {target : Dictionary TargetLibrary} :
    e ∈ contributing lock framework chain target ↔
      e ∈ target ∧ e.2.kind = "package" ∧ (selected lock framework chain e).all ≠ [] := by
  unfold contributing packages
  rw [List.mem_filter, List.mem_filter, and_assoc, beq_iff_eq, Bool.not_eq_true',
    ← Bool.not_eq_true, Assets.isEmpty_iff, ne_eq]

/-- What comes of a target: what all its packages with assets provide, in the order of their
keys, or that the first of them that is broken lacks something. -/
structure AllOrNothing (s : Store) (lock : LockArtifact) (framework : String)
    (chain : List String) (target : Dictionary TargetLibrary)
    (result : Except Failure Context) : Prop where
  rising : (contributing lock framework chain target).Pairwise (·.1 < ·.1)
  packages : ∀ e, e ∈ contributing lock framework chain target ↔
    e ∈ target ∧ e.2.kind = "package" ∧ (selected lock framework chain e).all ≠ []
  ok : ∀ context, result = .ok context ↔
    List.Forall₂ (Provides s lock framework chain) (contributing lock framework chain target)
      context
  sound : ∀ context, result = .ok context → ∀ d ∈ context, ∀ p ∈ d.paths,
    s.exists? p = true ∧ ∃ e ∈ contributing lock framework chain target, IsAsset lock s e p
  error : ∀ failure, result = .error failure ↔
    ∃ before e after p, contributing lock framework chain target = before ++ e :: after ∧
      (∀ b ∈ before, ∃ d, Provides s lock framework chain b d) ∧
      Lacks s lock framework chain e p ∧ failure = .missingAsset (splitLibraryKey e.1).1 p
  broken : (∃ failure, result = .error failure) ↔
    ∃ e ∈ contributing lock framework chain target, Broken s lock framework chain e

theorem allOrNothing_gathered {target : Dictionary TargetLibrary} (hrising : target.Rising) :
    AllOrNothing s lock framework chain target (gathered s lock framework chain
      (contributing lock framework chain target)) := by
  have hassets : ∀ e ∈ contributing lock framework chain target,
      (selected lock framework chain e).isEmpty = false := by
    intro e he
    simpa using (List.mem_filter.mp he).2
  have hok : ∀ context, gathered s lock framework chain
      (contributing lock framework chain target) = .ok context ↔
        List.Forall₂ (Provides s lock framework chain)
          (contributing lock framework chain target) context :=
    fun _ => gathered_eq_ok_iff hassets
  exact
    { rising := hrising.sublist (List.filter_sublist.trans List.filter_sublist)
      packages := fun _ => mem_contributing_iff
      ok := hok
      sound := by
        intro context hcontext d hd p hp
        obtain ⟨e, he, hprovides⟩ := Traversal.exists_left_of_mem ((hok context).mp hcontext) hd
        obtain ⟨hthere, hasset⟩ := hprovides.sound hp
        exact ⟨hthere, e, he, hasset⟩
      error := fun _ => gathered_eq_error_iff hassets
      broken := exists_gathered_eq_error_iff hassets }

/-- **Reading the dependencies is all or nothing.** -/
theorem read_allOrNothing {path : Path} (hlock : LockArtifact.read s path = .ok lock) :
    (read s runtime path = .error (.missingRuntimeTarget path runtime) ↔
      ∀ e ∈ lock.targets, '/' ∉ e.1.toList) ∧
    ((∃ e ∈ lock.targets, '/' ∈ e.1.toList) →
      ∃ key target, IsTarget lock runtime key target) ∧
    ∀ key target, IsTarget lock runtime key target →
      AllOrNothing s lock (frameworkOf key) (chainOf s lock runtime) target
        (read s runtime path) := by
  have htarget : ∀ key target, IsTarget lock runtime key target →
      AllOrNothing s lock (frameworkOf key) (chainOf s lock runtime) target
        (read s runtime path) := by
    intro key target h
    rw [← target?_eq_some_iff] at h
    rw [read_of_target hlock h]
    exact allOrNothing_gathered ((LockArtifact.inOrder_of_read hlock).libraries _ (mem_target h))
  refine ⟨?_, ?_, htarget⟩
  · constructor
    · intro hread
      cases h : target? lock runtime with
      | none => exact target?_eq_none_iff.mp h
      | some found =>
          have hall := htarget found.1 found.2 (target?_eq_some_iff.mp h)
          obtain ⟨_, _, _, _, -, -, -, hfailure⟩ := (hall.error _).mp hread
          contradiction
    · exact fun hnone => read_of_none hlock (target?_eq_none_iff.mpr hnone)
  · rintro ⟨e, he, hslash⟩
    cases h : target? lock runtime with
    | none => exact absurd hslash (target?_eq_none_iff.mp h e he)
    | some found => exact ⟨found.1, found.2, target?_eq_some_iff.mp h⟩

/-- A package with one asset. -/
def oneAsset : String × TargetLibrary :=
  ("A/1", ⟨"package", [], ["a.dll"], [], [], [], []⟩)

def oneAssetLock : LockArtifact :=
  ⟨0, [("net8.0/linux-x64", [oneAsset])], [("A/1", ⟨"", some "a", []⟩)], ["/p"]⟩

/-- The text of a lock artifact with that package. -/
def oneAssetText : String :=
  "\x7b\"targets\":\x7b\"net8.0/linux-x64\":\x7b\"A/1\":" ++
  "\x7b\"type\":\"package\",\"compile\":\x7b\"a.dll\":0\x7d\x7d\x7d\x7d," ++
  "\"libraries\":\x7b\"A/1\":\x7b\"path\":\"a\"\x7d\x7d,\"packageFolders\":\x7b\"/p\":0\x7d\x7d"

/-- The text and the asset. -/
def oneAssetStore : Store :=
  ⟨[(["lock"], .file oneAssetText.toUTF8 false), (["p"], .directory), (["p", "a"], .directory),
    (["p", "a", "a.dll"], .file .empty false)], [], []⟩

theorem read_oneAssetLock :
    LockArtifact.read oneAssetStore ⟨"/lock"⟩ = .ok oneAssetLock := by
  have hparse : (Json.parse? oneAssetText).bind LockArtifact.ofJson? = some oneAssetLock := by
    unfold oneAssetText
    rw [Json.parse?, String.toList_append, String.toList_append, String.toList_ofList,
      String.toList_ofList, String.toList_ofList]
    decide +kernel
  have hread : oneAssetStore.read ⟨"/lock"⟩ = .ok oneAssetText.toUTF8 := rfl
  rw [LockArtifact.read, Store.readText_of_read hread]
  simp only [hparse]

theorem provides_oneAsset :
    Provides oneAssetStore oneAssetLock "net8.0"
      (chainOf oneAssetStore oneAssetLock "linux-x64") oneAsset
      ⟨"A", "1", [⟨"/p/a/a.dll"⟩], [], [], []⟩ := by
  have hlibrary : oneAssetLock.libraries.get? oneAsset.1 = some ⟨"", some "a", []⟩ := by
    decide +kernel
  have hdir : IsHome oneAssetStore oneAssetLock.packageFolders
      (libraryDir (fullKey oneAsset.1) (some ⟨"", some "a", []⟩)) ⟨"/p/a"⟩ :=
    ⟨[], "/p", [], rfl, by decide +kernel, by decide +kernel, by simp⟩
  exact (provides_iff hlibrary hdir).mpr ⟨by decide +kernel, by decide +kernel⟩

/-- A package with its only asset in place gives that asset. -/
theorem read_oneAssetStore :
    LockArtifact.read oneAssetStore ⟨"/lock"⟩ = .ok oneAssetLock ∧
    read oneAssetStore "linux-x64" ⟨"/lock"⟩ = .ok [⟨"A", "1", [⟨"/p/a/a.dll"⟩], [], [], []⟩] := by
  have htarget : IsTarget oneAssetLock "linux-x64" "net8.0/linux-x64" [oneAsset] :=
    .own [] [] rfl ⟨"net8.0".toList, by decide +kernel⟩ (by simp)
  have hframework : frameworkOf "net8.0/linux-x64" = "net8.0" := by
    decide +kernel
  have hcontributing : contributing oneAssetLock "net8.0"
      (chainOf oneAssetStore oneAssetLock "linux-x64") [oneAsset] = [oneAsset] := by
    decide +kernel
  have hall := (read_allOrNothing read_oneAssetLock).2.2 _ _ htarget
  rw [hframework] at hall
  refine ⟨read_oneAssetLock, (hall.ok _).mpr ?_⟩
  rw [hcontributing]
  exact .cons provides_oneAsset .nil

end ScriptDeps.Context
