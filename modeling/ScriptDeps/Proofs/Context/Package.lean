/-
A package is in place, or it lacks something.

A package that has assets is in place if a package folder has its directory and all its
assets are there.  `Provides` says what it gives then, and `Lacks` what the first thing is
that another one lacks; what is read of a package follows from which of the two holds.
-/
import ScriptDeps.Context
import ScriptDeps.Proofs.Assets
import ScriptDeps.Proofs.Traversal

namespace ScriptDeps.Context

variable {s : Store} {lock : LockArtifact} {framework : String} {chain : List String}
  {e : String × TargetLibrary} {dir : Path}

/-! ### Directories and files -/

/-- `dir` is what `relative` names in the first package folder that has such a directory. -/
def IsHome (s : Store) (folders : List String) (relative : String) (dir : Path) : Prop :=
  ∃ before folder after, folders = before ++ folder :: after ∧
    dir = (Path.mk folder).child relative ∧ s.isDir dir = true ∧
    ∀ other ∈ before, s.isDir ((Path.mk other).child relative) = false

theorem packageDir?_eq_some_iff {folders : List String} {key : String} {library : Library} :
    packageDir? s folders key library = some dir ↔
      IsHome s folders (libraryDir key library) dir := by
  unfold packageDir?
  rw [List.find?_map, Option.map_eq_some_iff]
  simp only [List.find?_eq_some_iff_append, Function.comp_apply, Bool.not_eq_true']
  constructor
  · rintro ⟨folder, ⟨hdir, before, after, hsplit, hbefore⟩, rfl⟩
    exact ⟨before, folder, after, hsplit, rfl, hdir, hbefore⟩
  · rintro ⟨before, folder, after, hsplit, rfl, hdir, hbefore⟩
    exact ⟨folder, ⟨hdir, before, after, hsplit, hbefore⟩, rfl⟩

theorem IsHome.unique {folders : List String} {key : String} {library : Library} {home : Path}
    (h : IsHome s folders (libraryDir key library) dir)
    (hhome : IsHome s folders (libraryDir key library) home) : dir = home :=
  Option.some.inj ((packageDir?_eq_some_iff.mpr h).symm.trans (packageDir?_eq_some_iff.mpr hhome))

theorem packageDir?_eq_none_iff {folders : List String} {key : String} {library : Library} :
    packageDir? s folders key library = none ↔
      ∀ folder ∈ folders, s.isDir ((Path.mk folder).child (libraryDir key library)) = false := by
  unfold packageDir?
  simp

theorem existing_eq_ok_iff {name : String} {assets : List String} {paths : List Path} :
    existing s name dir assets = .ok paths ↔
      paths = assets.map dir.child ∧ ∀ a ∈ assets, s.exists? (dir.child a) = true := by
  unfold existing
  rw [Traversal.mapM_eq_ok_iff]
  induction assets generalizing paths with
  | nil => cases paths <;> simp
  | cons a assets ih =>
      cases paths with
      | nil => simp
      | cons p paths =>
          rw [List.forall₂_cons, ih, List.map_cons, List.cons.injEq, List.forall_mem_cons]
          by_cases ha : s.exists? (dir.child a) = true
          · have hp : (Except.ok (dir.child a) : Except Failure Path) = .ok p ↔
                p = dir.child a := by
              rw [Except.ok.injEq, eq_comm]
            simp only [ha, if_true, hp, true_and, and_assoc]
          · simp [ha]

theorem existing_eq_error_iff {name : String} {assets : List String} {failure : Failure} :
    existing s name dir assets = .error failure ↔
      ∃ before a after, assets = before ++ a :: after ∧
        (∀ b ∈ before, s.exists? (dir.child b) = true) ∧ s.exists? (dir.child a) = false ∧
        failure = .missingAsset name (dir.child a) := by
  unfold existing
  rw [Traversal.mapM_eq_error_iff]
  refine exists_congr fun before => exists_congr fun a => exists_congr fun after =>
    and_congr_right fun _ => ?_
  refine and_congr (forall₂_congr fun b _ => ?_) ?_
  · by_cases hb : s.exists? (dir.child b) = true <;> simp [hb]
  · by_cases ha : s.exists? (dir.child a) = true <;> simp [ha, eq_comm]

/-! ### One package -/

/-- The assets that the lock artifact selects of a library of a target. -/
def selected (lock : LockArtifact) (framework : String) (chain : List String)
    (e : String × TargetLibrary) : Assets :=
  Assets.select e.2 (lock.libraries.get? e.1) chain framework

/-- The name and the version in a key, put together again. -/
def fullKey (key : String) : String :=
  (splitLibraryKey key).1 ++ "/" ++ (splitLibraryKey key).2

/-- The dependency lists all the assets, and they are there. -/
structure Holds (s : Store) (dir : Path) (assets : Assets) (d : Dependency) : Prop where
  compile : d.compile = assets.compile.map dir.child
  runtime : d.runtime = assets.runtime.map dir.child
  native : d.native = assets.native.map dir.child
  scripts : d.scripts = assets.scripts.map dir.child
  there : ∀ a ∈ assets.all, s.exists? (dir.child a) = true

/-- What a library with assets gives, if it is in place. -/
structure Provides (s : Store) (lock : LockArtifact) (framework : String) (chain : List String)
    (e : String × TargetLibrary) (d : Dependency) : Prop where
  name : d.name = (splitLibraryKey e.1).1
  version : d.version = (splitLibraryKey e.1).2
  listed : Assets.Listed e.2 (lock.libraries.get? e.1) (selected lock framework chain e)
  files : ∃ library dir, lock.libraries.get? e.1 = some library ∧
    IsHome s lock.packageFolders (libraryDir (fullKey e.1) library) dir ∧
    Holds s dir (selected lock framework chain e) d

/-- The path is the first thing that a library with assets lacks. -/
inductive Lacks (s : Store) (lock : LockArtifact) (framework : String) (chain : List String)
    (e : String × TargetLibrary) : Path → Prop
  /-- It has no entry among the libraries. -/
  | entry : lock.libraries.get? e.1 = none →
      Lacks s lock framework chain e ⟨libraryDir (fullKey e.1) none⟩
  /-- No package folder has its directory. -/
  | directory (library : Library) : lock.libraries.get? e.1 = some library →
      (∀ folder ∈ lock.packageFolders,
        s.isDir ((Path.mk folder).child (libraryDir (fullKey e.1) library)) = false) →
      Lacks s lock framework chain e ⟨libraryDir (fullKey e.1) library⟩
  /-- One asset is not there, and all before it are. -/
  | asset (library : Library) (dir : Path) (before : List String) (a : String)
      (after : List String) : lock.libraries.get? e.1 = some library →
      IsHome s lock.packageFolders (libraryDir (fullKey e.1) library) dir →
      (selected lock framework chain e).all = before ++ a :: after →
      (∀ b ∈ before, s.exists? (dir.child b) = true) → s.exists? (dir.child a) = false →
      Lacks s lock framework chain e (dir.child a)

/-- The dependency with all the assets below a directory. -/
def filled (key : String) (dir : Path) (a : Assets) : Dependency :=
  { name := (splitLibraryKey key).1
    version := (splitLibraryKey key).2
    compile := a.compile.map dir.child
    runtime := a.runtime.map dir.child
    native := a.native.map dir.child
    scripts := a.scripts.map dir.child }

theorem provides_iff {library : Library} {d : Dependency}
    (hlibrary : lock.libraries.get? e.1 = some library)
    (hdir : IsHome s lock.packageFolders (libraryDir (fullKey e.1) library) dir) :
    Provides s lock framework chain e d ↔
      d = filled e.1 dir (selected lock framework chain e) ∧
        ∀ a ∈ (selected lock framework chain e).all, s.exists? (dir.child a) = true := by
  constructor
  · rintro ⟨hname, hversion, -, other, home, hother, hhome, hholds⟩
    rw [hlibrary, Option.some.injEq] at hother
    subst hother
    obtain rfl := hdir.unique hhome
    refine ⟨?_, hholds.there⟩
    obtain ⟨name, version, compile, runtime, native, scripts⟩ := d
    simp only at hname hversion
    rw [filled, hname, hversion, ← hholds.compile, ← hholds.runtime, ← hholds.native,
      ← hholds.scripts]
  · rintro ⟨rfl, hthere⟩
    exact ⟨rfl, rfl, Assets.listed_select _ _ _ _, library, dir, hlibrary, hdir,
      rfl, rfl, rfl, rfl, hthere⟩

theorem lacks_iff {library : Library} {p : Path}
    (hlibrary : lock.libraries.get? e.1 = some library)
    (hdir : IsHome s lock.packageFolders (libraryDir (fullKey e.1) library) dir) :
    Lacks s lock framework chain e p ↔
      ∃ before a after, (selected lock framework chain e).all = before ++ a :: after ∧
        (∀ b ∈ before, s.exists? (dir.child b) = true) ∧ s.exists? (dir.child a) = false ∧
        p = dir.child a := by
  constructor
  · intro h
    cases h with
    | entry hnone =>
        rw [hlibrary] at hnone
        contradiction
    | directory other hother hnone =>
        rw [hlibrary, Option.some.injEq] at hother
        subst hother
        rw [← packageDir?_eq_none_iff, packageDir?_eq_some_iff.mpr hdir] at hnone
        contradiction
    | asset other home before a after hother hhome hsplit hbefore ha =>
        rw [hlibrary, Option.some.injEq] at hother
        subst hother
        obtain rfl := hdir.unique hhome
        exact ⟨before, a, after, hsplit, hbefore, ha, rfl⟩
  · rintro ⟨before, a, after, hsplit, hbefore, ha, rfl⟩
    exact .asset library dir before a after hlibrary hdir hsplit hbefore ha

theorem not_provides_of_homeless {d : Dependency}
    (hnone : (lock.libraries.get? e.1).bind
      (packageDir? s lock.packageFolders (fullKey e.1)) = none) :
    ¬ Provides s lock framework chain e d := by
  rintro ⟨-, -, -, library, dir, hlibrary, hdir, -⟩
  rw [hlibrary, Option.bind_some, packageDir?_eq_some_iff.mpr hdir] at hnone
  contradiction

theorem lacks_iff_of_homeless {p : Path}
    (hnone : (lock.libraries.get? e.1).bind
      (packageDir? s lock.packageFolders (fullKey e.1)) = none) :
    Lacks s lock framework chain e p ↔
      p = ⟨libraryDir (fullKey e.1) (lock.libraries.get? e.1)⟩ := by
  constructor
  · intro h
    cases h with
    | entry hlibrary => rw [hlibrary]
    | directory library hlibrary _ => rw [hlibrary]
    | asset library dir _ _ _ hlibrary hdir _ _ _ =>
        rw [hlibrary, Option.bind_some, packageDir?_eq_some_iff.mpr hdir] at hnone
        contradiction
  · rintro rfl
    cases hlibrary : lock.libraries.get? e.1 with
    | none => exact .entry hlibrary
    | some library =>
        rw [hlibrary, Option.bind_some, packageDir?_eq_none_iff] at hnone
        exact .directory library hlibrary hnone

/-- Looking for the assets one purpose after the other is looking for all of them. -/
theorem gather_eq (s : Store) (key : String) (dir : Path) (a : Assets) :
    (do
      let compile ← existing s (splitLibraryKey key).1 dir a.compile
      let runtime ← existing s (splitLibraryKey key).1 dir a.runtime
      let native ← existing s (splitLibraryKey key).1 dir a.native
      let scripts ← existing s (splitLibraryKey key).1 dir a.scripts
      Except.ok (some (Dependency.mk (splitLibraryKey key).1 (splitLibraryKey key).2
        compile runtime native scripts))) =
      (existing s (splitLibraryKey key).1 dir a.all).map fun _ => some (filled key dir a) := by
  have happend : ∀ xs ys : List String, existing s (splitLibraryKey key).1 dir (xs ++ ys) = (do
      let front ← existing s (splitLibraryKey key).1 dir xs
      let back ← existing s (splitLibraryKey key).1 dir ys
      pure (front ++ back)) := fun xs ys => List.mapM_append
  have hpaths : ∀ {assets : List String} {paths : List Path},
      existing s (splitLibraryKey key).1 dir assets = .ok paths → paths = assets.map dir.child :=
    fun h => (existing_eq_ok_iff.mp h).1
  rw [Assets.all, happend, happend, happend]
  cases hcompile : existing s (splitLibraryKey key).1 dir a.compile with
  | error failure => rfl
  | ok compile =>
      cases hruntime : existing s (splitLibraryKey key).1 dir a.runtime with
      | error failure => rfl
      | ok runtime =>
          cases hnative : existing s (splitLibraryKey key).1 dir a.native with
          | error failure => rfl
          | ok native =>
              cases hscripts : existing s (splitLibraryKey key).1 dir a.scripts with
              | error failure => rfl
              | ok scripts =>
                  rw [hpaths hcompile, hpaths hruntime, hpaths hnative, hpaths hscripts]
                  rfl

theorem dependency_of_isEmpty (h : (selected lock framework chain e).isEmpty = true) :
    dependency s lock framework chain e.1 e.2 = .ok none := by
  unfold selected at h
  simp [dependency, h]

theorem dependency_of_home {library : Library}
    (hassets : (selected lock framework chain e).isEmpty = false)
    (hlibrary : lock.libraries.get? e.1 = some library)
    (hdir : IsHome s lock.packageFolders (libraryDir (fullKey e.1) library) dir) :
    dependency s lock framework chain e.1 e.2 =
      (existing s (splitLibraryKey e.1).1 dir (selected lock framework chain e).all).map
        fun _ => some (filled e.1 dir (selected lock framework chain e)) := by
  rw [← packageDir?_eq_some_iff] at hdir
  rw [← gather_eq]
  unfold selected at hassets ⊢
  unfold fullKey at hdir
  simp only [dependency, hlibrary, Option.bind_some, hdir] at hassets ⊢
  rw [if_neg (by simp [hassets])]

theorem dependency_of_homeless (hassets : (selected lock framework chain e).isEmpty = false)
    (hnone : (lock.libraries.get? e.1).bind
      (packageDir? s lock.packageFolders (fullKey e.1)) = none) :
    dependency s lock framework chain e.1 e.2 = .error (.missingAsset (splitLibraryKey e.1).1
      ⟨libraryDir (fullKey e.1) (lock.libraries.get? e.1)⟩) := by
  unfold selected at hassets
  unfold fullKey at hnone ⊢
  simp only [dependency, hnone]
  rw [if_neg (by simp [hassets])]

/-- **A library with assets gives what it provides, or fails with what it lacks.** -/
theorem dependency_spec (hassets : (selected lock framework chain e).isEmpty = false) :
    (∀ r, dependency s lock framework chain e.1 e.2 = .ok r ↔
      ∃ d, r = some d ∧ Provides s lock framework chain e d) ∧
    ∀ failure, dependency s lock framework chain e.1 e.2 = .error failure ↔
      ∃ p, Lacks s lock framework chain e p ∧
        failure = .missingAsset (splitLibraryKey e.1).1 p := by
  cases hhome : (lock.libraries.get? e.1).bind
      (packageDir? s lock.packageFolders (fullKey e.1)) with
  | none =>
      rw [dependency_of_homeless hassets hhome]
      constructor
      · intro r
        refine ⟨fun h => by contradiction, ?_⟩
        rintro ⟨d, -, hd⟩
        exact absurd hd (not_provides_of_homeless hhome)
      · intro failure
        simp only [lacks_iff_of_homeless hhome, exists_eq_left, Except.error.injEq, eq_comm]
  | some dir =>
      obtain ⟨library, hlibrary, hdir⟩ := Option.bind_eq_some_iff.mp hhome
      rw [packageDir?_eq_some_iff] at hdir
      rw [dependency_of_home hassets hlibrary hdir]
      constructor
      · intro r
        rw [Traversal.map_eq_ok_iff]
        simp only [existing_eq_ok_iff, provides_iff hlibrary hdir]
        constructor
        · rintro ⟨paths, ⟨-, hthere⟩, rfl⟩
          exact ⟨_, rfl, rfl, hthere⟩
        · rintro ⟨d, rfl, rfl, hthere⟩
          exact ⟨_, ⟨rfl, hthere⟩, rfl⟩
      · intro failure
        rw [Traversal.map_eq_error_iff, existing_eq_error_iff]
        simp only [lacks_iff hlibrary hdir]
        constructor
        · rintro ⟨before, a, after, hsplit, hbefore, ha, rfl⟩
          exact ⟨_, ⟨before, a, after, hsplit, hbefore, ha, rfl⟩, rfl⟩
        · rintro ⟨p, ⟨before, a, after, hsplit, hbefore, ha, rfl⟩, rfl⟩
          exact ⟨before, a, after, hsplit, hbefore, ha, rfl⟩

/-- A library with assets is broken: it has no entry, no folder has its directory, or some
asset is not there. -/
def Broken (s : Store) (lock : LockArtifact) (framework : String) (chain : List String)
    (e : String × TargetLibrary) : Prop :=
  lock.libraries.get? e.1 = none ∨
    ∃ library, lock.libraries.get? e.1 = some library ∧
      ((∀ folder ∈ lock.packageFolders,
          s.isDir ((Path.mk folder).child (libraryDir (fullKey e.1) library)) = false) ∨
        ∃ dir, IsHome s lock.packageFolders (libraryDir (fullKey e.1) library) dir ∧
          ∃ a ∈ (selected lock framework chain e).all, s.exists? (dir.child a) = false)

/-- A broken library lacks something, and no other does. -/
theorem broken_iff :
    Broken s lock framework chain e ↔ ∃ p, Lacks s lock framework chain e p := by
  constructor
  · rintro (hnone | ⟨library, hlibrary, hnone | ⟨dir, hdir, a, ha, hmissing⟩⟩)
    · exact ⟨_, .entry hnone⟩
    · exact ⟨_, .directory library hlibrary hnone⟩
    · have hsome : ((selected lock framework chain e).all.find?
          fun a => !s.exists? (dir.child a)).isSome = true := by
        rw [List.find?_isSome]
        exact ⟨a, ha, by rw [hmissing]; rfl⟩
      obtain ⟨first, hfirst⟩ := Option.isSome_iff_exists.mp hsome
      obtain ⟨hlost, before, after, hsplit, hbefore⟩ := List.find?_eq_some_iff_append.mp hfirst
      refine ⟨_, .asset library dir before first after hlibrary hdir hsplit ?_ ?_⟩
      · exact fun b hb => by simpa using hbefore b hb
      · simpa using hlost
  · rintro ⟨p, hnone | ⟨library, hlibrary, hnone⟩ |
      ⟨library, dir, before, a, after, hlibrary, hdir, hsplit, -, hmissing⟩⟩
    · exact Or.inl hnone
    · exact Or.inr ⟨library, hlibrary, Or.inl hnone⟩
    · refine Or.inr ⟨library, hlibrary, Or.inr ⟨dir, hdir, a, ?_, hmissing⟩⟩
      rw [hsplit]
      exact List.mem_append_right before List.mem_cons_self

end ScriptDeps.Context
