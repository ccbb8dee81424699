/-
Assets for a runtime are those of the nearest one that has any.

A library lists assets for some runtimes besides the generic ones.  Of each type those count
that are for the first runtime of the chain with any of that type, all of them, in the order
of their names: `IsSpecific`.  Assets for farther runtimes and for runtimes outside the chain
do not count, and neither does a generic runtime asset with the file name of one that does.
`SelectsNearest` says what becomes of the two kinds together.
-/
import ScriptDeps.Proofs.Context.Package
import ScriptDeps.Proofs.LockArtifact

namespace ScriptDeps.Assets

variable {t : TargetLibrary} {chain : List String} {assetType runtime other asset : String}

/-! ### The nearest runtime -/

/-- The library lists the asset for a runtime, and not for an empty directory. -/
def IsFor (t : TargetLibrary) (assetType runtime asset : String) : Prop :=
  (asset, RuntimeTarget.mk assetType runtime) ∈ t.runtimeTargets ∧ isPlaceholder asset = false

/-- The runtime is the first of the chain for which the library has an asset of the type. -/
def IsNearest (t : TargetLibrary) (chain : List String) (assetType runtime : String) : Prop :=
  ∃ nearer farther, chain = nearer ++ runtime :: farther ∧
    (∃ asset, IsFor t assetType runtime asset) ∧
    ∀ other ∈ nearer, ∀ asset, ¬ IsFor t assetType other asset

/-- The names of the assets that the library lists for a runtime, in their order. -/
def assetsFor (t : TargetLibrary) (assetType runtime : String) : List String :=
  (t.runtimeTargets.filter fun e =>
    e.2 = ⟨assetType, runtime⟩ ∧ isPlaceholder e.1 = false).map Prod.fst

/-- All assets for the nearest runtime, or nothing if no runtime of the chain has any. -/
inductive IsSpecific (t : TargetLibrary) (chain : List String) (assetType : String) :
    List String → Prop
  | nearest {runtime : String} : IsNearest t chain assetType runtime →
      IsSpecific t chain assetType (assetsFor t assetType runtime)
  | none : (∀ runtime ∈ chain, ∀ asset, ¬ IsFor t assetType runtime asset) →
      IsSpecific t chain assetType []

theorem mem_assetsFor_iff : asset ∈ assetsFor t assetType runtime ↔
    IsFor t assetType runtime asset := by
  unfold assetsFor IsFor
  simp [List.mem_filter]

theorem specificTo_eq (t : TargetLibrary) (assetType runtime : String) :
    specificTo t assetType runtime = assetsFor t assetType runtime := by
  rw [specificTo, assetsFor, ← List.filterMap_eq_map, List.filterMap_filter]
  refine List.filterMap_congr ?_
  rintro ⟨path, ⟨itsType, itsRuntime⟩⟩ -
  simp [and_assoc]

theorem isEmpty_specificTo_iff : (specificTo t assetType runtime).isEmpty = true ↔
    ∀ asset, ¬ IsFor t assetType runtime asset := by
  rw [List.isEmpty_iff, List.eq_nil_iff_forall_not_mem, specificTo_eq]
  simp only [mem_assetsFor_iff]

/-- Looking for a runtime with any assets finds the nearest. -/
theorem find?_eq_some_iff_isNearest :
    chain.find? (fun r => !(specificTo t assetType r).isEmpty) = some runtime ↔
      IsNearest t chain assetType runtime := by
  have hsome : (!(specificTo t assetType runtime).isEmpty) = true ↔
      ∃ asset, IsFor t assetType runtime asset := by
    rw [Bool.not_eq_true', ← Bool.not_eq_true, isEmpty_specificTo_iff, not_forall_not]
  rw [List.find?_eq_some_iff_append, hsome]
  simp only [Bool.not_not, isEmpty_specificTo_iff]
  exact ⟨fun ⟨hhas, nearer, farther, hchain, hnearer⟩ => ⟨nearer, farther, hchain, hhas, hnearer⟩,
    fun ⟨nearer, farther, hchain, hhas, hnearer⟩ => ⟨hhas, nearer, farther, hchain, hnearer⟩⟩

/-- The relation leaves no choice, and it holds of what is taken. -/
theorem isSpecific_iff {assets : List String} :
    IsSpecific t chain assetType assets ↔ assets = specific t chain assetType := by
  have hspecific : specific t chain assetType =
      ((chain.find? fun r => !(specificTo t assetType r).isEmpty).map
        (specificTo t assetType)).getD [] := by
    rw [specific, List.find?_map]
    rfl
  rw [hspecific]
  constructor
  · intro h
    cases h with
    | nearest hnearest =>
        rw [find?_eq_some_iff_isNearest.mpr hnearest, Option.map_some, Option.getD_some,
          specificTo_eq]
    | none hnone =>
        have hfind : chain.find? (fun r => !(specificTo t assetType r).isEmpty) = none := by
          rw [List.find?_eq_none]
          intro r hr
          rw [isEmpty_specificTo_iff.mpr (hnone r hr)]
          exact Bool.false_ne_true
        rw [hfind]
        rfl
  · rintro rfl
    cases hfind : chain.find? fun r => !(specificTo t assetType r).isEmpty with
    | none =>
        refine .none fun r hr => isEmpty_specificTo_iff.mp ?_
        simpa using List.find?_eq_none.mp hfind r hr
    | some r =>
        rw [Option.map_some, Option.getD_some, specificTo_eq]
        exact .nearest (find?_eq_some_iff_isNearest.mp hfind)

/-- What is specific is for the nearest runtime. -/
theorem IsSpecific.exists_nearest {assets : List String} (h : IsSpecific t chain assetType assets)
    (ha : asset ∈ assets) :
    ∃ r, IsNearest t chain assetType r ∧ IsFor t assetType r asset := by
  cases h with
  | nearest hnearest => exact ⟨_, hnearest, mem_assetsFor_iff.mp ha⟩
  | none => contradiction

/-! ### What is selected -/

/-- Of a library the assets of the nearest runtime were selected beside the generic ones. -/
structure SelectsNearest (t : TargetLibrary) (chain : List String) (a : Assets) : Prop where
  /-- Generic runtime assets come first, but for those whose file name a specific one has. -/
  runtime : a.runtime = (t.runtime.filter fun asset => isPlaceholder asset = false ∧
    ∀ b ∈ specific t chain "runtime", fileName b ≠ fileName asset) ++ specific t chain "runtime"
  /-- Generic native assets come first, all of them. -/
  native : a.native = t.native.filter (isPlaceholder · = false) ++ specific t chain "native"
  /-- No asset is selected for another runtime than the nearest. -/
  runtimeNearest : ∀ asset ∈ a.runtime, asset ∉ t.runtime →
    ∃ r, IsNearest t chain "runtime" r ∧ IsFor t "runtime" r asset
  nativeNearest : ∀ asset ∈ a.native, asset ∉ t.native →
    ∃ r, IsNearest t chain "native" r ∧ IsFor t "native" r asset
  /-- What is selected beside a specific runtime asset of its file name is specific too. -/
  replaced : ∀ asset ∈ a.runtime, ∀ b ∈ specific t chain "runtime",
    fileName b = fileName asset → asset ∈ specific t chain "runtime"

theorem runtimeOf_eq (t : TargetLibrary) (chain : List String) :
    runtimeOf t chain = (t.runtime.filter fun asset => isPlaceholder asset = false ∧
      ∀ b ∈ specific t chain "runtime", fileName b ≠ fileName asset) ++
        specific t chain "runtime" := by
  rw [runtimeOf, real, List.filter_filter]
  congr 1
  refine List.filter_congr fun asset _ => ?_
  rw [Bool.eq_iff_iff]
  simp [and_comm]

theorem selectsNearest_select (t : TargetLibrary) (library : Option Library)
    (chain : List String) (framework : String) :
    SelectsNearest t chain (select t library chain framework) where
  runtime := runtimeOf_eq t chain
  native := by
    have hreal : real t.native = t.native.filter (isPlaceholder · = false) :=
      List.filter_congr fun asset _ => by simp
    rw [← hreal]
    rfl
  runtimeNearest asset h hgeneric := by
    rcases List.mem_append.mp h with h | h
    · exact absurd (mem_real_iff.mp (List.mem_filter.mp h).1).1 hgeneric
    · exact (isSpecific_iff.mpr rfl).exists_nearest h
  nativeNearest asset h hgeneric := by
    rcases List.mem_append.mp h with h | h
    · exact absurd (mem_real_iff.mp h).1 hgeneric
    · exact (isSpecific_iff.mpr rfl).exists_nearest h
  replaced asset h b hb hname := by
    have hmem : asset ∈ runtimeOf t chain := h
    rw [runtimeOf_eq] at hmem
    rcases List.mem_append.mp hmem with hmem | hmem
    · have hkept := of_decide_eq_true (List.mem_filter.mp hmem).2
      exact absurd hname (hkept.2 b hb)
    · exact hmem

/-- A dependency has the runtime and native assets that are selected. -/
theorem exists_dir_of_dependency {s : Store} {lock : LockArtifact} {framework key : String}
    {d : Dependency} (h : Context.dependency s lock framework chain key t = .ok (some d)) :
    ∃ dir : Path,
      d.runtime = (select t (lock.libraries.get? key) chain framework).runtime.map dir.child ∧
      d.native = (select t (lock.libraries.get? key) chain framework).native.map dir.child := by
  cases hempty : (Context.selected lock framework chain (key, t)).isEmpty with
  | true =>
      rw [Context.dependency_of_isEmpty hempty] at h
      exact absurd (Except.ok.inj h) nofun
  | false =>
      obtain ⟨found, heq, hprovides⟩ := ((Context.dependency_spec hempty).1 _).mp h
      obtain ⟨_, dir, -, -, hholds⟩ := hprovides.files
      rw [Option.some.injEq] at heq
      rw [heq]
      exact ⟨dir, hholds.runtime, hholds.native⟩

/-- **Of the assets for runtimes those of the nearest are selected, and all of them.**  A generic
runtime asset gives way to a specific one with its file name, and generic native assets stay; the
dependency that the library becomes has the files of these names.  They come in the order in which
the library lists them, which is that of their names. -/
theorem select_nearest (t : TargetLibrary) (chain : List String) :
    (∀ assetType assets,
      IsSpecific t chain assetType assets ↔ assets = specific t chain assetType) ∧
    (∀ library framework, SelectsNearest t chain (select t library chain framework)) ∧
    (∀ s lock framework key d, Context.dependency s lock framework chain key t = .ok (some d) →
      ∃ dir : Path,
        d.runtime = (select t (lock.libraries.get? key) chain framework).runtime.map dir.child ∧
        d.native = (select t (lock.libraries.get? key) chain framework).native.map dir.child) ∧
    ∀ s p lock, LockArtifact.read s p = .ok lock → ∀ target ∈ lock.targets, ∀ key,
      (key, t) ∈ target.2 → LockArtifact.AssetsInOrder t :=
  ⟨fun _ _ => isSpecific_iff,
    fun library framework => selectsNearest_select t library chain framework,
    fun _ _ _ _ _ => exists_dir_of_dependency,
    fun _ _ _ h target htarget key ht =>
      (LockArtifact.inOrder_of_read h).assets target htarget (key, t) ht⟩

/-- The assets for Unix are farther, and those for Windows are none for the chain. -/
example :
    let t : TargetLibrary :=
      { kind := "package", dependencies := [], compile := [], native := [], contentFiles := []
        runtime := ["lib/Foo.dll", "lib/Foo.Core.dll"]
        runtimeTargets := [("runtimes/linux/Foo.dll", ⟨"runtime", "linux"⟩),
          ("runtimes/unix/Foo.dll", ⟨"runtime", "unix"⟩),
          ("runtimes/win/Foo.dll", ⟨"runtime", "win"⟩)] }
    (select t none ["linux-x64", "linux", "unix", "any"] "net8.0").runtime =
      ["lib/Foo.Core.dll", "runtimes/linux/Foo.dll"] := by
  decide +kernel

end ScriptDeps.Assets
