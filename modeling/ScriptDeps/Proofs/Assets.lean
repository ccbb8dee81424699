/-
What is selected of a library.

Nothing is invented: every asset that is selected is a name that the lock artifact lists
for the library, among the names for its purpose, and none stands for an empty directory.
-/
import ScriptDeps.Dependency

namespace ScriptDeps

/-- All files of a package. -/
def Dependency.paths (d : Dependency) : List Path :=
  d.compile ++ d.runtime ++ d.native ++ d.scripts

namespace Assets

variable {t : TargetLibrary} {library : Option Library} {chain : List String}
  {framework asset : String}

/-- The assets are among those that are listed for a library. -/
structure Listed (t : TargetLibrary) (library : Option Library) (a : Assets) : Prop where
  compile : ∀ asset ∈ a.compile, asset ∈ t.compile
  runtime : ∀ asset ∈ a.runtime, asset ∈ t.runtime ∨ asset ∈ t.runtimeTargets.keys
  native : ∀ asset ∈ a.native, asset ∈ t.native ∨ asset ∈ t.runtimeTargets.keys
  scripts : ∀ asset ∈ a.scripts, asset ∈ t.contentFiles.keys ∨
    ∃ l, library = some l ∧ asset ∈ l.files
  /-- No name ends like that of a placeholder. -/
  real : ∀ asset ∈ a.all, Text.afterLast '/' asset.toList ≠ ['_', '.', '_']

/-- The asset is among those that are listed for a library, for whatever purpose. -/
def IsListed (t : TargetLibrary) (library : Option Library) (asset : String) : Prop :=
  asset ∈ t.compile ∨ asset ∈ t.runtime ∨ asset ∈ t.native ∨ asset ∈ t.runtimeTargets.keys ∨
    asset ∈ t.contentFiles.keys ∨ ∃ l, library = some l ∧ asset ∈ l.files

theorem Listed.isListed {a : Assets} (h : Listed t library a) (hasset : asset ∈ a.all) :
    IsListed t library asset := by
  simp only [all, List.mem_append] at hasset
  unfold IsListed
  rcases hasset with ((hmem | hmem) | hmem) | hmem
  · exact Or.inl (h.compile asset hmem)
  · rcases h.runtime asset hmem with hmem | hmem <;> simp [hmem]
  · rcases h.native asset hmem with hmem | hmem <;> simp [hmem]
  · rcases h.scripts asset hmem with hmem | hmem <;> simp [hmem]

theorem mem_real_iff {assets : List String} :
    asset ∈ real assets ↔ asset ∈ assets ∧ isPlaceholder asset = false := by
  simp [real]

theorem mem_specificTo {assetType runtime : String} (h : asset ∈ specificTo t assetType runtime) :
    asset ∈ t.runtimeTargets.keys ∧ isPlaceholder asset = false := by
  obtain ⟨⟨path, target⟩, hmem, hpath⟩ := List.mem_filterMap.mp h
  simp only [Option.ite_none_right_eq_some, Bool.and_eq_true, Bool.not_eq_true',
    Option.some.injEq] at hpath
  obtain ⟨⟨-, hreal⟩, rfl⟩ := hpath
  exact ⟨List.mem_map.mpr ⟨_, hmem, rfl⟩, hreal⟩

theorem mem_specific {assetType : String} (h : asset ∈ specific t chain assetType) :
    asset ∈ t.runtimeTargets.keys ∧ isPlaceholder asset = false := by
  unfold specific at h
  cases hfind : (chain.map (specificTo t assetType)).find? (!·.isEmpty) with
  | none => simp [hfind] at h
  | some nearest =>
      rw [hfind, Option.getD_some] at h
      obtain ⟨runtime, -, rfl⟩ := List.mem_map.mp (List.mem_of_find?_eq_some hfind)
      exact mem_specificTo h

theorem mem_runtimeOf (h : asset ∈ runtimeOf t chain) :
    (asset ∈ t.runtime ∨ asset ∈ t.runtimeTargets.keys) ∧ isPlaceholder asset = false := by
  rcases List.mem_append.mp h with h | h
  · obtain ⟨hmem, hreal⟩ := mem_real_iff.mp (List.mem_filter.mp h).1
    exact ⟨Or.inl hmem, hreal⟩
  · obtain ⟨hmem, hreal⟩ := mem_specific h
    exact ⟨Or.inr hmem, hreal⟩

/-- A name that ends like a script does not end like a placeholder. -/
theorem isPlaceholder_of_isScript (h : isScript asset = true) : isPlaceholder asset = false := by
  obtain ⟨rest, hrest⟩ := List.isPrefixOf_iff_prefix.mp h
  unfold isPlaceholder Text.afterLast
  rw [← hrest, beq_eq_false_iff_ne]
  intro hc
  have hlast := congrArg List.getLast? hc
  simp at hlast

theorem mem_contentScripts (h : asset ∈ contentScripts t) :
    asset ∈ t.contentFiles.keys ∧ isPlaceholder asset = false := by
  obtain ⟨⟨path, file⟩, hmem, hpath⟩ := List.mem_filterMap.mp h
  simp only [Option.ite_none_right_eq_some, Bool.and_eq_true, Bool.not_eq_true',
    Option.some.injEq] at hpath
  obtain ⟨⟨-, hreal⟩, rfl⟩ := hpath
  exact ⟨List.mem_map.mpr ⟨_, hmem, rfl⟩, hreal⟩

theorem mem_scriptsFor {l : Library} (h : asset ∈ scriptsFor l framework) :
    asset ∈ l.files ∧ isPlaceholder asset = false := by
  obtain ⟨hmem, hname⟩ := List.mem_filter.mp h
  exact ⟨hmem, isPlaceholder_of_isScript (Bool.and_eq_true_iff.mp hname).2⟩

theorem mem_scriptsOf (h : asset ∈ scriptsOf t library framework) :
    (asset ∈ t.contentFiles.keys ∨ ∃ l, library = some l ∧ asset ∈ l.files) ∧
      isPlaceholder asset = false := by
  unfold scriptsOf at h
  simp only at h
  split at h
  · obtain ⟨hmem, hreal⟩ := mem_contentScripts h
    exact ⟨Or.inl hmem, hreal⟩
  · split at h
    · contradiction
    · rename_i l
      have hfiles : asset ∈ l.files ∧ isPlaceholder asset = false := by
        split at h
        · exact mem_scriptsFor h
        · exact mem_scriptsFor h
      exact ⟨Or.inr ⟨l, rfl, hfiles.1⟩, hfiles.2⟩

/-- **What is selected is listed.** -/
theorem listed_select (t : TargetLibrary) (library : Option Library) (chain : List String)
    (framework : String) : Listed t library (select t library chain framework) where
  compile asset h := (mem_real_iff.mp h).1
  runtime asset h := (mem_runtimeOf h).1
  native asset h := by
    rcases List.mem_append.mp h with h | h
    · exact Or.inl (mem_real_iff.mp h).1
    · exact Or.inr (mem_specific h).1
  scripts asset h := (mem_scriptsOf h).1
  real asset h := by
    have hreal : isPlaceholder asset = false := by
      simp only [all, select, List.mem_append] at h
      rcases h with ((h | h) | h | h) | h
      · exact (mem_real_iff.mp h).2
      · exact (mem_runtimeOf h).2
      · exact (mem_real_iff.mp h).2
      · exact (mem_specific h).2
      · exact (mem_scriptsOf h).2
    simpa [isPlaceholder] using hreal

theorem isEmpty_iff (a : Assets) : a.isEmpty = true ↔ a.all = [] := by
  simp [isEmpty, all, and_assoc]

end Assets

end ScriptDeps
