/-
The order of the dependencies does not decide versions.

What is chosen for a name is the first of the highest version, so the order counts only among
items that come out even.  If no two versions of a package do, the same packages are chosen
whatever the order, and so the same files stand to choice after that.  Among those there may be
even ones: for each name the order may then decide which file it is, but not its version.
-/
import Mathlib.Data.List.Pairwise
import ScriptDeps.Proofs.Manifest.Members
import ScriptDeps.Proofs.Resolved

namespace ScriptDeps

open Version (compareTexts)

variable {α : Type} {nameOf versionOf : α → String} {xs ys chosen others : List α}

/-! ### Choosing from the same items in another order -/

/-- No two of the items have one name and versions that come out even. -/
def Untied (nameOf versionOf : α → String) (xs : List α) : Prop :=
  xs.Pairwise fun x y => Text.lowercase (nameOf x) = Text.lowercase (nameOf y) →
    compareTexts (versionOf x) (versionOf y) ≠ .eq

instance : Decidable (Untied nameOf versionOf xs) :=
  inferInstanceAs (Decidable (xs.Pairwise _))

theorem Untied.eq_of_even (h : Untied nameOf versionOf xs) {x y : α} (hx : x ∈ xs) (hy : y ∈ xs)
    (hname : Text.lowercase (nameOf x) = Text.lowercase (nameOf y))
    (heven : compareTexts (versionOf x) (versionOf y) = .eq) : x = y := by
  have hsymm : Std.Symm fun x y : α => Text.lowercase (nameOf x) = Text.lowercase (nameOf y) →
      compareTexts (versionOf x) (versionOf y) ≠ .eq :=
    ⟨fun _ _ hne hback heq => hne hback.symm (Std.OrientedCmp.eq_symm heq)⟩
  by_contra hne
  exact h.forall hx hy hne hname heven

/-- The items have the same names, and for each name versions that come out even. -/
structure SameVersions (nameOf versionOf : α → String) (xs ys : List α) : Prop where
  names : (lowerNames nameOf xs).Perm (lowerNames nameOf ys)
  versions : ∀ x ∈ xs, ∀ y ∈ ys, Text.lowercase (nameOf x) = Text.lowercase (nameOf y) →
    compareTexts (versionOf x) (versionOf y) = .eq

theorem Chosen.sameVersions (h : Chosen nameOf versionOf xs chosen)
    (ho : Chosen nameOf versionOf ys others) (hperm : xs.Perm ys) :
    SameVersions nameOf versionOf chosen others where
  names := by
    refine (List.perm_ext_iff_of_nodup h.names.nodup ho.names.nodup).mpr fun name => ?_
    rw [h.names.mem, ho.names.mem]
    exact (hperm.map _).mem_iff
  versions x hx y hy hname := by
    have hhighest := h.highest x hx
    have hother := ho.highest y hy
    rw [← hname] at hother
    -- each is in the group of the other, and neither exceeds the other
    have hgroups := hperm.filter fun z => Text.lowercase (nameOf z) == Text.lowercase (nameOf x)
    have hle : compareTexts (versionOf x) (versionOf y) ≠ .gt :=
      hother.not_gt x (hgroups.mem_iff.mp hhighest.mem)
    have hge : compareTexts (versionOf y) (versionOf x) ≠ .gt :=
      hhighest.not_gt y (hgroups.mem_iff.mpr hother.mem)
    exact Std.OrientedCmp.isLE_antisymm (Ordering.isLE_iff_ne_gt.mpr hle)
      (Ordering.isLE_iff_ne_gt.mpr hge)

theorem Chosen.mem (h : Chosen nameOf versionOf xs chosen) {x : α} (hx : x ∈ chosen) : x ∈ xs :=
  (mem_inGroup.mp (h.highest x hx).mem).1

theorem Chosen.nodup (h : Chosen nameOf versionOf xs chosen) : chosen.Nodup :=
  h.names.nodup.of_map _

/-- Without ties the order of the items has no part in what is chosen. -/
theorem Chosen.subset (h : Chosen nameOf versionOf xs chosen)
    (ho : Chosen nameOf versionOf ys others) (hperm : xs.Perm ys)
    (huntied : Untied nameOf versionOf xs) : chosen ⊆ others := by
  intro x hx
  have hsame := h.sameVersions ho hperm
  have hname : Text.lowercase (nameOf x) ∈ lowerNames nameOf others :=
    hsame.names.mem_iff.mp (List.mem_map_of_mem hx)
  obtain ⟨y, hy, hxy⟩ := List.mem_map.mp hname
  have hyxs : y ∈ xs := hperm.mem_iff.mpr (ho.mem hy)
  rwa [huntied.eq_of_even (h.mem hx) hyxs hxy.symm (hsame.versions x hx y hy hxy.symm)]

theorem Untied.perm (h : Untied nameOf versionOf xs) (hperm : xs.Perm ys) :
    Untied nameOf versionOf ys :=
  hperm.pairwise h fun hne hback heq => hne hback.symm (Std.OrientedCmp.eq_symm heq)

theorem Chosen.perm (h : Chosen nameOf versionOf xs chosen)
    (ho : Chosen nameOf versionOf ys others) (hperm : xs.Perm ys)
    (huntied : Untied nameOf versionOf xs) : chosen.Perm others :=
  (List.perm_ext_iff_of_nodup h.nodup ho.nodup).mpr fun _ =>
    ⟨fun hx => h.subset ho hperm huntied hx,
      fun hx => ho.subset h hperm.symm (huntied.perm hperm) hx⟩

/-! ### The files of the packages -/

namespace Resolved

/-- The same packages bring the same files, and of these the same versions are chosen. -/
theorem sameVersions_choose (look : Path → Option String) (filesOf : Dependency → List Path)
    {p q : List Dependency} (hperm : p.Perm q) :
    SameVersions Assembly.name Assembly.version
      (Assembly.choose (Assembly.ofFiles look filesOf p))
      (Assembly.choose (Assembly.ofFiles look filesOf q)) :=
  (settled_choose look filesOf p).chosen.sameVersions (settled_choose look filesOf q).chosen
    (hperm.flatMap_right _)

/-- **The order of the dependencies decides neither which assemblies there are nor which versions
they have**, as long as no package is there twice in versions that come out even.  Nor does it
decide which native libraries and scripts there are. -/
theorem ofContext_permuted (context other : List Dependency) (look : Path → Option String)
    (hlook : ∀ p q : Path, p.same q = true → look p = look q)
    (huntied : Untied Dependency.name Dependency.version context) (hperm : context.Perm other) :
    SameVersions Assembly.name Assembly.version (ofContext context look).runtime
      (ofContext other look).runtime ∧
    SameVersions Assembly.name Assembly.version (ofContext context look).compile
      (ofContext other look).compile ∧
    sameMembers Path.same (ofContext context look).native (ofContext other look).native = true ∧
    (ofContext context look).scripts.Perm (ofContext other look).scripts := by
  have hpackages : (choosePackages context).Perm (choosePackages other) :=
    (chosen_highestOfEach context).perm (chosen_highestOfEach other) hperm huntied
  refine ⟨?_, ?_, ?_, hpackages.flatMap_right _⟩
  · rw [runtime_ofContext context look hlook, runtime_ofContext other look hlook]
    exact sameVersions_choose look Dependency.runtime hpackages
  · rw [compile_ofContext context look hlook, compile_ofContext other look hlook]
    exact sameVersions_choose look Dependency.compile hpackages
  · refine (sameMembers_iff Path.compares_same).mpr fun k => ?_
    have hnative := (hpackages.flatMap_right Dependency.native).map Path.components
    exact ((mem_keys_insertAll Path.compares_same).trans (or_congr Iff.rfl hnative.mem_iff)).trans
      (mem_keys_insertAll Path.compares_same).symm

/-- Two packages with a file of one name, whose versions come out even, and an older one. -/
def evenFiles : List Dependency :=
  [⟨"Alpha", "2.0.0", [], [⟨"/alpha/2.0.0/Shared.dll"⟩], [⟨"/alpha/2.0.0/a.so"⟩], []⟩,
   ⟨"Beta", "2.0", [], [⟨"/beta/2.0/shared.dll"⟩], [], [⟨"/beta/2.0/main.csx"⟩]⟩,
   ⟨"alpha", "1.9", [], [⟨"/alpha/1.9/Old.dll"⟩], [⟨"/alpha/1.9/a.so"⟩], []⟩]

/-- With the first package last it is the other file, in an even version. -/
theorem ofContext_permuted_evenFiles :
    Untied Dependency.name Dependency.version evenFiles ∧ evenFiles.Perm (evenFiles.rotateLeft 1) ∧
    SameVersions Assembly.name Assembly.version (ofContext evenFiles fun _ => none).runtime
      (ofContext (evenFiles.rotateLeft 1) fun _ => none).runtime ∧
    ((ofContext evenFiles fun _ => none).runtime.map Assembly.path =
        [⟨"/alpha/2.0.0/Shared.dll"⟩]) ∧
    ((ofContext (evenFiles.rotateLeft 1) fun _ => none).runtime.map Assembly.path =
        [⟨"/beta/2.0/shared.dll"⟩]) := by
  have huntied : Untied Dependency.name Dependency.version evenFiles := by decide +kernel
  have hperm : evenFiles.Perm (evenFiles.rotateLeft 1) := by decide +kernel
  obtain ⟨hruntime, -⟩ := ofContext_permuted evenFiles (evenFiles.rotateLeft 1) (fun _ => none)
    (fun _ _ _ => rfl) huntied hperm
  exact ⟨huntied, hperm, hruntime, by decide +kernel, by decide +kernel⟩

end Resolved

end ScriptDeps
