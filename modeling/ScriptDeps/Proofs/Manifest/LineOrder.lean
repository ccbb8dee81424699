/-
The order of the lines of a written manifest.

The packages and the assemblies of a manifest are sets, whose members come in any order.  What is
written does not show it: the lines are sorted, and no two members of a set belong in one place.
For packages that hangs on when two of them are one.  They are if they differ in nothing but the
case of the id and the version, and the lines are sorted by the id without its case and by the
version as it is spelled, so members of a set are always told apart.

So manifests with the same members are written as the same text, and in that every line belongs
strictly before the next.
-/
import ScriptDeps.Proofs.Manifest.RoundTrip

namespace ScriptDeps

open Std

/-! ### Comparing components and paths -/

/-- The text of a name.  Other components have none. -/
def Component.text : Component → String
  | .name text => text
  | _ => ""

theorem Component.compare_eq : compare = compareLex (compareOn rank) (compareOn text) := by
  funext a b
  cases a <;> cases b <;> rfl

instance transCmp_component : TransCmp Component.compare := by
  rw [Component.compare_eq]
  infer_instance

instance lawfulEqCmp_component : LawfulEqCmp Component.compare where
  compare_self := ReflCmp.compare_self
  eq_of_compare {a b} h := by
    -- of one kind, and names with one text
    rw [Component.compare_eq, compareLex, Ordering.then_eq_eq] at h
    have hrank : a.rank = b.rank := LawfulEqOrd.eq_of_compare h.1
    have htext : a.text = b.text := LawfulEqOrd.eq_of_compare h.2
    cases a <;> cases b <;> simp_all [Component.rank, Component.text]

theorem Path.compareComponents_eq : compareComponents = List.compareLex Component.compare := by
  funext as bs
  induction as generalizing bs with
  | nil =>
      cases bs with
      | nil => rw [compareComponents, List.compareLex_nil_nil]
      | cons b bs => rw [compareComponents, List.compareLex_nil_cons]
  | cons a as ih =>
      cases bs with
      | nil => rw [compareComponents, List.compareLex_cons_nil]
      | cons b bs => rw [compareComponents, List.compareLex_cons_cons, ih]

instance transCmp_path : TransCmp Path.compare where
  eq_swap := by
    unfold Path.compare
    rw [Path.compareComponents_eq]
    exact OrientedCmp.eq_swap
  isLE_trans := by
    unfold Path.compare
    rw [Path.compareComponents_eq]
    exact TransCmp.isLE_trans

/-- Paths come out even exactly if they are the same. -/
theorem Path.compare_eq_eq_iff {p q : Path} :
    p.compare q = .eq ↔ p.components = q.components := by
  rw [compare, compareComponents_eq, LawfulEqCmp.compare_eq_iff_eq]

/-! ### Comparing packages -/

namespace PackageReference

/-- By id without its case, and then by version. -/
def compareLines : PackageReference → PackageReference → Ordering :=
  compareLex (compareOn fun r => Text.asciiLower r.id) (compareOn fun r => r.version.text)

instance transCmp_compareLines : TransCmp compareLines :=
  inferInstanceAs (TransCmp (compareLex _ _))

/-- The id without its case is lower, or it is the same one and the version is lower. -/
def Before (a b : PackageReference) : Prop :=
  Text.asciiLower a.id < Text.asciiLower b.id ∨
    Text.asciiLower a.id = Text.asciiLower b.id ∧ a.version.text < b.version.text

theorem compareLines_eq_lt_iff {a b : PackageReference} :
    compareLines a b = .lt ↔ a.Before b := by
  have hlt : ∀ s t : String, Ord.compare s t = .lt ↔ s < t := fun _ _ => compareOfLessAndEq_eq_lt
  have heq : ∀ s t : String, Ord.compare s t = .eq ↔ s = t := fun _ _ =>
    LawfulEqOrd.compare_eq_iff_eq
  rw [compareLines, compareLex, Ordering.then_eq_lt, compareOn, compareOn, hlt, heq, hlt]
  rfl

/-- Packages that come out even are one package. -/
theorem key_eq_of_compareLines {a b : PackageReference} (h : compareLines a b = .eq) :
    a.key = b.key := by
  rw [compareLines, compareLex, Ordering.then_eq_eq] at h
  have hid : Text.asciiLower a.id = Text.asciiLower b.id := LawfulEqOrd.eq_of_compare h.1
  have hversion : a.version.text = b.version.text := LawfulEqOrd.eq_of_compare h.2
  rw [key, key, hid, hversion]

end PackageReference

/-! ### Sorted sets -/

section Sorted

variable {α κ : Type} {cmp : α → α → Ordering} [TransCmp cmp] {key : α → κ} {xs ys : List α}

/-- Items of different keys are strictly in order when they are sorted, if the order tells keys
apart. -/
theorem pairwise_mergeSort_lt (hkey : ∀ a b, cmp a b = .eq → key a = key b)
    (hxs : (xs.map key).Nodup) :
    (xs.mergeSort fun a b => (cmp a b).isLE).Pairwise fun a b => cmp a b = .lt := by
  have hsorted : (xs.mergeSort fun a b => (cmp a b).isLE).Pairwise fun a b =>
      (cmp a b).isLE = true := by
    refine List.pairwise_mergeSort (fun _ _ _ => TransCmp.isLE_trans) (fun a b => ?_) xs
    have hswap : cmp b a = (cmp a b).swap := OrientedCmp.eq_swap
    rw [hswap]
    cases cmp a b <;> rfl
  have hapart : (xs.mergeSort fun a b => (cmp a b).isLE).Pairwise fun a b => key a ≠ key b :=
    List.pairwise_map.mp (((List.mergeSort_perm xs _).map key).nodup_iff.mpr hxs)
  refine hsorted.imp₂ (fun a b hle hne => ?_) hapart
  exact (Ordering.isLE_iff_eq_lt_or_eq_eq.mp hle).resolve_right fun heq => hne (hkey a b heq)

/-- Sets with the same members are sorted into one list. -/
theorem mergeSort_eq_of_mem_iff (hkey : ∀ a b, cmp a b = .eq → key a = key b)
    (hxs : (xs.map key).Nodup) (hys : (ys.map key).Nodup) (hmem : ∀ x, x ∈ xs ↔ x ∈ ys) :
    xs.mergeSort (fun a b => (cmp a b).isLE) = ys.mergeSort fun a b => (cmp a b).isLE := by
  have hperm : xs.Perm ys := (List.perm_ext_iff_of_nodup hxs.of_map hys.of_map).mpr hmem
  refine List.Perm.eq_of_pairwise (fun a b _ _ hab hba => ?_) (pairwise_mergeSort_lt hkey hxs)
    (pairwise_mergeSort_lt hkey hys)
    ((List.mergeSort_perm xs _).trans (hperm.trans (List.mergeSort_perm ys _).symm))
  have hswap : cmp b a = (cmp a b).swap := OrientedCmp.eq_swap
  rw [hswap, hab] at hba
  contradiction

end Sorted

namespace Manifest

theorem packageLe_eq : packageLe = fun a b => (a.compareLines b).isLE := rfl

theorem assemblyLe_eq : assemblyLe = fun p q => (p.compare q).isLE := rfl

/-! ### What a text lists -/

/-- The packages that a text lists, in its order. -/
def packagesIn (text : String) : List PackageReference :=
  (tags "PackageReference".toList text.toList).filterMap packageOf?

/-- The assemblies that a text lists, in its order. -/
def assembliesIn (text : String) : List Path :=
  (tags "Reference".toList text.toList).filterMap assemblyOf?

variable {m n : Manifest}

theorem packagesIn_render (h : m.Proper) : packagesIn m.render = m.packages.mergeSort packageLe := by
  have htext : m.render.toList = m.lines.flatMap (· ++ ['\n']) := String.toList_ofList
  rw [packagesIn, htext, filterMap_tags_package m h]

theorem assembliesIn_render (m : Manifest) :
    assembliesIn m.render = m.assemblies.mergeSort assemblyLe := by
  have htext : m.render.toList = m.lines.flatMap (· ++ ['\n']) := String.toList_ofList
  rw [assembliesIn, htext, filterMap_tags_assembly m]

/-- **Manifests with the same members are written as the same text**, in whatever order their
members come, and the text lists exactly the members, each strictly before the next: packages by
id without its case and then by version, and assemblies by path. -/
theorem render_canonical (hm : m.Proper) (hn : n.Proper) (hframework : m.framework = n.framework)
    (hpackages : ∀ r, r ∈ m.packages ↔ r ∈ n.packages)
    (hassemblies : ∀ p, p ∈ m.assemblies ↔ p ∈ n.assemblies) :
    m.render = n.render ∧
      (packagesIn m.render).Perm m.packages ∧
      (packagesIn m.render).Pairwise PackageReference.Before ∧
      (assembliesIn m.render).Perm m.assemblies ∧
      (assembliesIn m.render).Pairwise fun p q => p.compare q = .lt := by
  have hpackage : ∀ a b : PackageReference, a.compareLines b = .eq → a.key = b.key :=
    fun _ _ => PackageReference.key_eq_of_compareLines
  have hassembly : ∀ p q : Path, p.compare q = .eq → p.components = q.components :=
    fun _ _ => Path.compare_eq_eq_iff.mp
  refine ⟨?_, ?_, ?_, ?_, ?_⟩
  · rw [render, render, lines, lines, hframework, packageLe_eq, assemblyLe_eq,
      mergeSort_eq_of_mem_iff hpackage hm.packages hn.packages hpackages,
      mergeSort_eq_of_mem_iff hassembly hm.assemblies hn.assemblies hassemblies]
  · rw [packagesIn_render hm]
    exact List.mergeSort_perm _ _
  · rw [packagesIn_render hm, packageLe_eq]
    exact (pairwise_mergeSort_lt hpackage hm.packages).imp
      PackageReference.compareLines_eq_lt_iff.mp
  · rw [assembliesIn_render]
    exact List.mergeSort_perm _ _
  · rw [assembliesIn_render, assemblyLe_eq]
    exact pairwise_mergeSort_lt hassembly hm.assemblies

/-- One package in two versions, and paths with names that begin alike. -/
def severalReferences : Manifest :=
  ⟨[.of "moq" "4.14.5", .of "Moq" "4.0.0", .of "Dapper" "2.0.0"],
    [⟨"/lib-a/One.dll"⟩, ⟨"/lib/One.dll"⟩], "net8.0"⟩

/-- The same, as they come in another order. -/
def severalReordered : Manifest :=
  ⟨[.of "Dapper" "2.0.0", .of "moq" "4.14.5", .of "Moq" "4.0.0"],
    [⟨"/lib/One.dll"⟩, ⟨"/lib-a/One.dll"⟩], "net8.0"⟩

theorem proper_severalReferences : severalReferences.Proper :=
  ⟨by decide +kernel, by
    simp only [severalReferences, List.forall_mem_cons, List.not_mem_nil, false_implies,
      implies_true, PackageReference.isTrimmed_of, and_self], by decide +kernel⟩

theorem proper_severalReordered : severalReordered.Proper :=
  ⟨by decide +kernel, by
    simp only [severalReordered, List.forall_mem_cons, List.not_mem_nil, false_implies,
      implies_true, PackageReference.isTrimmed_of, and_self], by decide +kernel⟩

theorem render_canonical_severalReferences :
    severalReferences.Proper ∧ severalReordered.Proper ∧
      severalReferences.framework = severalReordered.framework ∧
      severalReferences.packages.Perm severalReordered.packages ∧
      severalReferences.assemblies.Perm severalReordered.assemblies ∧
      severalReferences.render = severalReordered.render ∧
      (packagesIn severalReferences.render).Pairwise PackageReference.Before := by
  have hpackages : severalReferences.packages.Perm severalReordered.packages := by decide +kernel
  have hassemblies : severalReferences.assemblies.Perm severalReordered.assemblies := by
    decide +kernel
  obtain ⟨hrender, -, hbefore, -⟩ := render_canonical proper_severalReferences
    proper_severalReordered rfl (fun _ => hpackages.mem_iff) (fun _ => hassemblies.mem_iff)
  exact ⟨proper_severalReferences, proper_severalReordered, rfl, hpackages, hassemblies, hrender,
    hbefore⟩

end Manifest

end ScriptDeps
