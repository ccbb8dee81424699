/-
What manifests hold.

A manifest is put together from an empty one by adding references, or read from a file.
Either way it is proper: no two of its packages have one id and version without regard
to case, no two of its assemblies have one path, and ids and versions have no blanks
around them.  Two manifests are the same when their keys agree, so their order is
nothing that a cache could see.
-/
import ScriptDeps.Manifest
import ScriptDeps.Proofs.Distinct
import ScriptDeps.Proofs.Text.Trim

namespace ScriptDeps

/-! ### Keys of references -/

/-- What two mentions of one package agree in. -/
def PackageReference.key (r : PackageReference) : String × String :=
  (Text.asciiLower r.id, Text.asciiLower r.version.text)

theorem PackageReference.compares_same : Compares same key := by
  intro a b
  simp only [same, key, PackageVersion.same, Text.sameIgnoringCase, Bool.and_eq_true, beq_iff_eq,
    Prod.mk.injEq]

theorem Path.compares_same : Compares same components := by
  intro p q
  simp only [same, beq_iff_eq]

/-- Neither the id nor the version has blanks around it. -/
def PackageReference.IsTrimmed (r : PackageReference) : Prop :=
  PackageReference.of r.id r.version.text = r

theorem PackageReference.isTrimmed_of (id version : String) :
    (PackageReference.of id version).IsTrimmed := by
  simp [IsTrimmed, of, PackageVersion.ofText]

namespace Manifest

/-! ### Manifests with the same members -/

theorem same_iff {m n : Manifest} :
    m.same n = true ↔
      (∀ k, k ∈ m.packages.map PackageReference.key ↔ k ∈ n.packages.map PackageReference.key) ∧
      (∀ k, k ∈ m.assemblies.map Path.components ↔ k ∈ n.assemblies.map Path.components) ∧
      m.framework = n.framework := by
  rw [same, Bool.and_eq_true, Bool.and_eq_true, sameMembers_iff PackageReference.compares_same,
    sameMembers_iff Path.compares_same, beq_iff_eq, and_assoc]

@[simp] theorem same_refl (m : Manifest) : m.same m = true :=
  same_iff.mpr ⟨fun _ => Iff.rfl, fun _ => Iff.rfl, rfl⟩

theorem same_comm (m n : Manifest) : m.same n = n.same m := by
  rw [Bool.eq_iff_iff, same_iff, same_iff]
  constructor
  all_goals exact fun ⟨hp, ha, hf⟩ => ⟨fun k => (hp k).symm, fun k => (ha k).symm, hf.symm⟩

theorem same_trans {l m n : Manifest} (h1 : l.same m = true) (h2 : m.same n = true) :
    l.same n = true := by
  obtain ⟨hp1, ha1, hf1⟩ := same_iff.mp h1
  obtain ⟨hp2, ha2, hf2⟩ := same_iff.mp h2
  exact same_iff.mpr
    ⟨fun k => (hp1 k).trans (hp2 k), fun k => (ha1 k).trans (ha2 k), hf1.trans hf2⟩

/-- Manifests that are the same can stand for each other in a comparison. -/
theorem same_congr_left {l m : Manifest} (h : l.same m = true) (n : Manifest) :
    l.same n = m.same n := by
  rw [Bool.eq_iff_iff]
  exact ⟨same_trans (by rw [same_comm]; exact h), same_trans h⟩

/-- The manifests hold the same texts, perhaps in another order. -/
structure Reordered (m n : Manifest) : Prop where
  packages : m.packages.Perm n.packages
  assemblies : m.assemblies.Perm n.assemblies
  framework : m.framework = n.framework

theorem Reordered.same {m n : Manifest} (h : Reordered m n) : m.same n = true :=
  same_iff.mpr
    ⟨fun _ => (h.packages.map _).mem_iff, fun _ => (h.assemblies.map _).mem_iff, h.framework⟩

/-! ### Proper manifests -/

/-- The references are distinct, and those to packages are trimmed. -/
structure Proper (m : Manifest) : Prop where
  packages : (m.packages.map PackageReference.key).Nodup
  trimmed : ∀ r ∈ m.packages, r.IsTrimmed
  assemblies : (m.assemblies.map Path.components).Nodup

theorem proper_empty (framework : String) : (empty framework).Proper :=
  ⟨List.nodup_nil, by simp [empty], List.nodup_nil⟩

theorem Proper.addPackage {m : Manifest} (h : m.Proper) {r : PackageReference}
    (hr : r.IsTrimmed) : (m.addPackage r).Proper := by
  refine ⟨nodup_insertNew PackageReference.compares_same h.packages r, ?_, h.assemblies⟩
  intro s hs
  rcases mem_of_mem_insertNew hs with hs | rfl
  · exact h.trimmed s hs
  · exact hr

theorem Proper.addAssembly {m : Manifest} (h : m.Proper) (p : Path) : (m.addAssembly p).Proper :=
  ⟨h.packages, h.trimmed, nodup_insertNew Path.compares_same h.assemblies p⟩

/-! ### Manifests put together -/

/-- A reference to be added to a manifest, in any words. -/
inductive Addition where
  | package (id version : String)
  | assembly (path : String)
  deriving DecidableEq, Repr

def add (m : Manifest) : Addition → Manifest
  | .package id version => m.addPackage (.of id version)
  | .assembly path => m.addAssembly ⟨path⟩

/-- The manifest with a framework to which references are added in order. -/
def build (framework : String) (additions : List Addition) : Manifest :=
  additions.foldl add (empty framework)

theorem Proper.add {m : Manifest} (h : m.Proper) (x : Addition) : (m.add x).Proper := by
  cases x with
  | package id version => exact h.addPackage (PackageReference.isTrimmed_of id version)
  | assembly path => exact h.addAssembly ⟨path⟩

@[simp] theorem framework_add (m : Manifest) (x : Addition) : (m.add x).framework = m.framework := by
  cases x <;> rfl

theorem proper_foldl_add {m : Manifest} (h : m.Proper) (xs : List Addition) :
    (xs.foldl Manifest.add m).Proper := by
  induction xs generalizing m with
  | nil => exact h
  | cons x xs ih => exact ih (h.add x)

theorem proper_build (framework : String) (xs : List Addition) : (build framework xs).Proper :=
  proper_foldl_add (proper_empty framework) xs

theorem framework_foldl_add (m : Manifest) (xs : List Addition) :
    (xs.foldl Manifest.add m).framework = m.framework := by
  induction xs generalizing m with
  | nil => rfl
  | cons x xs ih => rw [List.foldl_cons, ih, framework_add]

@[simp] theorem framework_build (framework : String) (xs : List Addition) :
    (build framework xs).framework = framework :=
  framework_foldl_add (empty framework) xs

end Manifest

end ScriptDeps
