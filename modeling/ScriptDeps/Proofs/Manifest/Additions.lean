/-
What a manifest keeps of the references that were added to it.

References come in any order, more than once, and in letters of either case.  A manifest keeps
the first of each class, as it was spelled then, so what it holds hangs on the classes of what
was added and on nothing else.  Two manifests are the same exactly if they were given references
of the same classes and have one framework.

Sets of references are looked through by their hashes.  That finds what is to be found, since
references of one class feed a hasher with the same bytes.
-/
import ScriptDeps.Proofs.Manifest.Members

namespace ScriptDeps

namespace PackageReference

theorem same_iff_key_eq {a b : PackageReference} : a.same b = true ↔ a.key = b.key :=
  compares_same a b

/-- To be the same is to have one key, so it sorts references into classes. -/
theorem equivalence_same : Equivalence fun a b : PackageReference => a.same b = true where
  refl _ := same_iff_key_eq.mpr rfl
  symm h := same_iff_key_eq.mpr (same_iff_key_eq.mp h).symm
  trans h₁ h₂ := same_iff_key_eq.mpr ((same_iff_key_eq.mp h₁).trans (same_iff_key_eq.mp h₂))

theorem hashed_eq_of_same {a b : PackageReference} (h : a.same b = true) :
    a.hashed = b.hashed := by
  obtain ⟨hid, hversion⟩ := Prod.mk.inj (same_iff_key_eq.mp h)
  unfold hashed PackageVersion.hashed
  rw [hid, hversion]

end PackageReference

namespace Manifest

/-! ### What was added -/

/-- The package that an addition refers to. -/
def Addition.package? : Addition → Option PackageReference
  | .package id version => some (.of id version)
  | .assembly _ => none

/-- The assembly that an addition refers to. -/
def Addition.assembly? : Addition → Option Path
  | .package _ _ => none
  | .assembly path => some ⟨path⟩

/-- The packages among additions, in order. -/
def packagesOf (xs : List Addition) : List PackageReference :=
  xs.filterMap Addition.package?

/-- The assemblies among additions, in order. -/
def assembliesOf (xs : List Addition) : List Path :=
  xs.filterMap Addition.assembly?

theorem packages_foldl_add (m : Manifest) (xs : List Addition) :
    (xs.foldl add m).packages = insertAll PackageReference.same m.packages (packagesOf xs) := by
  induction xs generalizing m with
  | nil => rfl
  | cons x xs ih =>
      rw [List.foldl_cons, ih]
      cases x <;> rfl

theorem assemblies_foldl_add (m : Manifest) (xs : List Addition) :
    (xs.foldl add m).assemblies = insertAll Path.same m.assemblies (assembliesOf xs) := by
  induction xs generalizing m with
  | nil => rfl
  | cons x xs ih =>
      rw [List.foldl_cons, ih]
      cases x <;> rfl

/-- A manifest holds the first package of each class that was added. -/
theorem keepsFirst_packages (framework : String) (xs : List Addition) :
    KeepsFirst PackageReference.same (packagesOf xs) (build framework xs).packages := by
  unfold build
  rw [packages_foldl_add]
  exact keepsFirst_insertAll PackageReference.compares_same _

/-- And the first assembly of each class. -/
theorem keepsFirst_assemblies (framework : String) (xs : List Addition) :
    KeepsFirst Path.same (assembliesOf xs) (build framework xs).assemblies := by
  unfold build
  rw [assemblies_foldl_add]
  exact keepsFirst_insertAll Path.compares_same _

/-! ### Manifests compared -/

/-- The manifests have as many references of either kind, and those of the one are found in the
other. -/
def sameByCount (m n : Manifest) : Bool :=
  (m.packages.length == n.packages.length && m.packages.all fun r => n.packages.any r.same) &&
    (m.assemblies.length == n.assemblies.length &&
      m.assemblies.all fun p => n.assemblies.any p.same) &&
    m.framework == n.framework

/-- Where no class is there twice, it is enough to count the references and to look those of the
one up in the other. -/
theorem same_eq_sameByCount {m n : Manifest} (hm : m.Proper) (hn : n.Proper) :
    m.same n = m.sameByCount n := by
  rw [same, sameByCount,
    sameMembers_eq_of_nodup PackageReference.compares_same hm.packages hn.packages,
    sameMembers_eq_of_nodup Path.compares_same hm.assemblies hn.assemblies]

/-- **Sets of references keep the first of each class, and manifests are the same exactly if their
frameworks are one text and each reference that was added to the one is the same as one that was
added to the other**, however they are compared. -/
theorem build_keepsFirst :
    (Equivalence fun a b : PackageReference => a.same b = true) ∧
    (∀ a b : PackageReference, a.same b = true → a.hashed = b.hashed) ∧
    (∀ (hash : List UInt8 → UInt64) (set : List PackageReference) (r : PackageReference),
      (set.filter fun s => hash s.hashed = hash r.hashed).any r.same = set.any r.same) ∧
    (∀ framework xs,
      KeepsFirst PackageReference.same (packagesOf xs) (build framework xs).packages ∧
        KeepsFirst Path.same (assembliesOf xs) (build framework xs).assemblies) ∧
    ∀ framework framework' xs ys,
      (build framework xs).same (build framework' ys) =
          (build framework xs).sameByCount (build framework' ys) ∧
        ((build framework xs).same (build framework' ys) = true ↔ framework = framework' ∧
          ((∀ r ∈ packagesOf xs, ∃ s ∈ packagesOf ys, r.same s = true) ∧
            ∀ s ∈ packagesOf ys, ∃ r ∈ packagesOf xs, s.same r = true) ∧
          ((∀ p ∈ assembliesOf xs, ∃ q ∈ assembliesOf ys, p.same q = true) ∧
            ∀ q ∈ assembliesOf ys, ∃ p ∈ assembliesOf xs, q.same p = true)) := by
  have hhashed : ∀ a b : PackageReference, a.same b = true → a.hashed = b.hashed :=
    fun _ _ => PackageReference.hashed_eq_of_same
  refine ⟨PackageReference.equivalence_same, hhashed, fun hash set r => ?_,
    fun framework xs => ⟨keepsFirst_packages framework xs, keepsFirst_assemblies framework xs⟩, ?_⟩
  · exact any_same_of_hash (fun a b h => congrArg hash (hhashed a b h)) set r
  · intro framework framework' xs ys
    have hpackages := (keepsFirst_packages framework xs).sameMembers_eq
      PackageReference.compares_same (keepsFirst_packages framework' ys)
    have hassemblies := (keepsFirst_assemblies framework xs).sameMembers_eq
      Path.compares_same (keepsFirst_assemblies framework' ys)
    refine ⟨same_eq_sameByCount (proper_build framework xs) (proper_build framework' ys), ?_⟩
    rw [same, hpackages, hassemblies, Bool.and_eq_true, Bool.and_eq_true, beq_iff_eq,
      sameMembers_eq_true_iff, sameMembers_eq_true_iff, framework_build, framework_build]
    tauto

example : (build "net8.0" [.package "A" "1.0.0", .package "a" "1.0.0", .package "B" "2.0.0"]).same
    (build "net8.0" [.package "B" "2.0.0", .package "a" "1.0.0"]) = true := by
  decide +kernel

end Manifest

end ScriptDeps
