/-
The manifest of a generated project.

A manifest holds what a graph of scripts needs from outside: packages, local assemblies
and one target framework.  The packages and the assemblies are sets, kept in the order of
their first mention.  Two manifests are the same when their sets have the same members
and their frameworks are equal texts; a restore may be reused for a manifest that is the
same as the restored one, provided that all its packages are pinned.
-/
import ScriptDeps.Reference

namespace ScriptDeps

/-- What a generated project refers to. -/
structure Manifest where
  packages : List PackageReference
  assemblies : List Path
  framework : String
  deriving DecidableEq, Repr

namespace Manifest

/-- The manifest without any reference. -/
def empty (framework : String) : Manifest :=
  ⟨[], [], framework⟩

def addPackage (m : Manifest) (r : PackageReference) : Manifest :=
  { m with packages := insertNew PackageReference.same m.packages r }

def addAssembly (m : Manifest) (p : Path) : Manifest :=
  { m with assemblies := insertNew Path.same m.assemblies p }

/-- The manifests ask for the same things. -/
def same (m n : Manifest) : Bool :=
  sameMembers PackageReference.same m.packages n.packages &&
    sameMembers Path.same m.assemblies n.assemblies &&
    m.framework == n.framework

/-- All packages are pinned, so a restore keeps its worth while the manifest stays. -/
def isCacheable (m : Manifest) : Bool :=
  m.packages.all PackageReference.isPinned

end Manifest

end ScriptDeps
