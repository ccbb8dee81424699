/-
What a list of scripts needs from outside.

The packages and the assemblies of all scripts are united, and the first mention of each
is kept.  An assembly is named relative to the script that refers to it.  The framework
is that of the first script that names one.
-/
import ScriptDeps.Directive
import ScriptDeps.Failure
import ScriptDeps.Manifest
import ScriptDeps.Store

namespace ScriptDeps

/-- The packages, assemblies and framework that scripts ask for. -/
structure Needs where
  packages : List PackageReference
  assemblies : List Path
  framework : Option String
  deriving DecidableEq, Repr

namespace Needs

/-- No needs. -/
def empty : Needs :=
  ⟨[], [], none⟩

/-- The assemblies that a script with these directives refers to. -/
def assembliesOf (p : Path) (d : Directives) : List Path :=
  d.assemblies.map fun assembly => (p.parent?.getD ⟨""⟩).absolutize ⟨assembly⟩

/-- The needs together with those of one more script. -/
def add (needs : Needs) (p : Path) (d : Directives) : Needs :=
  { packages := insertAll PackageReference.same needs.packages d.packages
    assemblies := insertAll Path.same needs.assemblies (assembliesOf p d)
    framework := needs.framework.or d.framework }

/-- The needs together with those of the script at a path. -/
def addScript (s : Store) (needs : Needs) (p : Path) : Except Failure Needs :=
  match s.readText p with
  | .error fault => .error (.unreadableScript p fault)
  | .ok source => .ok (needs.add p (Directives.parse source))

/-- The needs of all scripts in the list. -/
def ofScripts (s : Store) (files : List Path) : Except Failure Needs :=
  files.foldlM (addScript s) empty

/-- The manifest for these needs, with a framework for scripts that name none. -/
def manifest (needs : Needs) (framework : String) : Manifest :=
  ⟨needs.packages, needs.assemblies, needs.framework.getD framework⟩

end Needs

end ScriptDeps
