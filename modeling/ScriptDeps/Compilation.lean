/-
What a compiler is asked for.
-/
import ScriptDeps.Resolved

namespace ScriptDeps

/-- The files and references of one run of the compiler. -/
structure CompilationRequest where
  entry : Path
  /-- The scripts of the packages, then those that the entry brings in. -/
  scripts : List Path
  /-- The assemblies of the packages, then the local ones that are not among them. -/
  references : List Path
  framework : String
  deriving DecidableEq, Repr

namespace CompilationRequest

/-- The request for an entry script.  `graph` lists the scripts it brings in, itself among
them. -/
def of (entry : Path) (graph : List Path) (resolved : Resolved) (localAssemblies : List Path)
    (framework : String) : CompilationRequest :=
  { entry
    scripts := resolved.scripts ++ graph.filter (!·.same entry)
    references := insertAll Path.same resolved.compilePaths localAssemblies
    framework }

end CompilationRequest

end ScriptDeps
