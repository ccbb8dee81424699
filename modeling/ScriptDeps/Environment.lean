/-
The settings of a run.
-/
import ScriptDeps.Path

namespace ScriptDeps

/-- What a run is told about its machine and by its user. -/
structure Environment where
  /-- The runtime that packages are restored for. -/
  runtime : String
  /-- The framework of scripts that name none. -/
  framework : String
  /-- The directory of all generated projects. -/
  cacheRoot : Path
  /-- Package sources besides those that the restore tool knows. -/
  sources : List String
  /-- The name or path of the restore tool. -/
  tool : String
  /-- The longest time that a restore may take, in milliseconds, if there is a limit. -/
  limit : Option Nat
  deriving DecidableEq, Repr

namespace Environment

/-- The settings that hold unless a user changes them, on a machine of that runtime with that
directory for temporary files. -/
def standard (runtime : String) (temporary : Path) : Environment :=
  { runtime
    framework := "net8.0"
    cacheRoot := temporary.child "csx-host"
    sources := []
    tool := "dotnet"
    limit := some 600000 }

end Environment

end ScriptDeps
