/-
Native libraries, which are loaded before a script runs.

A library that was loaded stays so, and is not loaded again.  Loading several stops at the
first that does not load, and keeps those before it.
-/
import ScriptDeps.Resolved

namespace ScriptDeps

/-- A family of operating systems. -/
inductive System where
  | windows
  | linux
  | macos
  | other
  deriving DecidableEq, Repr

namespace System

/-- Native libraries can be loaded. -/
def loadsNative : System → Bool
  | .other => false
  | _ => true

end System

/-- The native libraries loaded so far, in order. -/
structure NativeLibraries where
  system : System
  loaded : List Path
  deriving DecidableEq, Repr

namespace NativeLibraries

/-- None are loaded. -/
def none (system : System) : NativeLibraries :=
  ⟨system, []⟩

def isLoaded (n : NativeLibraries) (p : Path) : Bool :=
  n.loaded.any (·.same p)

/-- Loads those paths that are not loaded, where `loads` says which of them can be: the
libraries after it, and the number of new ones. -/
def loadPaths (loads : Path → Bool) : NativeLibraries → List Path →
    NativeLibraries × Except Failure Nat
  | n, [] => (n, .ok 0)
  | n, p :: rest =>
    if n.isLoaded p then loadPaths loads n rest
    else if loads p then
      let (after, count) := loadPaths loads { n with loaded := n.loaded ++ [p] } rest
      (after, count.map (· + 1))
    else (n, .error (.nativeLoad p))

/-- Loads the native libraries of a resolution. -/
def load (loads : Path → Bool) (n : NativeLibraries) (r : Resolved) :
    NativeLibraries × Except Failure Nat :=
  if n.system.loadsNative then n.loadPaths loads r.native else (n, .ok 0)

end NativeLibraries

end ScriptDeps
