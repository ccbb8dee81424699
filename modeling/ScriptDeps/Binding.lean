/-
Assemblies that are asked for while a script runs.

A request names an assembly and perhaps a version.  It is redirected to the resolved
assembly of that name when it has no version or a lower one; all other requests are left
to the host.  A redirected request is answered with what the host has loaded under the
name, and only else from disk.
-/
import ScriptDeps.Resolved

namespace ScriptDeps

/-- A request for an assembly. -/
structure AssemblyRequest where
  name : String
  version : Option Version
  deriving DecidableEq, Repr

/-- A process that runs scripts: what it has loaded under a name, and how it loads a file.
`σ` is its state, and `α` what it has for a loaded assembly. -/
structure Host (σ α : Type) where
  loaded? : σ → String → Option α
  load : σ → Path → σ × Except Failure α

namespace Resolved

/-- The assembly that a request is redirected to. -/
def redirect (r : Resolved) (request : AssemblyRequest) : Option Assembly :=
  match r.find? request.name, request.version with
  | none, _ => none
  | some a, none => some a
  | some a, some requested =>
    match Version.ofText? a.version with
    | some version => if version.compare requested == .gt then some a else none
    | none => none

/-- The answer to a request, and the host after it. -/
def bind (r : Resolved) (host : Host σ α) (now : σ) (request : AssemblyRequest) :
    σ × Except Failure (Option α) :=
  match r.redirect request with
  | none => (now, .ok none)
  | some a =>
    match host.loaded? now a.name with
    | some assembly => (now, .ok (some assembly))
    | none =>
      let (next, result) := host.load now a.path
      (next, result.map some)

end Resolved

end ScriptDeps
