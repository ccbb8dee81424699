/-
Which runtimes can stand in for which.

A runtime imports more general ones, whose assets it can use too.  The chain of a runtime
lists all that its imports lead to, the nearest first, and at its end always `any`, which
every runtime can use.  Packages may bring further imports: `merge` adds them behind the
known ones.
-/
import ScriptDeps.Dictionary
import ScriptDeps.Distinct
import ScriptDeps.Json.Reader

namespace ScriptDeps

/-- The imports of each runtime, in the order in which they are tried. -/
structure RuntimeGraph where
  imports : Dictionary (List String)
  deriving DecidableEq, Repr, Inhabited

namespace RuntimeGraph

/-- The graph that knows no runtime. -/
def empty : RuntimeGraph :=
  ⟨[]⟩

/-- What a runtime imports. -/
def importsOf (g : RuntimeGraph) (runtime : String) : List String :=
  (g.imports.get? runtime).getD []

/-- The runtimes that are known without any package. -/
def known : RuntimeGraph :=
  ⟨.ofEntries
    [("any", []),
      ("win", ["any"]),
      ("win-x86", ["win"]),
      ("win-x64", ["win"]),
      ("win-arm64", ["win"]),
      ("win7", ["win"]),
      ("win7-x64", ["win7", "win-x64"]),
      ("win10", ["win"]),
      ("win10-x64", ["win10", "win-x64"]),
      ("win10-arm64", ["win10", "win-arm64"]),
      ("unix", ["any"]),
      ("unix-x64", ["unix"]),
      ("unix-arm", ["unix"]),
      ("unix-arm64", ["unix"]),
      ("linux", ["unix"]),
      ("linux-x64", ["linux", "unix-x64"]),
      ("linux-arm", ["linux", "unix-arm"]),
      ("linux-arm64", ["linux", "unix-arm64"]),
      ("linux-musl", ["linux"]),
      ("linux-musl-x64", ["linux-musl", "linux-x64"]),
      ("linux-musl-arm64", ["linux-musl", "linux-arm64"]),
      ("osx", ["unix"]),
      ("osx-x64", ["osx", "unix-x64"]),
      ("osx-arm64", ["osx", "unix-arm64"]),
      ("freebsd", ["unix"]),
      ("freebsd-x64", ["freebsd", "unix-x64"])]⟩

/-! ### Merging -/

/-- The graph with imports added to one runtime, behind those it has. -/
def addImports (g : RuntimeGraph) (runtime : String) (more : List String) : RuntimeGraph :=
  ⟨g.imports.insert runtime (insertAll (· == ·) (g.importsOf runtime) more)⟩

/-- The graph with the imports of another added. -/
def merge (g h : RuntimeGraph) : RuntimeGraph :=
  h.imports.foldl (fun g (runtime, more) => g.addImports runtime more) g

/-! ### Chains -/

/-- The walk through the runtimes that wait in line, for at most `steps` steps; `seen` holds
those visited before. -/
def visit (g : RuntimeGraph) : Nat → List String → List String → List String
  | _, [], seen => seen
  | 0, _ :: _, seen => seen
  | steps + 1, r :: line, seen =>
    if seen.contains r then g.visit steps line seen
    else g.visit steps (line ++ g.importsOf r) (seen ++ [r])

/-- A number of steps that is enough for every walk from one runtime: a step for it and one
for every import of the graph. -/
def enough (g : RuntimeGraph) : Nat :=
  g.imports.foldr (fun line steps => line.2.length + steps) 1

/-- The runtimes whose assets a runtime can use, the nearest first. -/
def expand (g : RuntimeGraph) (runtime : String) : List String :=
  (g.visit g.enough [runtime] []).filter (· != "any") ++ ["any"]

/-! ### Reading -/

/-- The imports in the description of one runtime. -/
def importsIn? (j : Json) : Option (List String) := do
  match ← j.fields? ["#import"] with
  | [imports] => imports |> Json.orElse [] fun j => do (← j.items?).mapM Json.text?
  | _ => none

/-- The graph in the description of a package. -/
def ofJson? (j : Json) : Option RuntimeGraph := do
  match ← j.fields? ["runtimes"] with
  | [runtimes] =>
    let entries ← runtimes |> Json.orElse [] fun j => do
      (← j.members?).mapM fun (runtime, j) => (importsIn? j).map fun imports => (runtime, imports)
    some ⟨.ofEntries entries⟩
  | _ => none

/-- The graph that a package describes in a text. -/
def parse? (text : String) : Option RuntimeGraph :=
  (Json.parse? text).bind ofJson?

end RuntimeGraph

end ScriptDeps
