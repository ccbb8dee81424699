/-
The graph of scripts.

A script loads other scripts, which it names relative to its own directory.  The graph of
some entries is the list of all scripts that loading reaches from them, each once, in
depth-first order: a script comes before what it loads, and all that its first load
brings in comes before its second.  A script that cannot be read makes the whole graph
fail.

The walk keeps the scripts still to visit on a stack.  A script that was visited before
costs one step, and every other one puts its loads onto the stack, so the number of steps
is bounded by the entries and the loads of all files together.
-/
import ScriptDeps.Directive
import ScriptDeps.Failure
import ScriptDeps.Store

namespace ScriptDeps.ScriptGraph

/-- The scripts that a script with this text loads, as seen from its directory. -/
def targets (p : Path) (source : String) : List Path :=
  (Directives.parse source).loads.map fun load => (p.parent?.getD ⟨"/"⟩).absolutize ⟨load⟩

/-- The walk through the scripts on the stack, for at most `steps` steps; `seen` holds the
scripts visited before. -/
def walk (s : Store) : Nat → List Path → List Path → Except Failure (List Path)
  | _, [], seen => .ok seen
  | 0, _ :: _, seen => .ok seen
  | steps + 1, p :: stack, seen =>
    if seen.any p.same then walk s steps stack seen
    else
      match s.readText p with
      | .error fault => .error (.unreadableScript p fault)
      | .ok source => walk s steps (targets p source ++ stack) (seen ++ [p])

/-- The number of scripts that a file loads. -/
def loadCount : Node → Nat
  | .directory => 0
  | .file content _ =>
    match String.fromUTF8? content with
    | some source => (Directives.parse source).loads.length
    | none => 0

/-- A number of steps that is enough for every walk from that many entries. -/
def enough (s : Store) (entryCount : Nat) : Nat :=
  s.entries.foldr (fun e steps => loadCount e.2 + steps) entryCount

/-- The scripts that loading reaches from the entries. -/
def ofEntries (s : Store) (entries : List Path) : Except Failure (List Path) :=
  let start := Store.pathOf s.cwd
  walk s (enough s entries.length) (entries.map start.absolutize) []

end ScriptDeps.ScriptGraph
