/-
Restoring with a tool.

The tool is a program that is told the manifest, the runtime and the sources.  It works on
a machine that has it and on which it can tell its version.
-/
import ScriptDeps.Environment
import ScriptDeps.Execution
import ScriptDeps.Restore

namespace ScriptDeps

/-- A restore tool and how it is run. -/
structure Tool where
  /-- Its name or its path. -/
  program : String
  runtime : String
  /-- The longest time that it may take, in milliseconds. -/
  limit : Option Nat
  deriving DecidableEq, Repr

namespace Tool

/-- The tool that the settings name. -/
def ofEnvironment (env : Environment) : Tool :=
  ⟨env.tool, env.runtime, env.limit⟩

/-- The arguments for restoring a manifest. -/
def arguments (t : Tool) (manifest : Path) (sources : List String) : List String :=
  ["restore", manifest.text, "-r", t.runtime] ++
    sources.flatMap fun source => ["--source", source]

/-! ### Finding the tool -/

/-- The text of a component. -/
def componentText : Component → String
  | .root => "/"
  | .here => "."
  | .up => ".."
  | .name n => n

/-- A path of several components as seen from a directory. -/
def fromDirectory (dir p : Path) : Path :=
  if p.isAbsolute then p
  else (p.components.dropWhile (· == .here)).foldl (fun dir c => dir.child (componentText c)) dir

/-- The same for a path on the search path, where a slash at the end stays. -/
def fromSearched (dir p : Path) : Path :=
  let q := fromDirectory dir p
  if p.chars.getLast? == some '/' && q.chars.getLast? != some '/' then
    Path.ofChars (q.chars ++ ['/'])
  else q

/-- A path with the home directory in the place of a tilde that is its first name. -/
def withHome (home p : Path) : Path :=
  match p.components with
  | .name "~" :: rest => rest.foldl (fun dir c => dir.child (componentText c)) home
  | _ => p

/-- Where the tool may stand: the path itself, or a place in each directory of the search
path. -/
def places (t : Tool) (vars : List (String × String)) (cwd : Path) : List Path :=
  let p : Path := ⟨t.program⟩
  let home : Path := ⟨(vars.lookup "HOME").getD ""⟩
  if t.program.isEmpty then []
  else if 1 < p.components.length then [fromDirectory cwd p]
  else
    (Text.splitOn ':' (Execution.searchPath vars).toList).map fun dir =>
      fromSearched cwd ((withHome home (Path.ofChars dir)).child t.program)

/-- Where the tool stands, if the machine has it. -/
def find? (t : Tool) (m : Machine) : Option Path :=
  (t.places m.vars (Store.pathOf m.store.cwd)).find? (Shell.Program.isProgram m.store.lookup)

/-! ### Running the tool -/

/-- Runs a program on the machine, whose output is heard or not. -/
def run (program : Path) (args : List String) (dir : Option Path) (heard : Bool)
    (limit : Option Nat) : StateM Machine (Except Fault Captured) := do
  let m ← get
  match Execution.run m.store m.vars program.text args dir heard limit with
  | .error fault => return .error fault
  | .ok (captured, store) =>
    set { m with store }
    return .ok captured

/-- The machine has the tool, and the tool tells its version. -/
def answers (t : Tool) : StateM Machine Bool := do
  match t.find? (← get) with
  | none => return false
  | some p =>
    match ← run p ["--version"] none false none with
    | .ok captured => return captured.isSuccess
    | .error _ => return false

/-- Restores a manifest, in the directory where it stands. -/
def restore (t : Tool) (manifest : Path) (sources : List String) : Job Outcome := do
  let p := (t.find? (← get)).getD ⟨t.program⟩
  match ← run p (t.arguments manifest sources) manifest.parent? true t.limit with
  | .error fault =>
    throw (.restoreFailed manifest ("failed to run " ++ p.text ++ ": " ++ fault.message))
  | .ok captured =>
    if captured.timedOut then throw (.restoreTimeout manifest (t.limit.getD 0))
    else if captured.isSuccess then return .restored
    else throw (.restoreFailed manifest captured.output)

/-- The tool as a restorer. -/
def restorer (t : Tool) : Restorer where
  canRestore := t.answers
  restore := t.restore

end Tool

namespace Restorer

/-- The restorer of the settings: their tool, with the cache or without. -/
def standard (env : Environment) (useCache : Bool) : Restorer :=
  let first := firstAvailable [(Tool.ofEnvironment env).restorer]
  if useCache then cached first else first

end Restorer

end ScriptDeps
