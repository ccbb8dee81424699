/-
The commands of the command line.

A command gives a report: what it shows, its exit code, and the text of its failure.  What
was shown before a failure stays shown.
-/
import ScriptDeps.CommandLine.Arguments
import ScriptDeps.Json
import ScriptDeps.Project
import ScriptDeps.Restore.Tool

namespace ScriptDeps.CommandLine

/-- A part of what a command shows. -/
inductive Shown where
  | text (s : String)
  /-- The seconds that the command has taken so far. -/
  | seconds
  deriving DecidableEq, Repr

/-- What a command leaves behind. -/
structure Report where
  shown : List Shown
  /-- The text of the failure, if the command failed. -/
  failure : Option String
  deriving DecidableEq, Repr

namespace Report

def success (shown : List Shown) : Report :=
  ⟨shown, none⟩

/-- A failure after something was shown. -/
def failed (shown : List Shown) (f : Failure) : Report :=
  ⟨shown, some f.report⟩

end Report

/-! ### Text -/

namespace Style

def reset : String :=
  "\x1b[0m"

def bold : String :=
  "\x1b[1m"

def dim : String :=
  "\x1b[2m"

def green : String :=
  "\x1b[32m"

def yellow : String :=
  "\x1b[33m"

def cyan : String :=
  "\x1b[36m"

/-- A text in a style. -/
def styled (style text : String) : String :=
  style ++ text ++ reset

end Style

open Style

def line (s : String) : String :=
  s ++ "\n"

/-- A line further in. -/
def item (s : String) : String :=
  line ("  " ++ s)

/-- A heading with its items, or nothing if there are none. -/
def section_ (title : String) (items : List String) : String :=
  if items.isEmpty then ""
  else line (styled bold (title ++ ":")) ++ String.join (items.map item)

/-! ### Graph -/

/-- The scripts of a graph, the entry first and the others further in. -/
def graphText : List Path → String
  | [] => ""
  | entry :: rest => line (styled bold entry.text) ++ String.join (rest.map (item ·.text))

/-- What the scripts need, each kind set off by an empty line. -/
def needsText (needs : Needs) : String :=
  let packages := (needs.packages.map PackageReference.display).mergeSort fun a b => !decide (b < a)
  (if packages.isEmpty then "" else "\n" ++ section_ "Packages" packages) ++
    needs.framework.elim "" fun framework =>
      "\n" ++ line (styled dim "Framework:" ++ " " ++ framework)

/-- Shows the scripts that an entry brings in, and what they need. -/
def graph (s : Store) (script : Path) : Except Failure String := do
  let graph ← ScriptGraph.ofEntries s [script]
  let needs ← Needs.ofScripts s graph
  .ok (graphText graph ++ needsText needs)

/-! ### Restore -/

/-- How a restore is announced. -/
def announcement (env : Environment) (project : Project) : String :=
  styled cyan "Restoring" ++ " " ++ project.layout.manifest.text ++ " for " ++ env.runtime ++ "... "

/-- What is shown of the end of a restore. -/
def outcomeShown : Outcome → List Shown
  | .restored => [.text (styled green "done" ++ " in "), .seconds, .text (line "s")]
  | .cacheHit => [.text (line (styled yellow "cached"))]

/-- Generates the project of a script and restores it. -/
def restore (env : Environment) (useCache : Bool) (script : Path) : StateM Machine Report := do
  match ← (Project.synthesize env script).run with
  | .error f => return .failed [] f
  | .ok project =>
    let shown : List Shown := [.text (announcement env project)]
    match ← (project.restore env (.standard env useCache)).run with
    | .error f => return .failed shown f
    | .ok outcome => return .success (shown ++ outcomeShown outcome)

/-! ### Resolve -/

def pathsJson (ps : List Path) : Json :=
  .array (ps.map fun p => .ofText p.text)

def assemblyJson (a : Assembly) : Json :=
  .ofMembers
    [("name", .ofText a.name), ("version", .ofText a.version), ("path", .ofText a.path.text)]

def requestJson (c : CompilationRequest) : Json :=
  .ofMembers
    [("entry_script", .ofText c.entry.text), ("script_files", pathsJson c.scripts),
      ("references", pathsJson c.references), ("target_framework", .ofText c.framework)]

def resolvedJson (r : Resolved) : Json :=
  .ofMembers
    [("compile_references", .array (r.compile.map assemblyJson)),
      ("runtime_assemblies", .array (r.runtime.map assemblyJson)),
      ("native_assets", pathsJson r.native), ("script_files", pathsJson r.scripts)]

/-- A resolution as a JSON text. -/
def resolutionJson (c : CompilationRequest) (r : Resolved) : String :=
  line (Json.ofMembers [("request", requestJson c), ("resolved", resolvedJson r)]).render

def assemblyText (a : Assembly) : String :=
  a.name ++ " " ++ a.version ++ " " ++ styled dim a.path.text

/-- A resolution in sections. -/
def resolutionText (c : CompilationRequest) (r : Resolved) : String :=
  section_ "References" (c.references.map Path.text) ++
    section_ "Runtime assemblies" (r.runtime.map assemblyText) ++
    section_ "Native assets" (r.native.map Path.text) ++
    section_ "Scripts" (c.scripts.map Path.text)

/-- Restores a script and shows what the compiler gets. -/
def resolve (env : Environment) (useCache json : Bool) (script : Path) : Job String := do
  let project ← Project.synthesize env script
  let _ ← project.restore env (.standard env useCache)
  let resolved ← project.resolve env (← Job.store)
  let request := project.compilation resolved
  return (if json then resolutionJson request resolved else resolutionText request resolved)

/-! ### Clean -/

/-- The directory may not be removed: it is the root or the home directory. -/
def isProtected (s : Store) (dir : Path) (home : Option Path) : Bool :=
  dir.parent?.isNone ||
    home.any fun home => dir.same ((s.canonical home).toOption.getD home)

/-- Why nothing is removed. -/
inductive CleanFailure where
  | isProtected (dir : Path)
  | io (fault : Fault)
  deriving DecidableEq, Repr

def CleanFailure.message : CleanFailure → String
  | .isProtected dir => "refusing to remove " ++ dir.text ++ ": not a dedicated cache directory"
  | .io fault => fault.message

/-- Removes the cache root with all in it: the store after it, and the directory that was
removed, if there was one. -/
def clean (s : Store) (root : Path) (home : Option Path) :
    Store × Except CleanFailure (Option Path) :=
  if !s.exists? root then (s, .ok none)
  else
    match s.canonical root with
    | .error fault => (s, .error (.io fault))
    | .ok dir =>
      if isProtected s dir home then (s, .error (.isProtected dir))
      else
        match s.removeTree dir with
        | (s, .ok ()) => (s, .ok (some dir))
        | (s, .error fault) => (s, .error (.io fault))

/-- What is shown of a removal. -/
def cleanText (root : Path) : Option Path → String
  | none => line ("Nothing to clean at " ++ root.text)
  | some dir => line (styled green "Removed" ++ " " ++ dir.text)

/-- The home directory among some variables. -/
def homeIn (vars : List (String × String)) : Option Path :=
  ((vars.lookup "HOME").filter (!·.isEmpty)).map Path.mk

/-! ### All commands -/

/-- The report of something that is shown when it is all done. -/
def reportOf : Except Failure String → Report
  | .ok text => .success [.text text]
  | .error f => .failed [] f

/-- Runs a command on a machine. -/
def Command.run (c : Command) : StateM Machine Report := do
  let script := c.script.getD ⟨""⟩
  match c.verb with
  | .graph => return reportOf (graph (← get).store script)
  | .restore => restore c.env c.useCache script
  | .resolve => return reportOf (← (resolve c.env c.useCache c.json script).run)
  | .clean =>
    let m ← get
    let root := c.env.cacheRoot
    let (store, result) := clean m.store root (homeIn m.vars)
    set { m with store }
    return match result with
      | .ok removed => .success [.text (cleanText root removed)]
      | .error f => ⟨[], some f.message⟩

/-- What is left of a run: its exit code, what it shows, and the text of its error. -/
structure Ending where
  code : Nat
  shown : List Shown
  error : String
  deriving DecidableEq, Repr

/-- The ending of a run without a command. -/
def Refusal.ending : Refusal → Ending
  | .usage => ⟨2, [], ""⟩
  | .help => ⟨0, [], ""⟩
  | .version => ⟨0, [.text (line "csx 0.1.0")], ""⟩

/-- The ending of a command. -/
def Report.ending (r : Report) : Ending :=
  match r.failure with
  | none => ⟨0, r.shown, ""⟩
  | some text => ⟨1, r.shown, "Error: " ++ line text⟩

/-- Runs the command line with some arguments on a machine of some runtime. -/
def run (runtime : String) (args : List String) : StateM Machine Ending := do
  let m ← get
  let temporary := (m.vars.lookup "TMPDIR").getD "/tmp"
  match parse (.standard runtime ⟨temporary⟩) m.vars args with
  | .error refusal => return refusal.ending
  | .ok command => return (← command.run).ending

end ScriptDeps.CommandLine
