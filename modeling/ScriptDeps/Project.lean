/-
From an entry script to a request for the compiler.

    entry ─ graph of scripts ─ needs ─ manifest
                                          │ restore
    compilation request ─ resolution ─ lock artifact
-/
import ScriptDeps.AssemblyFile
import ScriptDeps.Compilation
import ScriptDeps.Context
import ScriptDeps.Environment
import ScriptDeps.Needs
import ScriptDeps.Restore
import ScriptDeps.ScriptGraph

namespace ScriptDeps

/-- The generated project of an entry script. -/
structure Project where
  /-- The absolute path of the entry script. -/
  entry : Path
  /-- The entry script and all that it brings in, the entry first. -/
  graph : List Path
  manifest : Manifest
  layout : Layout
  deriving DecidableEq, Repr

namespace Project

/-- The project of an entry script, as the store shows it. -/
def plan (env : Environment) (s : Store) (entry : Path) : Except Failure Project := do
  let graph ← ScriptGraph.ofEntries s [entry]
  let manifest := (← Needs.ofScripts s graph).manifest env.framework
  let entry := graph.head?.getD entry
  let dir := entry.parent?.getD ⟨"/"⟩
  .ok ⟨entry, graph, manifest, .ofScriptDir env.cacheRoot dir manifest.framework⟩

/-- Plans the project of an entry script and saves its manifest. -/
def synthesize (env : Environment) (entry : Path) : Job Project := do
  let project ← plan env (← Job.store) entry
  Job.change project.layout.ensure
  Job.change fun s => project.manifest.save s project.layout.manifest
  return project

/-- Restores the packages of the project. -/
def restore (project : Project) (env : Environment) (r : Restorer) : Job Outcome :=
  r.restore project.layout.manifest env.sources

/-- The resolution of the project after a restore. -/
def resolve (project : Project) (env : Environment) (s : Store) : Except Failure Resolved := do
  let context ← Context.read s env.runtime project.layout.assets
  .ok (Resolved.ofContext context (AssemblyFile.versionAt? s))

/-- The local assemblies of the project, in the order of paths. -/
def localAssemblies (project : Project) : List Path :=
  project.manifest.assemblies.mergeSort fun p q => (p.compare q).isLE

/-- The request for compiling the project with this resolution. -/
def compilation (project : Project) (resolved : Resolved) : CompilationRequest :=
  .of project.entry project.graph resolved project.localAssemblies project.manifest.framework

/-- All of it for an entry script. -/
def prepare (env : Environment) (r : Restorer) (entry : Path) : Job CompilationRequest := do
  let project ← synthesize env entry
  let _ ← project.restore env r
  let resolved ← project.resolve env (← Job.store)
  return project.compilation resolved

end Project

end ScriptDeps
