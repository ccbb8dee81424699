/-
The dependencies of a restored project.

The lock artifact says which assets count, and the package folders hold them.  Reading is
all or nothing: the first asset that is not there makes the whole context fail.
-/
import ScriptDeps.Dependency
import ScriptDeps.RuntimeGraph
import ScriptDeps.Text.Lowercase

namespace ScriptDeps

/-- The dependencies of a project, in the order of their names. -/
abbrev Context := List Dependency

namespace Context

/-- The directory of a library below a package folder. -/
def libraryDir (key : String) (library : Option Library) : String :=
  (library.bind Library.path).getD (Text.lowercase key)

/-- The directory of a library in the first package folder that has it. -/
def packageDir? (s : Store) (folders : List String) (key : String) (library : Library) :
    Option Path :=
  (folders.map fun folder => (Path.mk folder).child (libraryDir key library)).find? s.isDir

/-! ### Runtimes -/

/-- The imports that a library brings along, if it has a readable description of them. -/
def importsOf? (s : Store) (folders : List String) (key : String) (library : Library) :
    Option RuntimeGraph := do
  if !library.files.contains "runtime.json" then none
  let dir ← packageDir? s folders key library
  let text ← (s.readText (dir.child "runtime.json")).toOption
  RuntimeGraph.parse? text

/-- The known runtimes with the imports of all libraries. -/
def runtimeGraph (s : Store) (lock : LockArtifact) : RuntimeGraph :=
  lock.libraries.foldl
    (fun g (key, library) => (importsOf? s lock.packageFolders key library).elim g g.merge)
    RuntimeGraph.known

/-! ### Targets -/

/-- The key of a target ends in a slash and the runtime. -/
def isTargetOf (runtime key : String) : Bool :=
  (runtime.toList.reverse ++ ['/']).isPrefixOf key.toList.reverse

/-- The target for a runtime, or else the first one for any runtime at all. -/
def target? (lock : LockArtifact) (runtime : String) :
    Option (String × Dictionary TargetLibrary) :=
  (lock.targets.find? (isTargetOf runtime ·.1)).or (lock.targets.find? (·.1.toList.contains '/'))

/-! ### Files -/

/-- The paths of assets in a directory, all of which must be there. -/
def existing (s : Store) (name : String) (dir : Path) (assets : List String) :
    Except Failure (List Path) :=
  assets.mapM fun asset =>
    let p := dir.child asset
    if s.exists? p then .ok p else .error (.missingAsset name p)

/-- The dependency that a library of the target is, unless it has no assets. -/
def dependency (s : Store) (lock : LockArtifact) (framework : String) (chain : List String)
    (key : String) (t : TargetLibrary) : Except Failure (Option Dependency) := do
  let (name, version) := splitLibraryKey key
  let library := lock.libraries.get? key
  let assets := Assets.select t library chain framework
  if assets.isEmpty then .ok none
  else
    let full := name ++ "/" ++ version
    match library.bind (packageDir? s lock.packageFolders full) with
    | none => .error (.missingAsset name ⟨libraryDir full library⟩)
    | some dir =>
      let existing := existing s name dir
      .ok <| some
        { name, version
          compile := ← existing assets.compile
          runtime := ← existing assets.runtime
          native := ← existing assets.native
          scripts := ← existing assets.scripts }

/-- The packages among the libraries of a target. -/
def packages (target : Dictionary TargetLibrary) : List (String × TargetLibrary) :=
  target.filter (·.2.kind == "package")

/-- The dependencies that the lock artifact at a path gives for a runtime. -/
def read (s : Store) (runtime : String) (assets : Path) : Except Failure Context := do
  let lock ← LockArtifact.read s assets
  match target? lock runtime with
  | none => .error (.missingRuntimeTarget assets runtime)
  | some (key, target) =>
    let framework := String.ofList (Text.before '/' key.toList)
    let chain := (runtimeGraph s lock).expand runtime
    let found ← (packages target).mapM fun (key, t) => dependency s lock framework chain key t
    .ok (found.filterMap id)

end Context

end ScriptDeps
