/-
The lock artifact of a restore.

A restore leaves a file that says which packages it took, where they are, and which of
their files serve which purpose.  It is a JSON text; a field that is absent counts as
empty, and fields of other names are passed over.  Assets and libraries come in the order
of their names, the package folders in the order of the file.
-/
import ScriptDeps.Dictionary
import ScriptDeps.Failure
import ScriptDeps.Json.Reader
import ScriptDeps.Store
import ScriptDeps.Text.Number

namespace ScriptDeps

/-- An asset for one kind of runtime. -/
structure RuntimeTarget where
  assetType : String
  runtime : String
  deriving DecidableEq, Repr

/-- A file of a package that goes into projects as content. -/
structure ContentFile where
  codeLanguage : Option String
  buildAction : Option String
  deriving DecidableEq, Repr

/-- The assets of a library for one target. -/
structure TargetLibrary where
  kind : String
  dependencies : Dictionary String
  compile : List String
  runtime : List String
  native : List String
  runtimeTargets : Dictionary RuntimeTarget
  contentFiles : Dictionary ContentFile
  deriving DecidableEq, Repr

/-- A library as it is on disk. -/
structure Library where
  kind : String
  /-- The directory of the library below a package folder. -/
  path : Option String
  files : List String
  deriving DecidableEq, Repr

/-- What a restore took. -/
structure LockArtifact where
  version : Nat
  targets : Dictionary (Dictionary TargetLibrary)
  libraries : Dictionary Library
  /-- The package folders, the first to be searched first. -/
  packageFolders : List String
  deriving DecidableEq, Repr

/-- The key of a library as its name and its version. -/
def splitLibraryKey (key : String) : String × String :=
  match Text.cutAt? '/' key.toList with
  | some (name, version) => (String.ofList name, String.ofList version)
  | none => (key, "")

/-- The asset stands for an empty directory. -/
def isPlaceholder (asset : String) : Bool :=
  Text.afterLast '/' asset.toList == ['_', '.', '_']

namespace LockArtifact

/-! ### Decoding -/

/-- A dictionary whose values are read by `read`. -/
def dictionary? (read : Json → Option α) (j : Json) : Option (Dictionary α) := do
  (← (← j.members?).mapM fun (key, j) => (read j).map fun value => (key, value))
    |> Dictionary.ofEntries |> some

/-- The names of the members, in order; their values do not matter. -/
def names? (j : Json) : Option (List String) :=
  (dictionary? some j).map Dictionary.keys

/-- A whole number below 2^32. -/
def word? : Json → Option Nat
  | .number text => Text.readNumber? UInt32.size text.toList
  | _ => none

def texts? (j : Json) : Option (List String) := do
  (← j.items?).mapM Json.text?

def runtimeTarget? (j : Json) : Option RuntimeTarget := do
  match ← j.fields? ["assetType", "rid"] with
  | [assetType, runtime] =>
    some ⟨← Json.orElse "" Json.text? assetType, ← Json.orElse "" Json.text? runtime⟩
  | _ => none

def contentFile? (j : Json) : Option ContentFile := do
  match ← j.fields? ["codeLanguage", "buildAction"] with
  | [codeLanguage, buildAction] =>
    some ⟨← Json.orElse none Json.optionalText? codeLanguage,
      ← Json.orElse none Json.optionalText? buildAction⟩
  | _ => none

def targetLibrary? (j : Json) : Option TargetLibrary := do
  match ← j.fields? ["type", "dependencies", "compile", "runtime", "native", "runtimeTargets",
    "contentFiles"] with
  | [kind, dependencies, compile, runtime, native, runtimeTargets, contentFiles] =>
    some
      { kind := ← Json.orElse "" Json.text? kind
        dependencies := ← Json.orElse [] (dictionary? Json.text?) dependencies
        compile := ← Json.orElse [] names? compile
        runtime := ← Json.orElse [] names? runtime
        native := ← Json.orElse [] names? native
        runtimeTargets := ← Json.orElse [] (dictionary? runtimeTarget?) runtimeTargets
        contentFiles := ← Json.orElse [] (dictionary? contentFile?) contentFiles }
  | _ => none

def library? (j : Json) : Option Library := do
  match ← j.fields? ["type", "path", "files"] with
  | [kind, path, files] =>
    some
      { kind := ← Json.orElse "" Json.text? kind
        path := ← Json.orElse none Json.optionalText? path
        files := ← Json.orElse [] texts? files }
  | _ => none

/-- The lock artifact that a value describes. -/
def ofJson? (j : Json) : Option LockArtifact := do
  match ← j.fields? ["version", "targets", "libraries", "packageFolders"] with
  | [version, targets, libraries, packageFolders] =>
    some
      { version := ← Json.orElse 0 word? version
        targets := ← Json.orElse [] (dictionary? (dictionary? targetLibrary?)) targets
        libraries := ← Json.orElse [] (dictionary? library?) libraries
        packageFolders :=
          ← Json.orElse [] (fun j => j.members?.map (·.map Prod.fst)) packageFolders }
  | _ => none

/-- The lock artifact at a path. -/
def read (s : Store) (p : Path) : Except Failure LockArtifact :=
  match s.readText p with
  | .error _ => .error (.missingLockArtifact p)
  | .ok text =>
    match (Json.parse? text).bind ofJson? with
    | some lock => .ok lock
    | none => .error (.invalidLockArtifact p)

end LockArtifact

end ScriptDeps
