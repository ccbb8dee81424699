/-
The packages of a restored project, with the files that each contributes.

The assets of a library are chosen from the lock artifact alone, as names; `Dependency`
holds the paths that the names lead to.  Generic assets count in the order of their names.
Assets for a certain runtime count only for the nearest runtime of the chain that has
any, and take the place of generic ones with the same file name.
-/
import ScriptDeps.LockArtifact
import ScriptDeps.Text.Ascii

namespace ScriptDeps

/-- A package and its files. -/
structure Dependency where
  name : String
  version : String
  compile : List Path
  runtime : List Path
  native : List Path
  scripts : List Path
  deriving DecidableEq, Repr

/-- The names of the files that a package contributes, relative to its directory. -/
structure Assets where
  compile : List String
  runtime : List String
  native : List String
  scripts : List String
  deriving DecidableEq, Repr

namespace Assets

def isEmpty (a : Assets) : Bool :=
  a.compile.isEmpty && a.runtime.isEmpty && a.native.isEmpty && a.scripts.isEmpty

/-- All names, in the order in which they are looked for. -/
def all (a : Assets) : List String :=
  a.compile ++ a.runtime ++ a.native ++ a.scripts

/-- The assets that stand for more than an empty directory. -/
def real (assets : List String) : List String :=
  assets.filter (!isPlaceholder ·)

/-- The last part of the name of an asset. -/
def fileName (asset : String) : String :=
  String.ofList (Text.afterLast '/' asset.toList)

/-! ### Assets for a runtime -/

/-- The assets of a type for one runtime. -/
def specificTo (t : TargetLibrary) (assetType runtime : String) : List String :=
  t.runtimeTargets.filterMap fun (path, asset) =>
    if asset.assetType == assetType && asset.runtime == runtime && !isPlaceholder path then
      some path
    else none

/-- The assets of a type for the nearest runtime of the chain that has any. -/
def specific (t : TargetLibrary) (chain : List String) (assetType : String) : List String :=
  ((chain.map (specificTo t assetType)).find? (!·.isEmpty)).getD []

/-- The generic runtime assets that no specific one replaces, then the specific ones. -/
def runtimeOf (t : TargetLibrary) (chain : List String) : List String :=
  let nearest := specific t chain "runtime"
  (real t.runtime).filter (fun a => !nearest.any (fileName · == fileName a)) ++ nearest

/-! ### Scripts -/

/-- The name ends as the names of scripts do. -/
def isScript (asset : String) : Bool :=
  ['x', 's', 'c', '.'].isPrefixOf asset.toList.reverse

/-- The scripts among the content files of the target. -/
def contentScripts (t : TargetLibrary) : List String :=
  t.contentFiles.filterMap fun (path, file) =>
    if file.codeLanguage.any (Text.sameIgnoringCase · "csx") && isScript path &&
        !isPlaceholder path then
      some path
    else none

/-- The scripts among all files of a library that are meant for a framework. -/
def scriptsFor (l : Library) (framework : String) : List String :=
  let start := "contentFiles/csx/".toList ++ framework.toList ++ ['/']
  l.files.filter fun file => start.isPrefixOf file.toList && isScript file

/-- The scripts of a library: those of the target if it lists any, else the files for its
framework, else the files for any framework. -/
def scriptsOf (t : TargetLibrary) (library : Option Library) (framework : String) : List String :=
  let listed := contentScripts t
  if !listed.isEmpty then listed
  else
    match library with
    | none => []
    | some l =>
      let exact := scriptsFor l framework
      if exact.isEmpty then scriptsFor l "any" else exact

/-- The assets that a library contributes to a target. -/
def select (t : TargetLibrary) (library : Option Library) (chain : List String)
    (framework : String) : Assets :=
  { compile := real t.compile
    runtime := runtimeOf t chain
    native := real t.native ++ specific t chain "native"
    scripts := scriptsOf t library framework }

end Assets

end ScriptDeps
