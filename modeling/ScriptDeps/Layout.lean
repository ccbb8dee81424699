/-
Where a generated project lives.

Every directory of scripts has one project directory for each framework, below a common
cache root: the names of the script directory from the root down, then the framework.

    <cache root>/
      home/me/scripts/            names of the script directory
        net8.0/                   framework
          script.csproj           manifest
          script.csproj.cache     copy of the manifest that was last restored
          obj/project.assets.json lock artifact
-/
import ScriptDeps.Store

namespace ScriptDeps

/-- The places of one generated project. -/
structure Layout where
  projectDir : Path
  manifest : Path
  /-- The copy of the last manifest that was restored and may be reused. -/
  cache : Path
  /-- The lock artifact that a restore writes. -/
  assets : Path
  deriving DecidableEq, Repr

namespace Layout

/-- The place of the copy of a manifest: beside it, with one more ending. -/
def cacheOf (manifest : Path) : Path :=
  manifest.withFileName (manifest.fileName?.getD "" ++ ".cache")

/-- The project in a given directory. -/
def ofProjectDir (dir : Path) : Layout :=
  let manifest := dir.child "script.csproj"
  { projectDir := dir
    manifest
    cache := cacheOf manifest
    assets := (dir.child "obj").child "project.assets.json" }

/-- The project of the scripts in a directory. -/
def ofScriptDir (cacheRoot scriptDir : Path) (framework : String) : Layout :=
  ofProjectDir ((cacheRoot.join scriptDir.relative).child framework)

/-- The changes that make the project directory. -/
def ensuring (s : Store) (l : Layout) : Except Fault (List Effect) :=
  s.ensureDirs l.projectDir

/-- The store with the project directory in it. -/
def ensure (s : Store) (l : Layout) : Store × Except Fault Unit :=
  match l.ensuring s with
  | .error fault => (s, .error fault)
  | .ok effects => s.perform effects

/-- The store without the project directory and all in it. -/
def clean (s : Store) (l : Layout) : Store × Except Fault Unit :=
  if s.exists? l.projectDir then s.removeTree l.projectDir else (s, .ok ())

end Layout

end ScriptDeps
