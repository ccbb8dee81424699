/-
One path for each assembly.

Several dependencies may be the same package at different versions, and several packages
may bring the same assembly.  The highest version wins, first among the packages of an id
and then among the assemblies of a name, and of equals the first.  Ids and names are the
same when their lowercase forms agree.

An assembly has the version that its file states, or else that of the package it comes
from.  Files are looked into once: a log keeps what was found, oldest first.

The assemblies to run with are looked up by name through an index, which holds the place
of each in their list.
-/
import ScriptDeps.Dependency
import ScriptDeps.Dictionary
import ScriptDeps.Distinct
import ScriptDeps.Text.Lowercase
import ScriptDeps.Version

namespace ScriptDeps

/-- An assembly that was chosen for its name. -/
structure Assembly where
  name : String
  version : String
  path : Path
  deriving DecidableEq, Repr

/-- The files of all dependencies, without conflicts. -/
structure Resolved where
  /-- The assemblies to compile against. -/
  compile : List Assembly
  /-- The assemblies to run with. -/
  runtime : List Assembly
  native : List Path
  scripts : List Path
  /-- The places of the assemblies to run with, by their names without case. -/
  places : Dictionary Nat
  deriving DecidableEq, Repr

/-! ### Groups -/

/-- The names of the items without their case, each once, in the order of their first item. -/
def groupNames (nameOf : α → String) (xs : List α) : List String :=
  insertAll (· == ·) [] (xs.map fun x => Text.lowercase (nameOf x))

/-- The items of a group, in order. -/
def inGroup (nameOf : α → String) (xs : List α) (name : String) : List α :=
  xs.filter fun x => Text.lowercase (nameOf x) == name

/-- The item of the highest version in each group. -/
def highestOfEach (nameOf versionOf : α → String) (xs : List α) : List α :=
  (groupNames nameOf xs).filterMap fun name => Version.highest versionOf (inGroup nameOf xs name)

namespace Assembly

/-- The assembly chosen for each name. -/
def choose (candidates : List Assembly) : List Assembly :=
  highestOfEach name version candidates

/-- The place of each assembly in the list, by its name without case. -/
def placesOf (assemblies : List Assembly) : Dictionary Nat :=
  .ofEntries (assemblies.zipIdx.map fun (a, place) => (Text.lowercase a.name, place))

end Assembly

/-- The versions found in files, oldest first. -/
abbrev VersionLog := List (Path × Option String)

namespace VersionLog

/-- What the log says of a file, after looking into it if the log says nothing. -/
def consult (look : Path → Option String) (log : VersionLog) (p : Path) :
    Option String × VersionLog :=
  match log.find? (·.1.same p) with
  | some entry => (entry.2, log)
  | none => (look p, log ++ [(p, look p)])

/-- The assemblies that the files of one package are, with the log after looking into them. -/
def candidates (look : Path → Option String) (packageVersion : String) :
    List Path → VersionLog → List Assembly × VersionLog
  | [], log => ([], log)
  | p :: rest, log =>
    match p.fileStem? with
    | none => candidates look packageVersion rest log
    | some name =>
      let (version, log) := log.consult look p
      let (more, log) := candidates look packageVersion rest log
      (⟨name, version.getD packageVersion, p⟩ :: more, log)

/-- The assemblies that the files of all packages are. -/
def allCandidates (look : Path → Option String) (filesOf : Dependency → List Path) :
    List Dependency → VersionLog → List Assembly × VersionLog
  | [], log => ([], log)
  | d :: rest, log =>
    let (here, log) := candidates look d.version (filesOf d) log
    let (more, log) := allCandidates look filesOf rest log
    (here ++ more, log)

end VersionLog

namespace Resolved

/-- The resolution of no dependencies. -/
def empty : Resolved :=
  ⟨[], [], [], [], []⟩

/-- The dependency chosen for each id. -/
def choosePackages (dependencies : List Dependency) : List Dependency :=
  highestOfEach Dependency.name Dependency.version dependencies

/-- The resolution of dependencies, and the log of all files that were looked into. -/
def ofContextLogged (dependencies : List Dependency) (look : Path → Option String) :
    Resolved × VersionLog :=
  let packages := choosePackages dependencies
  let (compile, log) := VersionLog.allCandidates look Dependency.compile packages []
  let (runtime, log) := VersionLog.allCandidates look Dependency.runtime packages log
  let chosen := Assembly.choose runtime
  ({ compile := Assembly.choose compile
     runtime := chosen
     native := insertAll Path.same [] (packages.flatMap Dependency.native)
     scripts := packages.flatMap Dependency.scripts
     places := Assembly.placesOf chosen }, log)

/-- The resolution of dependencies, where `look` finds the version that a file states. -/
def ofContext (dependencies : List Dependency) (look : Path → Option String) : Resolved :=
  (ofContextLogged dependencies look).1

/-- The paths to compile against. -/
def compilePaths (r : Resolved) : List Path :=
  r.compile.map Assembly.path

/-- The assembly to run with that has this name, whatever its case. -/
def find? (r : Resolved) (name : String) : Option Assembly :=
  (r.places.get? (Text.lowercase name)).bind fun place => r.runtime[place]?

def isEmpty (r : Resolved) : Bool :=
  r.compile.isEmpty && r.runtime.isEmpty && r.native.isEmpty && r.scripts.isEmpty

end Resolved

end ScriptDeps
