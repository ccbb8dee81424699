/-
The program: the command line on the files of the disk.

A run reads what a command can look at into a store, runs the command on it, and writes
back what the command changed.  That is the working directory, the cache root, the package
cache of the user and the restore tool, and beyond them the scripts that an entry brings in.
All decisions are made by `CommandLine.run`; what is here moves bytes.
-/
import Std.Data.HashMap
import ScriptDeps.CommandLine.Commands

namespace ScriptDeps.Disk

/-- A location as the disk takes it. -/
def place (loc : Location) :=
  (⟨⟨"/"⟩, (Store.pathOf loc).text⟩ : IO.FS.DirEntry).path

/-- The location of an absolute path. -/
def locationOf (p : Path) : Location :=
  p.names

/-! ### Reading -/

/-- A file that begins as a script of some interpreter can be run. -/
def beginsAsProgram (content : ByteArray) : Bool :=
  content[0]? == some 35 && content[1]? == some 33

/-- What stands at a location and below it.  Links are passed over, and so is what may not
be read. -/
partial def entriesBelow (loc : Location) : IO (List (Location × Node)) :=
  try
    match (← (place loc).symlinkMetadata).type with
    | .dir =>
      let inner ← (← (place loc).readDir).toList.mapM fun e => entriesBelow (loc ++ [e.fileName])
      return (loc, .directory) :: inner.flatten
    | .file =>
      let content ← IO.FS.readBinFile (place loc)
      return [(loc, .file content (beginsAsProgram content))]
    | _ => return []
  catch _ => return []

/-- The directories that lead to a location, as far as they are there. -/
def directoriesAbove (loc : Location) : IO (List Location) :=
  ((List.range loc.length).map loc.take).filterM fun dir => (place dir).isDir

/-- A store with all that stands at and below some locations. -/
def load (cwd : Location) (roots : List Location) : IO Store := do
  let roots := (cwd :: roots).eraseDups
  let outermost := roots.filter fun loc => !roots.any fun r => r != loc && r.isPrefixOf loc
  let above ← outermost.mapM directoriesAbove
  let inner ← outermost.mapM entriesBelow
  let directories := above.flatten.eraseDups.map fun dir => (dir, Node.directory)
  return Shell.Surroundings.install ⟨directories ++ inner.flatten, cwd, []⟩

/-- The store with the scripts added that an entry brings in from elsewhere. -/
partial def withScripts (s : Store) (entry : Path) : IO Store := do
  match ScriptGraph.ofEntries s [entry] with
  | .error (.unreadableScript p .notFound) =>
    match ← entriesBelow (locationOf p) with
    | [(loc, .file content runnable)] =>
      let s := s.plant p (.file content runnable)
      if (s.node? loc).isSome then withScripts s entry else return s
    | _ => return s
  | _ => return s

/-! ### Writing -/

/-- Removes a file or an empty directory. -/
def remove (loc : Location) (old : Node) : IO Unit :=
  if old.isDirectory then IO.FS.removeDir (place loc) else IO.FS.removeFile (place loc)

/-- Puts a file or directory in place. -/
def put (loc : Location) : Node → IO Unit
  | .directory => IO.FS.createDirAll (place loc)
  | .file content runnable => do
    IO.FS.writeBinFile (place loc) content
    if runnable then
      IO.setAccessRights (place loc) ⟨⟨true, true, true⟩, ⟨true, false, true⟩, ⟨true, false, true⟩⟩

/-- Two nodes of one kind. -/
def sameKind (a b : Node) : Bool :=
  a.isDirectory == b.isDirectory

/-- Makes the disk hold what `after` holds, where it held what `before` holds: what is gone is
removed, the deepest first, and then what is new is put in place, the outermost first. -/
def save (before after : Store) : IO Unit := do
  let old := Std.HashMap.ofList before.entries
  let new := Std.HashMap.ofList after.entries
  let gone := before.entries.filter fun (loc, node) => !(new[loc]?.any (sameKind node))
  let fresh := after.entries.filter fun (loc, node) => !decide (old[loc]? = some node)
  for (loc, node) in gone.mergeSort fun a b => b.1.length ≤ a.1.length do
    remove loc node
  for (loc, node) in fresh.mergeSort fun a b => a.1.length ≤ b.1.length do
    put loc node

end ScriptDeps.Disk

namespace ScriptDeps.Terminal

open CommandLine

/-- The variables that a run looks at. -/
def variableNames : List String :=
  ["HOME", "PATH", "TMPDIR", "CSX_CACHE_ROOT", "CSX_TARGET_FRAMEWORK", "CSX_RESTORE_TOOL"]

def readVariables : IO (List (String × String)) :=
  variableNames.filterMapM fun name => return (← IO.getEnv name).map (name, ·)

/-- The runtime of the machine. -/
def runtime : String :=
  "linux-x64"

/-- The places that a command can look at, besides the working directory and the scripts. -/
def placesOf (cwd : Path) (vars : List (String × String)) (c : Command) : List Path :=
  let packages := (homeIn vars).map fun home => (home.child ".nuget").child "packages"
  c.env.cacheRoot :: packages.toList ++ (Tool.ofEnvironment c.env).places vars cwd

/-- The store that a command runs on. -/
def loadFor (cwd : Path) (vars : List (String × String)) (c : Command) : IO Store := do
  let directories := [c.env.cacheRoot.parent?, homeIn vars].flatMap Option.toList
  let above ← (directories.map cwd.absolutize).filterM fun dir =>
    (Disk.place (Disk.locationOf dir)).isDir
  let places := (placesOf cwd vars c).map cwd.absolutize
  let s ← Disk.load (Disk.locationOf cwd) (places.map Disk.locationOf)
  let s := above.foldl (fun s dir => s.plant dir .directory) s
  match c.script with
  | some script => Disk.withScripts s script
  | none => return s

/-- A time as seconds with two decimals, to the nearest. -/
def secondsText (milliseconds : Nat) : String :=
  let hundredths := (milliseconds + 5) / 10
  let rest := toString (hundredths % 100)
  toString (hundredths / 100) ++ "." ++ (if rest.length < 2 then "0" ++ rest else rest)

def shownText (milliseconds : Nat) : Shown → String
  | .text s => s
  | .seconds => secondsText milliseconds

/-- How the program is called. -/
def usage : String :=
  "Usage: csx [OPTIONS] <graph|restore|resolve|clean> [SCRIPT]\n"

end ScriptDeps.Terminal

open ScriptDeps in
/-- Runs the command that the arguments name, and gives its exit code. -/
def main (args : List String) : IO UInt32 := do
  let start ← IO.monoMsNow
  let cwd : Path := ⟨(← IO.currentDir).toString⟩
  let vars ← Terminal.readVariables
  let temporary : Path := ⟨(vars.lookup "TMPDIR").getD "/tmp"⟩
  let base := Environment.standard Terminal.runtime temporary
  let before ←
    match CommandLine.parse base vars args with
    | .ok command => Terminal.loadFor cwd vars command
    | .error _ => pure Shell.Surroundings.store
  let (ending, machine) := (CommandLine.run Terminal.runtime args).run ⟨before, vars, []⟩
  Disk.save before machine.store
  let taken := (← IO.monoMsNow) - start
  IO.print (String.join (ending.shown.map (Terminal.shownText taken)))
  IO.eprint ending.error
  if ending.shown.isEmpty && ending.error.isEmpty then IO.eprint Terminal.usage
  return UInt32.ofNat ending.code
