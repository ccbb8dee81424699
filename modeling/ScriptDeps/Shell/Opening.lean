/-
Files that redirections open.

A file is opened at a descriptor of a state.  The complaints tell what a shell tells: in the plain
dialect what was to be done with the file, and in the extended one the file and what is wrong.
-/
import ScriptDeps.Shell.Variable

namespace ScriptDeps.Shell.Opening

/-- The wording of a fault when a file is opened. -/
def wording (reading : Bool) : Fault → Bytes
  | .notFound | .notDirectory =>
    (if reading then "No such file" else "Directory nonexistent").toList
  | fault => fault.wording.toList

/-- The complaint about a file that is not opened. -/
def complaint (s : State) (reading : Bool) (file : Bytes) (fault : Fault) : Bytes :=
  if s.isExtended then file ++ ": ".toList ++ fault.wording.toList
  else
    (if reading then "cannot open " else "cannot create ").toList ++ file ++ ": ".toList ++
      wording reading fault

/-- The state with a file open at a descriptor, to print to it. -/
def toPrint (s : State) (n : Nat) (file : Bytes) (keep : Bool) : Except Bytes State :=
  match s.openFile file.path keep with
  | .ok (some sink, s) => .ok (s.connect n sink)
  | .ok (none, s) => .ok (s.disconnect n)
  | .error fault => .error (complaint s false file fault)

/-- The state with a file open at a descriptor, to print to it from its start.  An option keeps what is
there. -/
def fromStart (s : State) (n : Nat) (file : Bytes) : Except Bytes State :=
  let isFile := match s.lookup file.path with
    | .ok (.file ..) => (s.deviceAt? file.path).isNone
    | _ => false
  if s.has 'C' && isFile then
    .error (if s.isExtended then file ++ ": cannot overwrite existing file".toList
      else complaint s false file .alreadyExists)
  else toPrint s n file false

/-- The state with a file open at a descriptor, to be read. -/
def toRead (s : State) (n : Nat) (file : Bytes) : Except Bytes State :=
  (s.openSource n file.path).mapError (complaint s true file)

/-- The state with a file open at a descriptor as a redirection tells, or the complaint about it. -/
def opened (s : State) (n : Nat) (file : Bytes) : Redirection → Except Bytes State
  | .read _ => toRead s n file
  | .append _ => toPrint s n file true
  | .both _ => do
    if (s.lookup file.path).toOption.isNone then
      let there ← toPrint s n file true
      (there.openSource n file.path).mapError fun fault => fault.wording.toList
    else toRead s n file
  | .write _ => fromStart s n file
  | .writeAll _ => (fromStart s 1 file).map withComplaints
  | .appendAll _ => (toPrint s 1 file true).map withComplaints
  | _ => toPrint s n file false
where
  /-- Complaints lead to where is printed. -/
  withComplaints (s : State) : State :=
    match s.descriptors.lookup 1 with
    | some sink => s.connect 2 sink
    | none => s.disconnect 2

end ScriptDeps.Shell.Opening
