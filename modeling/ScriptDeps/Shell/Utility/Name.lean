/-
The utilities that take the names of files apart and follow them.
-/
import ScriptDeps.Shell.Utility

namespace ScriptDeps.Shell.Utility

/-! ### Parts of names -/

/-- The text without the slashes at its end, unless it is all slashes. -/
def withoutSlashes (p : Bytes) : Bytes :=
  match (p.reverse.dropWhile (· == '/')).reverse with
  | [] => p.take 1
  | kept => kept

/-- The directory part of a path. -/
def directoryOf (p : Bytes) : Bytes :=
  let kept := (withoutSlashes p).reverse.dropWhile (· != '/')
  match kept, (kept.dropWhile (· == '/')).reverse with
  | [], _ => if p.head? == some '/' then ['/'] else ['.']
  | _, [] => ['/']
  | _, dir => dir

/-- The last part of a path. -/
def lastOf (p : Bytes) : Bytes :=
  match Text.afterLast '/' (withoutSlashes p) with
  | [] => withoutSlashes p
  | name => name

/-- A name without an ending that is not all of it. -/
def withoutEnding (name ending : Bytes) : Bytes :=
  if ending.isSuffixOf name && ending != name then name.take (name.length - ending.length)
  else name

def directoryNames (args : List Bytes) (s : State) : State :=
  withOptions "dirname" (.of "z" "zero=z help=! version=!") args s fun o =>
    if o.args.isEmpty then missingOperand "dirname" s
    else
      let stop := if o.has 'z' then '\x00' else '\n'
      forEach o.args s fun s arg => s.say (directoryOf arg ++ [stop])

def baseNames (args : List Bytes) (s : State) : State :=
  match readOptions (.of "as:z" "multiple=a suffix=s zero=z help=! version=!") false
      (args.length + 1) args with
  | .error m => s.failed 1 (m.wording "basename")
  | .ok o =>
    let stop := if o.has 'z' then '\x00' else '\n'
    let line := fun (p ending : Bytes) => withoutEnding (lastOf p) ending ++ [stop]
    if o.args.isEmpty then missingOperand "basename" s
    else if o.has 'a' || o.has 's' then
      (s.say (o.args.flatMap fun p => line p ((o.value? 's').getD []))).done 0
    else
      match o.args with
      | [] => missingOperand "basename" s
      | [p] => (s.say (line p [])).done 0
      | [p, ending] => (s.say (line p ending)).done 0
      | _ :: _ :: extra :: _ => extraOperand "basename" extra s

/-! ### Following names -/

/-- How much of a path must exist. -/
inductive Existing where
  | all
  | allButLast
  | nothing
  deriving DecidableEq, Repr

/-- The path without links and dots, as far as what must exist does. -/
def resolved (s : State) (needed : Existing) (arg : Bytes) : Except Fault Path :=
  let lexical := (Store.pathOf s.store.cwd).absolutize arg.path
  if arg.isEmpty then .error .notFound
  else
    match s.locate true arg.path with
    | .ok loc =>
      if (s.store.node? loc).isSome || needed != .all then .ok (Store.pathOf loc) else .error .notFound
    | .error fault => if needed == .nothing then .ok lexical else .error fault

/-- The path as seen from a directory. -/
def seenFrom (base p : Path) : Bytes :=
  let (a, b) := (base.names, p.names)
  let common := ((a.zip b).takeWhile fun p => p.1 == p.2).length
  match List.replicate (a.length - common) ".." ++ b.drop common with
  | [] => ['.']
  | names => Bytes.ofText (Path.ofNames names).text

def realPaths (args : List Bytes) (s : State) : State :=
  let known : Known := .of "emLPqszT:B:"
    ("canonicalize-existing=e canonicalize-missing=m logical=L physical=P quiet=q relative-to=T " ++
      "relative-base=B strip=s no-symlinks=s zero=z help=! version=!")
  withOptions "realpath" known args s fun o =>
    let needed := if o.has 'e' then Existing.all else if o.has 'm' then .nothing else .allButLast
    let stop := if o.has 'z' then '\x00' else '\n'
    if o.args.isEmpty then missingOperand "realpath" s
    else
      forEach o.args s fun s arg =>
        let refuse := fun fault => if o.has 'q' then s.done 1
          else s.failed 1 (unreadable "realpath" arg fault)
        match resolved s needed arg with
        | .error fault => refuse fault
        | .ok p =>
          let p := if o.has 's' then (Store.pathOf s.store.cwd).absolutize arg.path else p
          let shown := match (o.value? 'T').map (resolved s needed) with
            | some (.ok base) => seenFrom base p
            | _ => Bytes.ofText p.text
          s.say (shown ++ [stop])

def readLinks (args : List Bytes) (s : State) : State :=
  let known : Known := .of "femnqsvz"
    ("canonicalize=f canonicalize-existing=e canonicalize-missing=m no-newline=n quiet=q silent=s " ++
      "verbose=v zero=z help=! version=!")
  withOptions "readlink" known args s fun o =>
    let stop := if o.has 'z' then ['\x00'] else if o.has 'n' && o.args.length == 1 then [] else ['\n']
    if o.args.isEmpty then missingOperand "readlink" s
    else
      forEach o.args s fun s arg =>
        let refuse := fun fault => if o.has 'v' then s.failed 1 (unreadable "readlink" arg fault)
          else s.done 1
        if o.has 'f' || o.has 'e' || o.has 'm' then
          let needed := if o.has 'e' then Existing.all else if o.has 'm' then .nothing else .allButLast
          match resolved s needed arg with
          | .ok p => s.say (Bytes.ofText p.text ++ stop)
          | .error fault => refuse fault
        else
          match s.linkAt? arg.path, s.lookup arg.path with
          | some (_, text), _ => s.say (text ++ stop)
          | none, .ok _ => refuse .invalidArgument
          | none, .error fault => refuse fault

end ScriptDeps.Shell.Utility
