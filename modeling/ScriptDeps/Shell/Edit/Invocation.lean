/-
How the stream editor is called.
-/
import ScriptDeps.Shell.Edit.Work

namespace ScriptDeps.Shell.Edit

open Utility

/-- The options. -/
def known : Known :=
  .of "bsnrzuEe:f:l:i::" ("binary=b regexp-extended=r debug=D in-place=i expression=e file=f line-length=l " ++
    "null-data=z zero-terminated=z quiet=n posix=P silent=n sandbox=S separate=s unbuffered=u " ++
    "follow-symlinks=F version=V help=H")

/-- How the editor is to be called. -/
def usage : Bytes :=
  "Usage: sed [OPTION]... \x7bscript-only-if-no-other-script\x7d [input-file]...\n".toList

/-- The pieces of the script that the options give. -/
def piecesOf (s : State) : Nat → List (Char × Bytes) → Except Complaint (List (Origin × Bytes))
  | _, [] => .ok []
  | n, ('e', text) :: rest => (piecesOf s (n + 1) rest).map ((.expression n, text) :: ·)
  | n, ('f', name) :: rest =>
    let text? : Except Fault Bytes := if name == ['-'] then .ok s.input else s.readFile name.path
    match text? with
    | .ok text => (piecesOf s n rest).map ((.file name, text) :: ·)
    | .error .isDirectory => (piecesOf s n rest).map ((.file name, []) :: ·)
    | .error fault =>
      .error ⟨4, "couldn't open file ".toList ++ name ++ ": ".toList ++ fault.wording.toList⟩
  | n, _ :: rest => piecesOf s n rest

/-- The state with the files open that are written to. -/
def outletsOf (s : State) : List Bytes → Except Complaint (List (Bytes × Outlet) × State)
  | [] => .ok ([], s)
  | name :: rest =>
    match s.openFile name.path false with
    | .error fault =>
      .error ⟨4, "couldn't open file ".toList ++ name ++ ": ".toList ++ fault.wording.toList⟩
    | .ok (sink, s) => do
      let (outlets, s) ← outletsOf s rest
      .ok ((name, ⟨sink.getD .nowhere, false, []⟩) :: outlets, s)

/-- How much is read at once. -/
def blockSize : Nat :=
  4096

/-- The editor at the end of the work, in which what was not read is left to others. -/
def handedBack (hasQuit : Bool) (e : Editor) : Editor :=
  match e.given with
  | none => e
  | some (size, number, input) =>
    let s := e.state.withSource number input
    let left := if e.name == ['-'] then (e.lines.map List.length).foldl (· + ·) 0 else 0
    let isPart := hasQuit && e.name == ['-']
    { e with state := if isPart then s.readAt 0 (size - left) blockSize true else s.drained }

/-- The state at the end of the work. -/
def settled (m : Manners) (hasQuit : Bool) (e : Editor) (status : Nat) : State :=
  let s := (handedBack hasQuit e).flushed m
  match s.unwritten with
  | some why =>
    { s with unwritten := none }.failed 4 ("sed: couldn't flush stdout: ".toList ++ why.toList)
  | none => s.done status

/-- Edits files or what is read by a script. -/
def edit (call : Utility.Call) (args : List Bytes) (s : State) : State :=
  let refuse := fun (c : Complaint) (s : State) => s.failed c.status ("sed: ".toList ++ c.text)
  match readOptions (known.withLetters ['D', 'P', 'S', 'F', 'V', 'H']) true (args.length + 1) args with
  | .error m => s.failed 1 ("sed: ".toList ++ m.text ++ '\n' :: usage.dropLast)
  | .ok o =>
    let hasScript := o.has 'e' || o.has 'f'
    if o.has 'H' then (s.say usage).done 0
    else if !hasScript && o.args.isEmpty then s.failed 1 usage.dropLast
    else
      let given := if hasScript then o.given else [('e', o.args.headD [])]
      let files := if hasScript then o.args else o.args.drop 1
      let isExtended := o.has 'E' || o.has 'r'
      let script := do
        let pieces ← piecesOf s 1 given
        let script ← Script.read pieces (if isExtended then .extended else .basic) (o.has 'n')
          (!o.has 'z') (o.has 'S')
        let s := if (o.values 'f').contains ['-'] then s.drained else s
        let (outlets, s) ← outletsOf s script.written
        Except.ok (script, outlets, s)
      match script with
      | .error c => refuse c s
      | .ok (script, outlets, s) =>
        if o.has 'i' && files.isEmpty then refuse ⟨4, "no input files".toList⟩ s
        else
          let width := ((o.value? 'l').map fun v =>
            (Bytes.natural? (v.takeWhile Char.isDigit)).getD 0).getD 70
          let m : Manners :=
            ⟨call, script, if o.has 'z' then '\x00' else '\n', o.has 's' || o.has 'i', o.value? 'i', width⟩
          let e : Editor :=
            { state := s, status := 0, files := inputs files, name := ['-'], isOpen := false, hasOpened := false, lines := [], given := none
              number := 0, pattern := ⟨[], true⟩, hold := ⟨[], true⟩, hasReplaced := false
              lastSearch := none, ranges := freshRanges script, waiting := [], printed := []
              lacksEnd := false, outlets, readers := [], effort := 0 }
          match work m e with
          | (.finished, e) => settled m false e e.status
          | (.quit status, e) =>
            let (_, e) := (closeFile m).run.run e
            settled m true e (if status == 0 then e.status else status)
          | (.failed c, e) => settled m true { e with state := refuse c e.state } c.status
          | (.endless, e) => (settled m true e 0).going .endless

end ScriptDeps.Shell.Edit
