/-
How a program of the record language is called.
-/
import ScriptDeps.Shell.Awk.Work

namespace ScriptDeps.Shell.Awk

open Utility

/-- What the arguments tell: files with the program, values for names, the separator of fields, and
what is left. -/
structure Told where
  files : List Bytes
  values : List (Bytes × Bytes)
  separator : Option Bytes
  rest : List Bytes

/-- How the program is to be called. -/
def usage : Bytes :=
  ("Usage: mawk [Options] [Program] [file ...]\n\n" ++
    "Program:\n" ++
    "    The -f option value is the name of a file containing program text.\n" ++
    "    If no -f option is given, a \"--\" ends option processing; the following\n" ++
    "    parameters are the program text.\n\n" ++
    "Options:\n" ++
    "    -f program-file  Program  text is read from file instead of from the\n" ++
    "                     command-line.  Multiple -f options are accepted.\n" ++
    "    -F value         sets the field separator, FS, to value.\n" ++
    "    -v var=value     assigns value to program variable var.\n" ++
    "    --               unambiguous end of options.\n\n" ++
    "    Implementation-specific options are prefixed with \"-W\".  They can be\n" ++
    "    abbreviated:\n\n" ++
    "    -W version       show version information and exit.\n" ++
    "    -W dump          show assembler-like listing of program and exit.\n" ++
    "    -W help          show this message and exit.\n" ++
    "    -W interactive   set unbuffered output, line-buffered input.\n" ++
    "    -W exec file     use file as program as well as last option.\n" ++
    "    -W posix         stricter POSIX checking.\n" ++
    "    -W random=number set initial random seed.\n" ++
    "    -W sprintf=number adjust size of sprintf buffer.\n" ++
    "    -W usage         show this message and exit.").toList

/-- What the arguments tell, or the complaint about them. -/
def tell : List Bytes → Except Bytes Told
  | [] => .ok ⟨[], [], none, []⟩
  | ['-', '-'] :: rest => .ok ⟨[], [], none, rest⟩
  | ['-'] :: rest => .ok ⟨[], [], none, ['-'] :: rest⟩
  | ['-', c] :: rest =>
    if ['f', 'v', 'F', 'W'].contains c then
      match rest with
      | [] => .error ("option -".toList ++ c :: " lacks argument".toList)
      | value :: rest => with_ c value (tell rest)
    else .error ("not an option: -".toList ++ [c])
  | ('-' :: c :: value) :: rest =>
    if ['f', 'v', 'F', 'W'].contains c then with_ c value (tell rest)
    else .error ("not an option: -".toList ++ c :: value)
  | rest => .ok ⟨[], [], none, rest⟩
where
  with_ (c : Char) (value : Bytes) (told : Except Bytes Told) : Except Bytes Told :=
    match c with
    | 'f' => told.map fun t => { t with files := value :: t.files }
    | 'F' => told.map fun t => { t with separator := t.separator.orElse fun _ => some value }
    | 'v' =>
      match Work.assignment? value with
      | some pair => told.map fun t => { t with values := pair :: t.values }
      | none => .error ("improper assignment: -v ".toList ++ value)
    | _ => told

/-- The text of files, one behind the other. -/
def textOf (s : State) : List Bytes → Except Bytes Bytes
  | [] => .ok []
  | name :: rest => do
    let b ← if name == ['-'] || name == "/dev/stdin".toList then .ok s.input
      else
        match s.readFile name.path with
        | .ok b => .ok b
        | .error .isDirectory => .error "read error (Is a directory)".toList
        | .error fault =>
          .error ("cannot open \"".toList ++ name ++ "\" (".toList ++ fault.wording.toList ++ [')'])
    let more ← textOf s rest
    .ok (Utility.ended b ++ more)

/-- The machine at the start of the work. -/
def start (script : Script) (name : Bytes) (args : List Bytes) (s : State) : Machine :=
  let values : List (String × Value) :=
    [("NF", .number 0), ("NR", .number 0), ("FNR", .number 0), ("FS", .text [' ']), ("OFS", .text [' ']),
      ("ORS", .text ['\n']), ("RS", .text ['\n']), ("SUBSEP", .text ['\x1c']),
      ("CONVFMT", .text "%.6g".toList), ("OFMT", .text "%.6g".toList), ("RSTART", .number 0),
      ("RLENGTH", .number (-1)), ("FILENAME", .text []), ("ARGC", .ofNat (args.length + 1))]
  let names := script.names.map fun b => (values.lookup (String.ofList b)).getD .unset
  let surroundings := s.visible.reverse.foldl
    (fun t v => Table.put t (.text v.1) (.input v.2)) Table.empty
  let given := (((name :: args).zipIdx).foldl
    (fun t (arg, n) => Table.put t (.number n) (.input arg)) Table.empty)
  let tables := (Array.replicate names.length Table.empty).setIfInBounds Work.environment surroundings
  { state := s.done 0, values := names.toArray
    tables := tables.setIfInBounds Work.argTable given
    frame := #[], record := .input [], isStale := false, fields := #[], isSplit := false
    separator := .blanks, stop := .char '\n', main := .closed, nextArg := 1, hasInput := false
    given := none, inlets := [], outlets := [], printed := [], matchers := [], ranges := []
    random := .ofSeed (.number (Float.ofInt (Utility.now s .universal).seconds)), depth := 0, status := 0
    effort := 0 }

/-- How much is read at once. -/
def blockSize : Nat :=
  4096

/-- The state at the end of the work, in which what was not read is left to others. -/
def ended (m : Machine) : State :=
  match m.given.bind fun g => g.origin.map (g, ·) with
  | none => m.state
  | some (g, number, input) =>
    let s := m.state.withSource number input
    if g.isOver then s.drained else s.readAt 0 (g.size - g.left.length) blockSize false

/-- Works on records as a program tells. -/
def run (call : Utility.Call) (name : Bytes) (args : List Bytes) (s : State) : State :=
  let refuse := fun (complaints : List Bytes) =>
    s.failed 2 (Bytes.joinedBy ['\n'] (complaints.map fun text => name ++ ": ".toList ++ text))
  match tell args with
  | .error text => refuse [text]
  | .ok t =>
    if t.files.isEmpty && t.rest.isEmpty then s.failed 2 usage
    else
      let text := if t.files.isEmpty then .ok (t.rest.headD []) else textOf s t.files
      match text with
      | .error complaint => refuse [complaint]
      | .ok text =>
        match Script.read text with
        | .error complaints => refuse complaints
        | .ok script =>
          let args := if t.files.isEmpty then t.rest.drop 1 else t.rest
          let m : Manners := ⟨call, script⟩
          let work : Work Unit := do
            match t.separator with
            | some b => Work.setShared Work.fieldSeparator (.text (Scan.unescaped b.length b))
            | none => pure ()
            for (name, value) in t.values do Work.assignOutside m name value
            Work.all m
          let finish := fun (machine : Machine) (status : Nat) =>
            let machine := { machine with state := ended machine }
            let (result, machine) := (Work.endCommands m (machine.outlets.length + 1)).run.run machine
            let s := (Work.settled machine).state
            match result, s.unwritten with
            | .error .endless, _ => s.going .endless
            | _, some why =>
              { s with unwritten := none }.failed 2
                (name ++ ": write failure (".toList ++ why.toList ++ [')'])
            | _, none => s.done status
          match work.run.run (start script name args s) with
          | (.ok (), machine) => finish machine machine.status
          | (.error (.failed text), machine) =>
            finish { machine with state := machine.state.complain (name ++ ": ".toList ++ text) } 2
          | (.error .endless, machine) => (Work.settled machine).state.going .endless
          | (.error _, machine) => finish machine machine.status

end ScriptDeps.Shell.Awk
