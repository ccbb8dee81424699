/-
The commands that a shell has itself and that run no others.

One that cannot do what it is told complains and breaks the flow of the shell.  Whether that
ends the shell depends on the command: only the special ones do so.
-/
import ScriptDeps.Shell.Job
import ScriptDeps.Shell.Parser
import ScriptDeps.Shell.Printing
import ScriptDeps.Shell.Test
import ScriptDeps.Shell.Variable

/-! ### The limits of processes

Each has a value that counts and one that it cannot be raised above; without one there is no limit.
Nothing here is ever short of anything, so limits are only told. -/

namespace ScriptDeps.Shell.Limit

/-- A kind of limit: its letter, what it is called, how many units one of what is told has, and the
values that it starts with. -/
structure Kind where
  letter : Char
  name : String
  unit : Nat
  bound : Bound

/-- The kinds of limits. -/
def kinds : List Kind :=
  [⟨'t', "time(seconds)", 1, ⟨none, none⟩⟩, ⟨'f', "file(blocks)", 512, ⟨none, none⟩⟩,
    ⟨'d', "data(kbytes)", 1024, ⟨none, none⟩⟩, ⟨'s', "stack(kbytes)", 1024, ⟨some 8388608, none⟩⟩,
    ⟨'c', "coredump(blocks)", 512, ⟨none, none⟩⟩, ⟨'m', "memory(kbytes)", 1024, ⟨none, none⟩⟩,
    ⟨'l', "locked memory(kbytes)", 1024, ⟨some 8388608, some 8388608⟩⟩,
    ⟨'p', "process", 1, ⟨none, none⟩⟩, ⟨'n', "nofiles", 1, ⟨some 1048576, some 1048576⟩⟩,
    ⟨'v', "vmemory(kbytes)", 1024, ⟨none, none⟩⟩, ⟨'w', "locks", 1, ⟨none, none⟩⟩,
    ⟨'r', "rtprio", 1, ⟨some 0, some 0⟩⟩]

/-- The limit of a kind. -/
def current (s : State) (k : Kind) : Bound :=
  (s.limits.lookup k.letter).getD k.bound

/-- A limit is below another one, or the same. -/
def isWithin (a b : Option Nat) : Bool :=
  match a, b with
  | _, none => true
  | none, some _ => false
  | some a, some b => a ≤ b

/-- The state with a limit set, or why that cannot be. -/
def set (s : State) (k : Kind) (bound : Bound) : Except Fault State :=
  if !isWithin bound.soft bound.hard then .error (.worded "Invalid argument")
  else if !isWithin bound.hard (current s k).hard then .error (.worded "Operation not permitted")
  else .ok { s with limits := (k.letter, bound) :: s.limits.filter (·.1 != k.letter) }

/-- How a limit is told. -/
def shown (k : Kind) (value : Option Nat) : Bytes :=
  value.elim "unlimited".toList fun n => Bytes.ofNat (n / k.unit)

/-- A limit in the units of its kind, if the text tells one. -/
def value? (k : Kind) (text : Bytes) : Option (Option Nat) :=
  if text == "unlimited".toList then some none
  else if text.all Char.isDigit then some (some (Arithmetic.inBase 10 text * k.unit))
  else none

/-- Sets a limit or tells it. -/
def limits (args : List Bytes) (s : State) : State :=
  withLetters ("HSa" ++ String.ofList (kinds.map Kind.letter)) "" args s fun given args =>
    let letters := given.map Prod.fst
    let side := (letters.filter fun c => c == 'H' || c == 'S').getLast?
    let isHard := side == some 'H'
    let isSoft := side == some 'S'
    let told := fun (k : Kind) =>
      let bound := current s k
      shown k (if isHard then bound.hard else bound.soft)
    let isAll := letters.contains 'a'
    let letter := ((letters.filter fun c => !(['H', 'S', 'a'].contains c)).getLast?).getD 'f'
    match kinds.find? (·.letter == letter), args with
    | none, _ => s
    | some k, [] =>
      let text := if isAll then kinds.flatMap fun k =>
          k.name.toList ++ List.replicate (20 - k.name.length) ' ' ++ ' ' :: told k ++ ['\n']
        else told k ++ ['\n']
      (s.say text).done 0
    | some k, arg :: more =>
      if isAll || !more.isEmpty then s.breaking "too many arguments".toList
      else
        match value? k arg with
        | none => s.breaking "bad number".toList
        | some value =>
          let old := current s k
          let bound : Bound := ⟨if isHard then old.soft else value, if isSoft then old.hard else value⟩
          match set s k bound with
          | .ok s => s.done 0
          | .error fault => s.breaking ("error setting limit (".toList ++ fault.wording.toList ++ [')'])

end ScriptDeps.Shell.Limit

namespace ScriptDeps.Shell.Builtin

/-! ### Directories -/

/-- Directories that are not looked for anywhere but where they are named. -/
def isPlaced (target : Bytes) : Bool :=
  target.head? == some '/' ||
    ["", ".", ".."].contains (String.ofList (target.takeWhile (· != '/')))

/-- Where a directory may stand, and whether the place is told. -/
def directoryPlaces (s : State) (target : Bytes) : List (Bytes × Bool) :=
  let found := if isPlaced target then none else s.value? "CDPATH".toList
  let places := found.elim [] fun dirs =>
    (Text.splitOn ':' dirs).map fun dir =>
      if dir.isEmpty then (target, false) else (dir ++ '/' :: target, true)
  (places.filter fun p => s.isDir p.1.path) ++ [(target, false)]

/-- Changes the directory.  Unless the path is taken as it stands, a name and the two dots
behind it cancel each other. -/
def changeDirectory (args : List Bytes) (s : State) : State :=
  withLetters "LP" "" args s fun given args =>
    let asItStands := (given.getLast?.map Prod.fst) == some 'P'
    let back := args.head? == some ['-']
    let target := match args.head? with
      | none => (s.value? "HOME".toList).getD []
      | some arg => if back then (s.value? "OLDPWD".toList).getD [] else arg
    let (place, isTold) := ((directoryPlaces s target).head?).getD (target, false)
    let here := s.here
    let p := if target.isEmpty then ⟨"."⟩ else place.path
    let way := here.absolutize p
    match s.locate true (if asItStands then p else way) with
    | .ok loc =>
      if (s.store.node? loc).any Node.isDirectory then
        let moved := fun (s : State) (name : String) (value : Path) =>
          if s.goesOn then (s.assign name.toList (Bytes.ofText value.text)).export_ name.toList else s
        let there := if asItStands then Store.pathOf loc else way
        let s := moved { s with store := { s.store with cwd := loc }, here := there } "OLDPWD" here
        let s := moved s "PWD" there
        if !s.goesOn then s
        else (if back || isTold then s.say (Bytes.ofText there.text ++ ['\n']) else s).done 0
      else s.breaking ("can't cd to ".toList ++ target)
    | .error _ => s.breaking ("can't cd to ".toList ++ target)

def printDirectory (args : List Bytes) (s : State) : State :=
  withLetters "LP" "" args s fun given _ =>
    let asItStands := (given.getLast?.map Prod.fst) == some 'P'
    let here := if asItStands then Store.pathOf s.store.cwd else s.here
    (s.say (Bytes.ofText here.text ++ ['\n'])).done 0

/-! ### Permissions of new files -/

/-- The bits of all permissions. -/
def allBits : Nat :=
  511

/-- The bits that a letter in front of an operator means. -/
def whoBits : Char → Nat
  | 'u' => 448
  | 'g' => 56
  | 'o' => 7
  | _ => allBits

/-- The bits that a letter behind an operator means. -/
def permissionBits : Char → Nat
  | 'r' => 292
  | 'w' => 146
  | 'x' => 73
  | _ => 0

/-- The permissions after the operators of one clause. -/
def applyMode (who : Nat) : Nat → Bytes → Nat → Option Nat
  | 0, _, _ => none
  | _, [], mode => some mode
  | fuel + 1, operator :: s, mode =>
    let (letters, rest) := s.span fun c => "rwxXst".toList.contains c
    let bits := (letters.foldl (fun n c => n ||| permissionBits c) 0) &&& who
    match operator with
    | '+' => applyMode who fuel rest (mode ||| bits)
    | '-' => applyMode who fuel rest (mode &&& (allBits ^^^ bits))
    | '=' => applyMode who fuel rest ((mode &&& (allBits ^^^ who)) ||| bits)
    | _ => none

/-- The permissions after clauses such as `u+w`. -/
def symbolicMode? (text : Bytes) (mode : Nat) : Option Nat :=
  (Text.splitOn ',' text).foldlM
    (fun mode clause =>
      let (who, rest) := clause.span fun c => "ugoa".toList.contains c
      if rest.isEmpty then none
      else
        let bits := if who.isEmpty then allBits else who.foldl (fun n c => n ||| whoBits c) 0
        applyMode bits (rest.length + 1) rest mode)
    mode

/-- The permissions that a mask leaves, by letters. -/
def shownMode (mask : Nat) : Bytes :=
  let one := fun (who : Char) (shift : Nat) =>
    let bits := ((allBits ^^^ mask) >>> shift) &&& 7
    [who, '='] ++ (if bits &&& 4 != 0 then ['r'] else []) ++
      (if bits &&& 2 != 0 then ['w'] else []) ++ (if bits &&& 1 != 0 then ['x'] else [])
  Bytes.joinedBy [','] [one 'u' 6, one 'g' 3, one 'o' 0]

/-- Four octal digits. -/
def octalMode (mask : Nat) : Bytes :=
  [9, 6, 3, 0].map fun shift => Char.ofNat ('0'.toNat + ((mask >>> shift) &&& 7))

def mask (args : List Bytes) (s : State) : State :=
  withLetters "S" "" args s fun given args =>
    match args with
    | [] => (s.say ((if given.isEmpty then octalMode else shownMode) s.umask ++ ['\n'])).done 0
    | arg :: _ =>
      if arg.head?.any Char.isDigit then
        if arg.all Printing.isOctal then
          { s with umask := Arithmetic.inBase 8 arg % 512 }.done 0
        else s.breaking ("Illegal number: ".toList ++ arg)
      else
        match symbolicMode? arg (allBits ^^^ s.umask) with
        | some mode => { s with umask := allBits ^^^ mode }.done 0
        | none => s.breaking ("Illegal mode: ".toList ++ arg)

/-! ### Words that stand for others -/

/-- The place of a name in a table of so many rows that adds up the bytes of names. -/
def row (rows : Nat) (name : Bytes) : Nat :=
  ((name.head?.elim 0 fun c => c.toNat * 16) + name.foldl (fun n c => n + c.toNat) 0) % rows

/-- Entries in the order of their rows, and of their age within one. -/
def inRows {α : Type} (rows : Nat) (name : α → Bytes) (oldestFirst : List α) : List α :=
  oldestFirst.mergeSort fun a b => row rows (name a) ≤ row rows (name b)

def shownAlias (a : Bytes × Bytes) : Bytes :=
  a.1 ++ '=' :: quotedValue a.2 ++ ['\n']

/-- Defines words that stand for others, or lists them. -/
def aliases (args : List Bytes) (s : State) : State :=
  if args.isEmpty then
    (s.say ((inRows 39 Prod.fst s.aliases.reverse).flatMap shownAlias)).done 0
  else
    args.foldl
      (fun s arg =>
        match Text.cutAt? '=' arg with
        | some (c :: name, value) =>
          { s with aliases := (c :: name, value) :: s.aliases.filter (·.1 != c :: name) }
        | _ =>
          match s.aliases.lookup arg with
          | some value => s.say (shownAlias (arg, value))
          | none => s.failed 1 ("alias: ".toList ++ arg ++ " not found".toList))
      (s.done 0)

def removeAliases (args : List Bytes) (s : State) : State :=
  withLetters "a" "" args s fun given args =>
    if !given.isEmpty then { s with aliases := [] }.done 0
    else
      args.foldl
        (fun s arg =>
          if (s.aliases.lookup arg).isSome then
            { s with aliases := s.aliases.filter (·.1 != arg) }
          else s.failed 1 ("unalias: ".toList ++ arg ++ " not found".toList))
        (s.done 0)

/-! ### What names mean -/

/-- The commands of the shell that are special: what goes wrong in them ends the shell. -/
def specialNames : List String :=
  [".", ":", "break", "continue", "eval", "exec", "exit", "export", "local", "readonly", "return",
    "set", "shift", "times", "trap", "unset"]

/-- The other commands of the shell. -/
def plainNames : List String :=
  ["[", "alias", "bg", "cd", "chdir", "command", "echo", "false", "fg", "getopts", "hash", "jobs",
    "kill", "printf", "pwd", "read", "test", "true", "type", "ulimit", "umask", "unalias",
    "wait"]

/-- A name's meaning as a command. -/
inductive Meaning where
  | special
  | function
  | plain
  /-- A program at a path. -/
  | program (p : Path)
  | unknown

/-- What a name means as a command; functions do not count unless they are asked for. -/
def meaning (s : State) (functions : Bool) (searchPath : String) (name : Bytes) : Meaning :=
  let text := String.ofList name
  if specialNames.contains text then .special
  else if functions && (s.functions.lookup name).isSome then .function
  else if plainNames.contains text then .plain
  else if name.contains '/' then
    if Program.isProgram s.lookup name.path then .program name.path else .unknown
  else if name.isEmpty then .unknown
  else (Program.search? s.lookup searchPath name.text).elim .unknown .program

/-- What a name means, briefly or at length, and whether it means something. -/
def described (s : State) (searchPath : String) (atLength : Bool) (name : Bytes) : Bytes × Bool :=
  let told := fun (text : String) => (if atLength then name ++ text.toList else name, true)
  if Token.keywords.contains (String.ofList name) then told " is a shell keyword"
  else
    match s.aliases.lookup name with
    | some value =>
      (if atLength then name ++ " is an alias for ".toList ++ value
        else "alias ".toList ++ (shownAlias (name, value)).dropLast, true)
    | none =>
      match meaning s true searchPath name with
      | .special => told " is a special shell builtin"
      | .function => told " is a shell function"
      | .plain => told " is a shell builtin"
      | .program p =>
        let link := if s.located.contains name then " is a tracked alias for " else " is "
        let p := Bytes.ofText p.text
        (if atLength then name ++ link.toList ++ p else p, true)
      | .unknown => (if atLength then name ++ ": not found".toList else [], false)

/-- Prints what names mean. -/
def describeAll (searchPath : String) (atLength : Bool) (args : List Bytes) (s : State) : State :=
  args.foldl
    (fun s name =>
      let before := s.status
      let (text, known) := described s searchPath atLength name
      (if text.isEmpty then s else s.say (text ++ ['\n'])).done (if known then before else 127))
    (s.done 0)

/-- What is left of `command` where it runs nothing. -/
def explain (args : List Bytes) (s : State) : State :=
  withLetters "pvV" "" args s fun given args =>
    let searchPath := if given.any (·.1 == 'p') then Program.standardPath else s.searchPath
    match (given.filter (·.1 != 'p')).getLast? with
    | some (c, _) => describeAll searchPath (c == 'V') (args.take 1) s
    | none => s.done 0

/-- Looks for programs on the search path, or lists those that were found. -/
def locate (args : List Bytes) (s : State) : State :=
  withLetters "r" "" args s fun given args =>
    if !given.isEmpty then { s with located := [] }.done 0
    else if args.isEmpty then
      let names := inRows 31 id s.located.reverse
      let paths := names.filterMap fun name => Program.search? s.lookup s.searchPath name.text
      (s.say (paths.flatMap fun p => Bytes.ofText p.text ++ ['\n'])).done 0
    else
      args.foldl
        (fun s name =>
          match meaning s true s.searchPath name with
          | .unknown => (s.object (name ++ ": not found".toList)).done 1
          | .program _ => { s with located := name :: s.located.filter (· != name) }
          | _ => s)
        (s.done 0)

/-! ### Ways out -/

/-- The number that an argument is, if there is one. -/
def withNumber (args : List Bytes) (s : State) (absent : State) (f : Nat → State) : State :=
  match args with
  | [] => absent
  | arg :: _ => arg.natural?.elim (s.breaking ("Illegal number: ".toList ++ arg)) f

/-- Leaves loops, or goes on with their next rounds. -/
def leaveLoops (flow : Nat → Flow) (args : List Bytes) (s : State) : State :=
  let go := fun n => if s.loops == 0 then s.done 0 else (s.done 0).going (flow (min n s.loops))
  withNumber args s (go 1) fun n =>
    if n == 0 then s.breaking ("Illegal number: ".toList ++ (args.head?).getD []) else go n

def shift (args : List Bytes) (s : State) : State :=
  let go := fun n =>
    if s.args.length < n then s.breaking "can't shift that many".toList
    else { s with args := s.args.drop n }.done 0
  withNumber args s (go 1) go

/-! ### Printing and judging -/

def format (args : List Bytes) (s : State) : State :=
  withLetters "" "" args s fun _ args =>
    match args with
    | [] => s.breaking Printing.usage
    | format :: args =>
      let p := Printing.printf format args
      let s := p.complaints.reverse.foldl State.object s
      (s.say p.printed).done (if p.senseless then 2 else if p.failed then 1 else 0)

def judge (args : List Bytes) (s : State) : State :=
  match Test.value s args with
  | .ok holds => s.done (if holds then 0 else 1)
  | .error trouble => s.breaking trouble.wording

/-- The commands by their names. -/
def table : List (String × (List Bytes → State → State)) :=
  [(":", fun _ s => s.done 0),
    ("true", fun _ s => s.done 0),
    ("false", fun _ s => s.done 1),
    ("echo", fun args s => (s.say (Printing.echo args)).done 0),
    ("printf", format),
    ("test", judge),
    ("[", fun args s =>
      if args.getLast? == some [']'] then judge args.dropLast s
      else s.breaking "missing ]".toList),
    ("cd", changeDirectory),
    ("chdir", changeDirectory),
    ("pwd", printDirectory),
    ("read", readLine),
    ("getopts", readOption),
    ("export", exportAll),
    ("readonly", fixAll),
    ("local", localize),
    ("unset", unsetAll),
    ("set", setOptions),
    ("shift", shift),
    ("break", leaveLoops .leave),
    ("continue", leaveLoops .again),
    ("return", fun args s =>
      withNumber args s (s.going .back) fun n => (s.done n).going .back),
    ("exit", fun args s =>
      withNumber args s (s.going (.exit false)) fun n => (s.done n).going (.exit true)),
    ("wait", waitAll),
    ("jobs", listJobs),
    ("fg", resume),
    ("bg", resume),
    ("kill", kill),
    ("trap", trap),
    ("umask", mask),
    ("ulimit", Limit.limits),
    ("alias", aliases),
    ("unalias", removeAliases),
    ("type", fun args s => describeAll s.searchPath true args s),
    ("command", explain),
    ("hash", locate),
    ("times", fun _ s =>
      (s.say "0m0.000000s 0m0.000000s\n0m0.000000s 0m0.000000s\n".toList).done 0)]

/-- The state after a command of the shell that runs no other, if it is one. -/
def run? (name : Bytes) (args : List Bytes) (s : State) : Option State :=
  (table.lookup (String.ofList name)).map fun f => f args s

end ScriptDeps.Shell.Builtin
