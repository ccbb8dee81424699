/-
The variables of a shell, and the commands that set them.

Beside the variables that scripts name there are the arguments and some values that the
shell keeps itself, under names of one character.
-/
import ScriptDeps.Shell.Arithmetic
import ScriptDeps.Shell.Field
import ScriptDeps.Shell.Program
import ScriptDeps.Shell.Setting

namespace ScriptDeps.Shell

namespace State

/-- The bytes at which loose bytes are taken apart. -/
def separators (s : State) : Bytes :=
  (s.value? "IFS".toList).getD Piece.standardSeparators

/-- The search path for programs. -/
def searchPath (s : State) : String :=
  ((s.value? "PATH".toList).map Bytes.text).getD (if s.isExtended then "" else Program.standardPath)

/-- The value of a variable of any name. -/
def valueOf? (s : State) (name : Bytes) : Option Bytes :=
  match name with
  | ['@'] | ['*'] => some (Bytes.joinedBy (Piece.between s.separators) s.args)
  | ['#'] => some (Bytes.ofNat s.args.length)
  | ['?'] => some (Bytes.ofNat s.status)
  | ['$'] => some (Bytes.ofNat (shownNumber s.shell))
  | ['!'] => s.background.map fun process => Bytes.ofNat (shownNumber process)
  | ['-'] => some (Setting.letters s)
  | name =>
    match name.natural? with
    | some 0 => some s.name
    | some n => s.args[n - 1]?
    | none => s.value? name

/-- The complaint about a name that no variable can have. -/
def badName (name : Bytes) : Bytes :=
  name ++ ": bad variable name".toList

/-- The state after an assignment to a variable of any name. -/
def assignChecked (s : State) (name value : Bytes) : State :=
  if Bytes.isName name then s.assign name value else s.breaking (badName name)

end State

/-! ### Options of commands -/

/-- The letters in front of the other arguments, each with its value, and those arguments.
Letters are allowed as flags or with a value. -/
def letterOptions (flags valued : String) : Nat → List Bytes →
    Except Bytes (List (Char × Bytes) × List Bytes)
  | 0, args => .ok ([], args)
  | fuel + 1, args =>
    match args with
    | ['-', '-'] :: rest => .ok ([], rest)
    | ('-' :: c :: more) :: rest =>
      if flags.toList.contains c then do
        let next := if more.isEmpty then rest else ('-' :: more) :: rest
        let (given, rest) ← letterOptions flags valued fuel next
        return ((c, []) :: given, rest)
      else if valued.toList.contains c then
        match more, rest with
        | [], [] => .error ("No arg for -".toList ++ [c] ++ " option".toList)
        | [], value :: rest => do
          let (given, rest) ← letterOptions flags valued fuel rest
          return ((c, value) :: given, rest)
        | value, rest => do
          let (given, rest) ← letterOptions flags valued fuel rest
          return ((c, value) :: given, rest)
      else .error ("Illegal option -".toList ++ [c])
    | args => .ok ([], args)

/-- Calls a command with its options, or complains about them. -/
def withLetters (flags valued : String) (args : List Bytes) (s : State)
    (f : List (Char × Bytes) → List Bytes → State) : State :=
  match letterOptions flags valued ((args.map List.length).foldr (· + ·) args.length) args with
  | .ok (given, args) => f given args
  | .error text => s.breaking text

/-- A value in the quotes that a script needs around it. -/
def quotedValue (value : Bytes) : Bytes :=
  let (run, rest) := value.span (· != '\x27')
  inQuotes run ++ quotes (rest.length + 1) rest
where
  inQuotes (b : Bytes) : Bytes := '\x27' :: b ++ ['\x27']
  /-- What is behind text in quotes: more quotes, and the text behind them. -/
  quotes : Nat → Bytes → Bytes
    | 0, _ => []
    | _, [] => []
    | fuel + 1, s =>
      let (marks, rest) := s.span (· == '\x27')
      let (run, rest') := rest.span (· != '\x27')
      '"' :: marks ++ ['"'] ++ (if rest.isEmpty then [] else inQuotes run ++ quotes fuel rest')

namespace State

/-- The names of the variables in their order, each once. -/
def sortedNames (names : List Bytes) : List Bytes :=
  names.eraseDups.mergeSort fun a b => !Bytes.isBefore b a

/-- Variables as commands that make them what they are. -/
def shownVariables (s : State) (front : String) (names : List Bytes) : Bytes :=
  (sortedNames names).flatMap fun name =>
    front.toList ++ name ++
      (s.value? name).elim [] (fun value => '=' :: quotedValue value) ++ ['\n']

end State

namespace Builtin

/-- A name and the value that an argument assigns to it, if it assigns one. -/
def nameAndValue (arg : Bytes) : Bytes × Option Bytes :=
  match Text.cutAt? '=' arg with
  | some (name, value) => (name, some value)
  | none => (arg, none)

/-- Applies a change for each argument, as long as nothing goes wrong. -/
def eachArgument (args : List Bytes) (s : State) (f : State → Bytes → State) : State :=
  args.foldl (fun s arg => if s.goesOn then f s arg else s) (s.done 0)

/-- Assigns what the arguments assign, and marks their variables.  Without arguments the marked
variables are listed. -/
def declare (name : String) (marked : State → List Bytes) (mark : State → Bytes → State)
    (args : List Bytes) (s : State) : State :=
  withLetters "p" "" args s fun given args =>
    if given.isEmpty && !args.isEmpty then
      eachArgument args s fun s arg =>
        let (v, value) := nameAndValue arg
        if !Bytes.isName v then s.breaking (State.badName v)
        else
          let s := value.elim s (s.assign v)
          if s.goesOn then mark s v else s
    else (s.say (s.shownVariables (name ++ " ") (marked s))).done 0

def exportAll : List Bytes → State → State :=
  declare "export" State.exported State.export_

def fixAll : List Bytes → State → State :=
  declare "readonly" State.fixed fun s name =>
    if s.isFixed name then s else { s with fixed := name :: s.fixed }

/-- Makes variables a function's own.  A dash stands for the options. -/
def localize (args : List Bytes) (s : State) : State :=
  match s.outer with
  | none => s.breaking "not in a function".toList
  | some _ =>
    eachArgument args s fun s arg =>
      let (name, value) := nameAndValue arg
      let keep := fun (old : Shadowed) => { s with outer := s.outer.map (old :: ·) }
      if arg == ['-'] then keep ⟨['-'], some s.options, false, false, none, []⟩
      else if value.isNone && !Bytes.isName name then s.breaking (State.badName name)
      else
        let s := keep (s.shadow name)
        value.elim s (s.assign name)

/-- The state in which the variables that a function made its own are what they were, the last
one first. -/
def unshadowed (s : State) (olds : List Shadowed) : State :=
  olds.foldl
    (fun s old =>
      if old.name == ['-'] then { s with options := old.value.getD [] } else s.restore old) s

/-- Removes variables or functions. -/
def unsetAll (args : List Bytes) (s : State) : State :=
  withLetters "fv" "" args s fun given args =>
    let functions := given.getLast?.any (·.1 == 'f')
    eachArgument args s fun s name =>
      if functions then { s with functions := s.functions.filter (·.1 != name) }
      else if !Bytes.isName name then s.breaking (State.badName name)
      else if s.isFixed name then s.refusing name
      else s.clear name

/-- Sets options and arguments.  Without arguments the variables are listed. -/
def setOptions (args : List Bytes) (s : State) : State :=
  if args.isEmpty then (s.say (s.shownVariables "" (s.vars.map Prod.fst))).done 0
  else
    match Setting.read false args s with
    | .error text => s.breaking text
    | .ok w =>
      let s := w.state.done 0
      if w.rest.isEmpty && !w.replaces then s else { s with args := w.rest }

/-! ### Reading lines -/

/-- The bytes of a line of which each remembers whether a backslash stood in front of it, whether
the line has ended, and what is behind it.  A backslash at its end joins it to the next line. -/
def lineBytes (raw : Bool) : Bytes → List (Char × Bool) × Bool × Bytes
  | [] => ([], false, [])
  | '\n' :: rest => ([], true, rest)
  | '\\' :: c :: rest =>
    if raw then
      let (line, ended, rest) := lineBytes raw (c :: rest)
      (('\\', false) :: line, ended, rest)
    else
      let (line, ended, rest) := lineBytes raw rest
      (if c == '\n' || c == '\x00' then (line, ended, rest) else ((c, true) :: line, ended, rest))
  | c :: rest =>
    let (line, ended, rest) := lineBytes raw rest
    (if c == '\x00' || (c == '\\' && !raw) then (line, ended, rest)
      else ((c, false) :: line, ended, rest))

/-- Gives variables the words of a line, the last one all that is left, if that is more than a
word. -/
def fill (separators : Bytes) : List Bytes → List (Char × Bool) → State → State
  | [], _, s => s
  | name :: names, line, s =>
    let separates := fun (c : Char × Bool) => !c.2 && separators.contains c.1
    let isGap := fun c => separates c && Bytes.isBlank c.1
    let (word, rest) := line.span (!separates ·)
    let behind := rest.dropWhile isGap
    let next := match behind with
      | c :: after => if separates c then after.dropWhile isGap else behind
      | [] => []
    let value := if names.isEmpty && !next.isEmpty then (line.reverse.dropWhile isGap).reverse
      else word
    let s := s.assignChecked name (value.map Prod.fst)
    if s.goesOn then fill separators names next s else s

/-- Reads a line into variables. -/
def readLine (args : List Bytes) (s : State) : State :=
  withLetters "r" "p" args s fun given args =>
    if args.isEmpty then s.breaking "arg count".toList
    else
      let (line, ended, rest) := lineBytes (given.any (·.1 == 'r')) s.input
      let separators := s.separators
      let line := line.dropWhile fun c => !c.2 && separators.contains c.1 && Bytes.isBlank c.1
      let s := fill separators args line (if ended then s.leaveAt 0 rest else s.drained)
      if s.goesOn then s.done (if ended then 0 else 1) else s

/-! ### Reading options -/

/-- The next option among arguments that are read one option at a time. -/
def nextOption (known name : Bytes) (args : List Bytes) (s : State) : State :=
  let index := max 1 (((s.value? "OPTIND".toList).bind Bytes.natural?).getD 1)
  let index := if args.length + 1 < index then 1 else index
  let argument := fun i => if i == 0 then none else args[i - 1]?
  let current := ((argument (index - 1)).map fun a => a.drop s.optionPlace).getD []
  let continues := 1 < index && s.optionPlace != 0 && !current.isEmpty
  let put := fun (s : State) (name : String) (value : Bytes) => s.assign name.toList value
  -- The letters that are left of the argument in question, and the index of the next one.
  let front : Option Bytes × Nat :=
    if continues then (some current, index)
    else
      match argument index with
      | some ['-', '-'] => (none, index + 1)
      | some ('-' :: c :: more) => (some (c :: more), index + 1)
      | _ => (none, index)
  let finish := fun (s : State) (option : Char) (left : Bytes) (index : Nat) (status : Nat) =>
    let s := put s "OPTIND" (Bytes.ofNat index)
    let s := if s.goesOn then s.assignChecked name [option] else s
    let place := ((argument (index - 1)).map List.length).getD 0 - left.length
    if s.goesOn then { s with optionPlace := if left.isEmpty then 0 else place }.done status else s
  let quiet := known.head? == some ':'
  match front with
  | (none, index) => finish s '?' [] index 1
  | (some [], index) => finish s '?' [] index 1
  | (some (c :: left), index) =>
    let behind := (known.dropWhile (· != c)).tail
    if !known.contains c || c == ':' then
      if quiet then finish (put s "OPTARG" [c]) '?' left index 0
      else
        let s := s.complain ("Illegal option -".toList ++ [c])
        finish (s.clear "OPTARG".toList) '?' left index 0
    else if behind.head? != some ':' then finish (put s "OPTARG" []) c left index 0
    else
      match left, argument index with
      | [], none =>
        if quiet then finish (put s "OPTARG" [c]) ':' [] index 0
        else
          let s := s.complain ("No arg for -".toList ++ c :: " option".toList)
          finish (s.clear "OPTARG".toList) '?' [] index 0
      | [], some value => finish (put s "OPTARG" value) c [] (index + 1) 0
      | value, _ => finish (put s "OPTARG" value) c [] index 0

def readOption (args : List Bytes) (s : State) : State :=
  match args with
  | [known, name] => nextOption known name s.args s
  | known :: name :: args => nextOption known name args s
  | _ => s.breaking "Usage: getopts optstring var [arg...]".toList

end Builtin

end ScriptDeps.Shell
