/-
What the utilities that scripts call have in common: options, files to read, complaints.

A utility takes its arguments and the state and gives the state after it.  Options may stand
anywhere among the arguments; behind two dashes all that follows is no option.
-/
import ScriptDeps.Shell.Files

namespace ScriptDeps.Shell.Utility

/-- A way to run a program with its arguments in a process of its own. -/
abbrev Call := List Bytes → State → State

/-! ### Options -/

/-- The options of a utility: letters that stand alone, letters with a value, letters with a value
that may be missing, and the long names of letters. -/
structure Known where
  flags : List Char
  valued : List Char
  optional : List Char
  long : List (Bytes × Char)

namespace Known

/-- The letters of a text in which one that takes a value is followed by a colon, and by two if
the value may be missing. -/
def withLetters (k : Known) : List Char → Known
  | c :: ':' :: ':' :: rest => { withLetters k rest with optional := c :: (withLetters k rest).optional }
  | c :: ':' :: rest => { withLetters k rest with valued := c :: (withLetters k rest).valued }
  | c :: rest => { withLetters k rest with flags := c :: (withLetters k rest).flags }
  | [] => k

/-- The options of two texts: one with the letters, and one with the long names, each with an equals
sign and its letter. -/
def of (letters long : String) : Known :=
  let pairs := (Text.splitOn ' ' long.toList).filterMap fun word =>
    match word.span (· != '=') with
    | (name, '=' :: c :: _) => some (name, c)
    | _ => none
  withLetters ⟨[], [], [], pairs⟩ letters.toList

end Known

/-- Options, each with its value, and the other arguments. -/
structure Options where
  given : List (Char × Bytes)
  args : List Bytes

namespace Options

def has (o : Options) (letter : Char) : Bool :=
  o.given.any (·.1 == letter)

/-- The last value of an option. -/
def value? (o : Options) (letter : Char) : Option Bytes :=
  (o.given.filter (·.1 == letter)).getLast?.map Prod.snd

/-- All values of an option. -/
def values (o : Options) (letter : Char) : List Bytes :=
  (o.given.filter (·.1 == letter)).map Prod.snd

/-- The last one given of some options. -/
def last? (o : Options) (letters : List Char) : Option Char :=
  ((o.given.map Prod.fst).filter letters.contains).getLast?

def cons (letter : Char) (value : Bytes) (o : Options) : Options :=
  { o with given := (letter, value) :: o.given }

end Options

/-- Why options cannot be read. -/
inductive Misuse where
  | unknownLetter (c : Char)
  | unknownName (text : Bytes)
  | ambiguous (text : Bytes) (names : List Bytes)
  | unwantedValue (name : Bytes)
  | missingValue (c : Char)
  | missingNamed (name : Bytes)
  deriving DecidableEq, Repr

/-- The end of a complaint about how a utility was called. -/
def advice (name : String) : Bytes :=
  let line := "Try '" ++ name ++ " --help' for more information."
  match name with
  | "grep" => ("\nUsage: grep [OPTION]... PATTERNS [FILE]...\n" ++ line).toList
  | "cmp" | "diff" => ("\n" ++ name ++ ": " ++ line).toList
  | _ => ("\n" ++ line).toList

/-- What is wrong with the options. -/
def Misuse.text : Misuse → Bytes
  | .unknownLetter c => "invalid option -- '".toList ++ [c, '\x27']
  | .unknownName n => "unrecognized option '--".toList ++ n ++ ['\x27']
  | .ambiguous text names =>
    "option '--".toList ++ text ++ "' is ambiguous; possibilities:".toList ++
      names.flatMap fun n => " '--".toList ++ n ++ ['\x27']
  | .unwantedValue n => "option '--".toList ++ n ++ "' doesn't allow an argument".toList
  | .missingValue c => "option requires an argument -- '".toList ++ [c, '\x27']
  | .missingNamed n => "option '--".toList ++ n ++ "' requires an argument".toList

/-- The complaint about options. -/
def Misuse.wording (name : String) (m : Misuse) : Bytes :=
  name.toList ++ ": ".toList ++ m.text ++ advice name

/-- The options among the letters of one argument.  The last one may take its value from the
arguments behind it. -/
def letterOptions (k : Known) (letters : Bytes) (rest : List Bytes) :
    Except Misuse (List (Char × Bytes) × List Bytes) :=
  match letters with
  | [] => .ok ([], rest)
  | c :: more =>
    if k.valued.contains c then
      match more, rest with
      | [], value :: rest => .ok ([(c, value)], rest)
      | [], [] => .error (.missingValue c)
      | value, rest => .ok ([(c, value)], rest)
    else if k.optional.contains c then .ok ([(c, more)], rest)
    else if k.flags.contains c then
      (letterOptions k more rest).map fun (given, rest) => ((c, []) :: given, rest)
    else .error (.unknownLetter c)

/-- The option of a long name or of the start of one, with what stands behind an equals sign as
its value. -/
def longOption (k : Known) (text : Bytes) (rest : List Bytes) :
    Except Misuse ((Char × Bytes) × List Bytes) :=
  let (start, value) := text.span (· != '=')
  let meant : List (Bytes × Char) := match k.long.filter (·.1 == start) with
    | [] => k.long.filter fun (name, _) => start.isPrefixOf name
    | exact => exact
  match meant with
  | [] => .error (.unknownName text)
  | (name, c) :: others =>
    if !others.all (·.2 == c) then .error (.ambiguous text (meant.map Prod.fst))
    else if k.valued.contains c then
      match value, rest with
      | _ :: value, _ => .ok ((c, value), rest)
      | [], value :: rest => .ok ((c, value), rest)
      | [], [] => .error (.missingNamed name)
    else if k.optional.contains c then .ok ((c, value.drop 1), rest)
    else if value.isEmpty then .ok ((c, []), rest)
    else .error (.unwantedValue name)

/-- The options and the other arguments.  Unless `anywhere`, options end at the first other
argument. -/
def readOptions (k : Known) (anywhere : Bool) : Nat → List Bytes → Except Misuse Options
  | 0, args => .ok ⟨[], args⟩
  | _, [] => .ok ⟨[], []⟩
  | fuel + 1, arg :: rest => do
    match arg with
    | ['-', '-'] => .ok ⟨[], rest⟩
    | '-' :: '-' :: text =>
      let (option, rest) ← longOption k text rest
      let o ← readOptions k anywhere fuel rest
      .ok (o.cons option.1 option.2)
    | '-' :: c :: letters =>
      let (given, rest) ← letterOptions k (c :: letters) rest
      let o ← readOptions k anywhere fuel rest
      .ok { o with given := given ++ o.given }
    | arg =>
      if anywhere then
        let o ← readOptions k anywhere fuel rest
        .ok { o with args := arg :: o.args }
      else .ok ⟨[], arg :: rest⟩

/-! ### Complaints -/

/-- A character that means something to a shell. -/
def isShellSpecial (c : Char) : Bool :=
  [' ', '!', '"', '$', '&', '(', ')', '*', ';', '<', '=', '>', '[', '^', '\x60', '|', '?', '\\',
    '\x27', ':'].contains c

/-- A text in the quotes of a complaint.  An apostrophe asks for double quotes, unless the text has
what means something in those. -/
def quoted (b : Bytes) : Bytes :=
  let isPlain := fun c => !isShellSpecial c || c == ' ' || c == '\x27' || c == ':'
  if !b.contains '\x27' then '\x27' :: b ++ ['\x27']
  else if b.all isPlain then '"' :: b ++ ['"']
  else '\x27' :: b.flatMap (fun c => if c == '\x27' then "'\\''".toList else [c]) ++ ['\x27']

/-- A text in the curly quotes of a complaint. -/
def cited (b : Bytes) : Bytes :=
  let shown := b.flatMap fun
    | '\\' => "\\\\".toList
    | '\n' => "\\n".toList
    | '\t' => "\\t".toList
    | c => [c]
  Bytes.ofText "‘" ++ shown ++ Bytes.ofText "’"

/-- A name in a complaint, in quotes where a shell would not take it as it is. -/
def shownName (b : Bytes) : Bytes :=
  if b.isEmpty || b.any isShellSpecial || b.head? == some '#' || b.head? == some '~' ||
      b == ['\x7b'] || b == ['\x7d'] then quoted b
  else b

/-- A complaint of a utility about a fault. -/
def complaint (name what : String) (arg : Bytes) (fault : Fault) : Bytes :=
  name.toList ++ ": ".toList ++ what.toList ++ quoted arg ++ ": ".toList ++ fault.wording.toList

/-- The state after a complaint of a utility. -/
def refused (name : String) (text : Bytes) (s : State) : State :=
  s.failed 1 (name.toList ++ ": ".toList ++ text)

/-- The complaint that there is an operand too much. -/
def extraOperand (name : String) (arg : Bytes) (s : State) : State :=
  refused name ("extra operand ".toList ++ cited arg ++ advice name) s

/-- The status of a utility that cannot read its options. -/
def misuseStatus (name : String) : Nat :=
  if ["grep", "ls", "sort", "expr", "diff", "cmp", "printenv"].contains name then 2 else 1

/-- Calls a utility with its options, or complains about them. -/
def withOptions (name : String) (k : Known) (args : List Bytes) (s : State)
    (f : Options → State) : State :=
  match readOptions k true (args.length + 1) args with
  | .ok o => f o
  | .error m => s.failed (misuseStatus name) (m.wording name)

/-- The known options that are letters alone. -/
def letters (flags : String) : Known :=
  .of flags ""

/-- The state after a utility has been applied to each argument; one failure is enough to make
it fail. -/
def forEach (args : List Bytes) (s : State) (f : State → Bytes → State) : State :=
  args.foldl
    (fun s arg =>
      let before := s.status
      let s := f (s.done 0) arg
      s.done (max before s.status))
    (s.done 0)

/-- The complaint that a utility lacks an operand. -/
def missingOperand (name : String) (s : State) : State :=
  s.failed 1 ((name ++ ": missing operand\nTry '" ++ name ++ " --help' for more information.").toList)

/-! ### Reading -/

/-- The complaint about a file that cannot be read. -/
def unreadable (name : String) (arg : Bytes) (fault : Fault) : Bytes :=
  let text := match name with
    | "head" | "tail" =>
      if fault == .isDirectory then "error reading ".toList ++ quoted arg
      else "cannot open ".toList ++ quoted arg ++ " for reading".toList
    | "tac" => "failed to open ".toList ++ quoted arg ++ " for reading".toList
    | "sort" =>
      (if fault == .isDirectory then "read failed: " else "cannot read: ").toList ++ shownName arg
    | "sed" => (if fault == .isDirectory then "couldn't edit " else "can't read ").toList ++ arg
    | "grep" | "cmp" => arg
    | _ => shownName arg
  name.toList ++ ": ".toList ++ text ++ ": ".toList ++ fault.wording.toList

/-- The status of a utility that cannot read a file. -/
def unreadableStatus (name : String) : Nat :=
  if ["grep", "sort", "sed", "cmp"].contains name then 2 else 1

/-- The bytes of a file, or what is left to read where the argument is a dash. -/
def contentOf (name : String) (s : State) (arg : Bytes) : State × Option Bytes :=
  let refuse := fun (arg : Bytes) (fault : Fault) =>
    (s.failed (unreadableStatus name) (unreadable name arg fault), none)
  if arg == ['-'] then
    if s.readsDirectory 0 then refuse ['-'] .isDirectory
    else if (s.descriptors.lookup 0).isNone then refuse ['-'] (.worded "Bad file descriptor")
    else (s.drained, some s.input)
  else
    match s.readFile arg.path with
    | .ok bytes =>
      let s := match s.deviceAt? arg.path with
        | some (.descriptor n) => if s.isPiped n then s.drainedAt n else s
        | _ => s
      let isEndless := (s.deviceAt? arg.path).any Device.isEndless && name != "cmp"
      (if isEndless then s.going .endless else s, some bytes)
    | .error fault => refuse arg fault

/-- The bytes of a file, or what is left to read.  If a part of that is enough for a utility, which tells how
much, others can read what comes behind the last block of it. -/
def contentUpTo (name : String) (block : Nat) (enough : Bytes → Option Nat) (s : State) (arg : Bytes) :
    State × Option Bytes :=
  if arg == ['-'] && !s.readsDirectory 0 && (s.descriptors.lookup 0).isSome then
    let b := s.input
    ((enough b).elim s.drained fun n => s.readAt 0 n block true, some b)
  else contentOf name s arg

/-- The files to read, which is what is left to read if none is named. -/
def inputs (args : List Bytes) : List Bytes :=
  if args.isEmpty then [['-']] else args

/-- Applies a printing utility to the content of each file, or to what is left to read. -/
def filter (name : String) (args : List Bytes) (s : State) (f : Bytes → Bytes) : State :=
  forEach (inputs args) s fun s arg =>
    match contentOf name s arg with
    | (s, some bytes) => s.say (f bytes)
    | (s, none) => s

/-- Applies a printing utility to all files at once. -/
def filterAll (name : String) (args : List Bytes) (s : State) (f : Bytes → Bytes) : State :=
  let (s, all) := (inputs args).foldl
    (fun (s, all) arg =>
      match contentOf name s arg with
      | (s, some bytes) => (s, all ++ bytes)
      | (s, none) => (s, all))
    (s.done 0, [])
  let status := s.status
  (s.say (f all)).done status

/-- A line with its line end, which the last one may lack. -/
def ended (line : Bytes) : Bytes :=
  if line.getLast? == some '\n' then line else line ++ ['\n']

/-- A line without its line end. -/
def bare (line : Bytes) : Bytes :=
  if line.getLast? == some '\n' then line.dropLast else line

end ScriptDeps.Shell.Utility
