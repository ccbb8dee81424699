/-
The arguments of the command line.

    csx [options] <command> [options] [script]

Most options may stand before the command and after it; what stands after it counts, and
only where an option is missing in both places does a variable of the environment.  An
option is given once in each place, apart from the sources, of which there may be many.
Long options take their value behind an equals sign or as the next argument, short ones
may be written together and take what is behind them or the next argument.  A value does
not begin with a dash, except for a lone dash.  A double dash makes all arguments behind it
plain ones.
-/
import ScriptDeps.Environment
import ScriptDeps.Text.Number

namespace ScriptDeps.CommandLine

/-- The commands. -/
inductive Verb where
  | graph
  | restore
  | resolve
  | clean
  deriving DecidableEq, Repr

/-- An option with a value. -/
inductive Setting where
  | source
  | cacheRoot
  | framework
  | runtime
  | tool
  | timeout
  deriving DecidableEq, Repr

/-- An option without a value. -/
inductive Switch where
  | verbose
  | noCache
  | json
  | help
  | version
  deriving DecidableEq, Repr

/-- Why the arguments lead to no command. -/
inductive Refusal where
  /-- They are wrong. -/
  | usage
  /-- They ask for help. -/
  | help
  /-- They ask for the version. -/
  | version
  deriving DecidableEq, Repr

/-- An option. -/
inductive Opt where
  | setting (s : Setting)
  | switch (s : Switch)
  deriving DecidableEq, Repr

namespace Opt

/-- The option may stand behind a command, or before one if there is none. -/
def isKnown (verb : Option Verb) : Opt → Bool
  | .setting _ | .switch .verbose | .switch .help => true
  | .switch .version => verb.isNone
  | .switch .noCache => verb == some .restore || verb == some .resolve
  | .switch .json => verb == some .resolve

/-- The option with a long name. -/
def ofLong? (verb : Option Verb) (name : String) : Option Opt :=
  let found : Option Opt := match name with
    | "source" => some (.setting .source)
    | "cache-root" => some (.setting .cacheRoot)
    | "framework" => some (.setting .framework)
    | "runtime" => some (.setting .runtime)
    | "restore-tool" => some (.setting .tool)
    | "restore-timeout" => some (.setting .timeout)
    | "verbose" => some (.switch .verbose)
    | "no-cache" => some (.switch .noCache)
    | "json" => some (.switch .json)
    | "help" => some (.switch .help)
    | "version" => some (.switch .version)
    | _ => none
  found.filter (isKnown verb)

/-- The option with a letter. -/
def ofShort? (verb : Option Verb) (letter : Char) : Option Opt :=
  let found : Option Opt := match letter with
    | 's' => some (.setting .source)
    | 'f' => some (.setting .framework)
    | 'r' => some (.setting .runtime)
    | 'v' => some (.switch .verbose)
    | 'h' => some (.switch .help)
    | 'V' => some (.switch .version)
    | _ => none
  found.filter (isKnown verb)

end Opt

/-- What stands in one of the two places. -/
structure Given where
  sources : List String
  cacheRoot : Option String
  framework : Option String
  runtime : Option String
  tool : Option String
  /-- Seconds. -/
  timeout : Option Nat
  verbose : Bool
  noCache : Bool
  json : Bool
  /-- The plain arguments. -/
  plain : List String
  deriving DecidableEq, Repr

namespace Given

/-- Nothing. -/
def nothing : Given :=
  ⟨[], none, none, none, none, none, false, false, false, []⟩

/-- A value that is given for the first time. -/
def once (old : Option α) (value : α) : Except Refusal (Option α) :=
  if old.isSome then .error .usage else .ok (some value)

/-- A switch that is set for the first time. -/
def onceSet (old : Bool) : Except Refusal Bool :=
  if old then .error .usage else .ok true

/-- What is given together with the value of an option. -/
def withValue (g : Given) (s : Setting) (value : String) : Except Refusal Given := do
  match s with
  | .source => .ok { g with sources := g.sources ++ [value] }
  | .cacheRoot =>
    if value.isEmpty then .error .usage
    else .ok { g with cacheRoot := ← once g.cacheRoot value }
  | .framework => .ok { g with framework := ← once g.framework value }
  | .runtime => .ok { g with runtime := ← once g.runtime value }
  | .tool => .ok { g with tool := ← once g.tool value }
  | .timeout =>
    match Text.readSignedNumber? Text.wordBound value.toList with
    | some seconds => .ok { g with timeout := ← once g.timeout seconds }
    | none => .error .usage

/-- What is given together with a switch. -/
def withSwitch (g : Given) : Switch → Except Refusal Given
  | .verbose => do .ok { g with verbose := ← onceSet g.verbose }
  | .noCache => do .ok { g with noCache := ← onceSet g.noCache }
  | .json => do .ok { g with json := ← onceSet g.json }
  | .help => .error .help
  | .version => .error .version

/-- The most plain arguments that a command takes. -/
def plainLimit : Verb → Nat
  | .clean => 0
  | _ => 1

/-- What is given together with a plain argument of a command. -/
def withPlain (g : Given) (verb : Verb) (arg : String) : Except Refusal Given :=
  if plainLimit verb ≤ g.plain.length || arg.isEmpty then .error .usage
  else .ok { g with plain := g.plain ++ [arg] }

end Given

/-! ### Reading -/

/-- The letters of short options: what is given with them, and the option that still needs its
value. -/
def readLetters (verb : Option Verb) (g : Given) :
    List Char → Except Refusal (Given × Option Setting)
  | [] => .ok (g, none)
  | letter :: more =>
    match Opt.ofShort? verb letter with
    | none => .error .usage
    | some (.switch s) => do readLetters verb (← g.withSwitch s) more
    | some (.setting s) =>
      match more with
      | [] => .ok (g, some s)
      | '=' :: value => do .ok (← g.withValue s (String.ofList value), none)
      | value => do .ok (← g.withValue s (String.ofList value), none)

/-- A long option, with its value if there is an equals sign in it: what is given with it,
and the option that still needs its value. -/
def readLong (verb : Option Verb) (g : Given) (s : List Char) :
    Except Refusal (Given × Option Setting) :=
  let name := String.ofList (Text.before '=' s)
  let value := (Text.cutAt? '=' s).map fun (_, value) => String.ofList value
  match Opt.ofLong? verb name, value with
  | some (.setting s), some value => do .ok (← g.withValue s value, none)
  | some (.setting s), none => .ok (g, some s)
  | some (.switch s), none => do .ok (← g.withSwitch s, none)
  | _, _ => .error .usage

/-- One argument that begins with a dash. -/
def readOption (verb : Option Verb) (g : Given) :
    List Char → Except Refusal (Given × Option Setting)
  | '-' :: '-' :: s => readLong verb g s
  | '-' :: letters => readLetters verb g letters
  | _ => .error .usage

/-- The argument is an option. -/
def isOption (arg : String) : Bool :=
  arg.toList.head? == some '-' && arg != "-"

/-- The arguments behind a command.  `pending` is an option that needs the next one. -/
def readBehind (verb : Verb) (g : Given) (pending : Option Setting) :
    List String → Except Refusal Given
  | [] => if pending.isSome then .error .usage else .ok g
  | arg :: rest =>
    match pending with
    | some s =>
      if isOption arg then .error .usage
      else do readBehind verb (← g.withValue s arg) none rest
    | none =>
      if arg == "--" then rest.foldlM (fun g arg => g.withPlain verb arg) g
      else if isOption arg then do
        let (g, pending) ← readOption (some verb) g arg.toList
        readBehind verb g pending rest
      else do readBehind verb (← g.withPlain verb arg) none rest

/-- The command with a name. -/
def verb? : String → Option Verb
  | "graph" => some .graph
  | "restore" => some .restore
  | "resolve" => some .resolve
  | "clean" => some .clean
  | _ => none

/-- The arguments behind the word `help`, which may be the name of a command. -/
def readHelp : List String → Refusal
  | [] => .help
  | [name] => if (verb? name).isSome || name == "help" then .help else .usage
  | _ => .usage

/-- The arguments from the front: what stands before the command, the command, and what
stands behind it. -/
def readFront (g : Given) (pending : Option Setting) :
    List String → Except Refusal (Given × Verb × Given)
  | [] => .error .usage
  | arg :: rest =>
    match pending with
    | some s =>
      if isOption arg then .error .usage
      else do readFront (← g.withValue s arg) none rest
    | none =>
      if arg == "--" then .error .usage
      else if isOption arg then do
        let (g, pending) ← readOption none g arg.toList
        readFront g pending rest
      else
        match verb? arg with
        | some verb => do .ok (g, verb, ← readBehind verb .nothing none rest)
        | none => .error (if arg == "help" then readHelp rest else .usage)

/-! ### Commands -/

/-- A command with all that it needs. -/
structure Command where
  verb : Verb
  script : Option Path
  useCache : Bool
  json : Bool
  env : Environment
  deriving DecidableEq, Repr

/-- The limit in milliseconds for a number of seconds, where zero means none. -/
def limitOf (seconds : Nat) : Option Nat :=
  if seconds == 0 then none else some (seconds * 1000)

/-- The settings: those behind the command, else those before it, else the variables, else
the standard ones. -/
def environmentOf (base : Environment) (vars : List (String × String)) (front behind : Given) :
    Environment :=
  let told := fun (name : String) => vars.lookup name
  let sources := if behind.sources.isEmpty then front.sources else behind.sources
  let root := behind.cacheRoot.or (front.cacheRoot.or (told "CSX_CACHE_ROOT"))
  let framework := behind.framework.or (front.framework.or (told "CSX_TARGET_FRAMEWORK"))
  let tool := behind.tool.or (front.tool.or (told "CSX_RESTORE_TOOL"))
  { runtime := (behind.runtime.or front.runtime).getD base.runtime
    framework := framework.getD base.framework
    cacheRoot := root.elim base.cacheRoot Path.mk
    sources
    tool := tool.getD base.tool
    limit := (behind.timeout.or front.timeout).elim base.limit limitOf }

/-- The command of some arguments.  An empty cache root among the variables is as wrong as
one among the arguments, in each place that would take it. -/
def parse (base : Environment) (vars : List (String × String)) (args : List String) :
    Except Refusal Command := do
  let (front, verb, behind) ← readFront .nothing none args
  let rootIsEmpty := vars.lookup "CSX_CACHE_ROOT" == some ""
  if rootIsEmpty && (front.cacheRoot.isNone || behind.cacheRoot.isNone) then .error .usage
  else if behind.plain.length < Given.plainLimit verb then .error .usage
  else
    .ok
      { verb
        script := behind.plain.head?.map Path.mk
        useCache := !behind.noCache
        json := behind.json
        env := environmentOf base vars front behind }

end ScriptDeps.CommandLine
