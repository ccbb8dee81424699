/-
The search for files: what is asked of each file and what is done with it.

The arguments behind the places where the search starts are an expression: questions and deeds,
joined by operators.  A deed that was done counts as a question with the answer yes.
-/
import ScriptDeps.Shell.Regex.Reading
import ScriptDeps.Shell.Utility.Listing

namespace ScriptDeps.Shell.Find

open Utility

/-- A number that another one is to be below, at or above. -/
structure Bound where
  side : Ordering
  number : Nat
  deriving DecidableEq, Repr

namespace Bound

def ofBytes? (b : Bytes) : Option Bound :=
  match b with
  | '+' :: n => (Bytes.natural? n).map (⟨.gt, ·⟩)
  | '-' :: n => (Bytes.natural? n).map (⟨.lt, ·⟩)
  | n => (Bytes.natural? n).map (⟨.eq, ·⟩)

def holds (b : Bound) (n : Nat) : Bool :=
  compare n b.number == b.side

end Bound

/-- A question about a file. -/
inductive Check where
  | name (pattern : Bytes) (anyCase : Bool)
  | path (pattern : Bytes) (anyCase : Bool)
  | linkText (pattern : Bytes) (anyCase : Bool)
  | regex (m : Matcher)
  /-- Its kind is one of some letters; `behind` asks about what a link leads to. -/
  | kind (letters : Bytes) (behind : Bool)
  | empty
  | runnable
  | size (bound : Bound) (unit : Nat)
  /-- Its permissions are these, or with a sign in front, have all or one of these. -/
  | mode (sign : Option Char) (bits : Nat)
  | names (bound : Bound)
  | always (answer : Bool)

/-- Something done with a file. -/
inductive Deed where
  | print (stop : Char)
  | printFormat (format : Bytes)
  | list
  | delete
  /-- Nothing below it is looked at. -/
  | prune
  | quit
  /-- A program is run for it, in its directory or not. -/
  | exec (words : List Bytes) (there : Bool)
  /-- A program is run for many files at once, under a number. -/
  | execAll (number : Nat) (words : List Bytes) (there : Bool)

/-- Whether a search goes on with a file, and what it does on the way. -/
inductive Seek where
  | check (c : Check)
  | deed (d : Deed)
  | not (a : Seek)
  | and (a b : Seek)
  | or (a b : Seek)
  /-- The first one counts for nothing. -/
  | list (a b : Seek)

namespace Seek

/-- It does something that makes printing needless. -/
def acts : Seek → Bool
  | .check _ | .deed .prune | .deed .quit => false
  | .deed _ => true
  | .not a => a.acts
  | .and a b | .or a b | .list a b => a.acts || b.acts

/-- What is run for many files. -/
def batches : Seek → List (Nat × List Bytes × Bool)
  | .deed (.execAll number words there) => [(number, words, there)]
  | .check _ | .deed _ => []
  | .not a => a.batches
  | .and a b | .or a b | .list a b => a.batches ++ b.batches

/-- What is in a directory comes before it. -/
def deletes : Seek → Bool
  | .deed .delete => true
  | .check _ | .deed _ => false
  | .not a => a.deletes
  | .and a b | .or a b | .list a b => a.deletes || b.deletes

end Seek

/-! ### Reading -/

/-- A word of an expression. -/
inductive Word where
  | leaf (s : Seek)
  | opening
  | closing
  | not (name : Bytes)
  | and (name : Bytes)
  | or (name : Bytes)
  | comma

/-- What holds for all of a search. -/
structure Plan where
  words : List Word
  least : Nat
  most : Option Nat
  /-- What is in a directory comes before it. -/
  depthFirst : Bool
  /-- How regular expressions are written. -/
  form : Regex.Form

/-- The ways to write regular expressions, by their names. -/
def formOf? (name : Bytes) : Option Regex.Form :=
  match String.ofList name with
  | "findutils-default" | "emacs" => some .named
  | "posix-basic" | "sed" | "ed" | "posix-minimal-basic" => some .basic
  | "grep" => some .searched
  | "posix-extended" => some .extended
  | "egrep" | "posix-egrep" => some .searchedExtended
  | "awk" | "gnu-awk" | "posix-awk" => some .scripted
  | _ => none

/-- Why arguments are no expression. -/
inductive Mistake where
  | unknown (name : Bytes)
  | missingArgument (name : Bytes)
  | badKind (letter : Bytes)
  | badSize (text : Bytes)
  | badDepth (name text : Bytes)
  | badNumber (name text : Bytes)
  | badMode (text : Bytes)
  | badRegex (text : Bytes) (flaw : Regex.Flaw)
  | badForm (name : Bytes)
  | noFile (name : Bytes)
  | noUser (name : Bytes)
  | noGroup (name : Bytes)
  /-- A path behind questions; the question in front of it may have been meant to have a pattern. -/
  | latePath (path : Bytes) (pattern : Option Bytes)
  | twoBraces (name : Bytes)
  | noOpening
  | noClosing
  | emptyParentheses
  | nothingBehind (name : Bytes)
  | nothingBefore (name : Bytes)
  | senseless

def Mistake.wording (m : Mistake) : Bytes :=
  let tick := fun (b : Bytes) => '\x60' :: b ++ ['\x27']
  let text := match m with
    | .unknown name => "unknown predicate ".toList ++ tick name
    | .missingArgument name => "missing argument to ".toList ++ tick name
    | .badKind letter => "Unknown argument to -type: ".toList ++ letter
    | .badSize text => "invalid -size type ".toList ++ tick text
    | .badDepth name text => "Expected a positive decimal integer argument to ".toList ++ name ++
        ", but got ".toList ++ cited text
    | .badNumber name text => "non-numeric argument to ".toList ++ name ++ ": ".toList ++ cited text
    | .badMode text => "invalid mode ".toList ++ cited text
    | .badRegex text flaw => "failed to compile regular expression '".toList ++ text ++ "': ".toList ++
        flaw.wording
    | .badForm name => "Unknown regular expression type ".toList ++ cited name ++
        "; valid types are ".toList ++ Bytes.joinedBy ", ".toList
          (["findutils-default", "ed", "emacs", "gnu-awk", "grep", "posix-awk", "awk", "posix-basic",
            "posix-egrep", "egrep", "posix-extended", "posix-minimal-basic", "sed"].map
              fun n => cited n.toList) ++ ['.']
    | .noFile name => cited name ++ ": No such file or directory".toList
    | .noUser name => cited name ++ " is not the name of a known user".toList
    | .noGroup name => cited name ++ " is not the name of an existing group".toList
    | .latePath path pattern =>
      "paths must precede expression: ".toList ++ tick path ++
        pattern.elim [] fun name =>
          "\nfind: possible unquoted pattern after predicate ".toList ++ tick name ++ ['?']
    | .twoBraces name => "Only one instance of \x7b\x7d is supported with ".toList ++ name ++
        " ... +".toList
    | .noOpening => "you have too many ')'".toList
    | .noClosing =>
      "invalid expression; I was expecting to find a ')' somewhere but did not see one.".toList
    | .emptyParentheses => "invalid expression; empty parentheses are not allowed.".toList
    | .nothingBehind name => "expected an expression after ".toList ++ '\x27' :: name ++ ['\x27']
    | .nothingBefore name => "invalid expression; you have used a binary operator ".toList ++
        '\x27' :: name ++ "' with nothing before it.".toList
    | .senseless => "invalid expression".toList
  "find: ".toList ++ text

/-- The unit of a size, by its letter. -/
def unit? : Bytes → Option Nat
  | [] | ['b'] => some 512
  | ['c'] => some 1
  | ['w'] => some 2
  | ['k'] => some 1024
  | ['M'] => some 1048576
  | ['G'] => some 1073741824
  | _ => none

/-- The questions that take a pattern. -/
def patternNames : List String :=
  ["-name", "-iname", "-path", "-ipath", "-wholename", "-iwholename", "-lname", "-ilname"]

/-- The words of a program up to their end, whether many files go to one call, and what is behind. -/
def program (name : Bytes) (args : List Bytes) :
    Except Mistake (List Bytes × Bool × List Bytes) :=
  let braces : Bytes := "\x7b\x7d".toList
  let rec go (words : List Bytes) : List Bytes → Except Mistake (List Bytes × Bool × List Bytes)
    | [] => .error (.missingArgument name)
    | [';'] :: rest => .ok (words.reverse, false, rest)
    | ['+'] :: rest =>
      if words.head? == some braces then .ok (words.reverse, true, rest) else go (['+'] :: words) rest
    | w :: rest => go (w :: words) rest
  match go [] args with
  | .ok ([], _, _) => .error (.missingArgument name)
  | result => result

/-- The words of an expression; `last` is the question in front. -/
def words (s : State) : Nat → Option Bytes → Plan → List Bytes → Except Mistake Plan
  | 0, _, plan, _ => .ok plan
  | _, _, plan, [] => .ok { plan with words := plan.words.reverse }
  | fuel + 1, last, plan, name :: rest =>
    let on := fun (w : Word) (rest : List Bytes) =>
      words s fuel (some name) { plan with words := w :: plan.words } rest
    let check := fun (c : Check) (rest : List Bytes) => on (.leaf (.check c)) rest
    let deed := fun (d : Deed) (rest : List Bytes) => on (.leaf (.deed d)) rest
    let withArgument := fun (f : Bytes → List Bytes → Except Mistake Plan) =>
      match rest with
      | arg :: rest => f arg rest
      | [] => .error (.missingArgument name)
    let bound := fun (f : Bound → Check) =>
      withArgument fun arg rest =>
        match Bound.ofBytes? arg with
        | some b => check (f b) rest
        | none => .error (.badNumber name arg)
    let kinds := fun (behind : Bool) =>
      withArgument fun arg rest =>
        let letters := (Text.splitOn ',' arg).flatten
        match letters.find? fun c => !("bcdpfls".toList.contains c) with
        | some c => .error (.badKind [c])
        | none => check (.kind letters behind) rest
    let running := fun (there : Bool) => do
      let (list, many, rest) ← program name rest
      if !many then deed (.exec list there) rest
      else
        let list := list.dropLast
        if list.any fun w => w == "\x7b\x7d".toList then .error (.twoBraces name)
        else deed (.execAll fuel list there) rest
    match String.ofList name with
    | "(" => on .opening rest
    | ")" => on .closing rest
    | "!" | "-not" => on (.not name) rest
    | "-a" | "-and" => on (.and name) rest
    | "-o" | "-or" => on (.or name) rest
    | "," => on .comma rest
    | "-name" => withArgument fun p rest => check (.name p false) rest
    | "-iname" => withArgument fun p rest => check (.name p true) rest
    | "-path" | "-wholename" => withArgument fun p rest => check (.path p false) rest
    | "-ipath" | "-iwholename" => withArgument fun p rest => check (.path p true) rest
    | "-lname" => withArgument fun p rest => check (.linkText p false) rest
    | "-ilname" => withArgument fun p rest => check (.linkText p true) rest
    | "-regex" | "-iregex" =>
      withArgument fun p rest =>
        match Regex.read plan.form (Wide.ofBytes p) with
        | .ok r => check (.regex (Matcher.wide r (name == "-iregex".toList) false)) rest
        | .error flaw => .error (.badRegex p flaw)
    | "-type" => kinds false
    | "-xtype" => kinds true
    | "-empty" => check .empty rest
    | "-executable" => check .runnable rest
    | "-readable" | "-writable" | "-true" | "-nouser" | "-nogroup" =>
      check (.always (!(["-nouser", "-nogroup"].contains (String.ofList name)))) rest
    | "-false" => check (.always false) rest
    | "-size" =>
      withArgument fun arg rest =>
        let (number, unit) := arg.span fun c => c.isDigit || c == '+' || c == '-'
        match Bound.ofBytes? number, unit? unit with
        | some b, some u => check (.size b u) rest
        | _, _ => .error (.badSize arg)
    | "-perm" =>
      withArgument fun arg rest =>
        let (sign, text) := match arg with
          | '-' :: text => (some '-', text)
          | '/' :: text => (some '/', text)
          | text => (none, text)
        match Mode.changed? 0 false text 0 with
        | some bits => check (.mode sign bits) rest
        | none => .error (.badMode arg)
    | "-links" => bound .names
    | "-user" =>
      withArgument fun arg rest =>
        if arg == "root".toList || arg == ['0'] then check (.always true) rest
        else if (Bytes.natural? arg).isSome then check (.always false) rest
        else .error (.noUser arg)
    | "-group" =>
      withArgument fun arg rest =>
        if arg == "root".toList || arg == ['0'] then check (.always true) rest
        else if (Bytes.natural? arg).isSome then check (.always false) rest
        else .error (.noGroup arg)
    | "-uid" | "-gid" => bound fun b => .always (b.holds 0)
    | "-mtime" | "-atime" | "-ctime" | "-mmin" | "-amin" | "-cmin" => bound fun b =>
        .always (b.holds 0)
    | "-newer" =>
      withArgument fun arg rest =>
        match s.lookup arg.path with
        | .ok _ => check (.always false) rest
        | .error _ => .error (.noFile arg)
    | "-print" => deed (.print '\n') rest
    | "-print0" => deed (.print '\x00') rest
    | "-printf" => withArgument fun f rest => deed (.printFormat f) rest
    | "-ls" => deed .list rest
    | "-delete" =>
      words s fuel (some name) { plan with
        words := .leaf (.deed .delete) :: plan.words, depthFirst := true } rest
    | "-prune" => deed .prune rest
    | "-quit" => deed .quit rest
    | "-exec" | "-ok" => running false
    | "-execdir" | "-okdir" => running true
    | "-maxdepth" | "-mindepth" =>
      withArgument fun arg rest =>
        match Bytes.natural? arg with
        | none => .error (.badDepth name arg)
        | some n =>
          let plan := if name == "-maxdepth".toList then { plan with most := some n }
            else { plan with least := n }
          words s fuel (some name) { plan with words := .leaf (.check (.always true)) :: plan.words }
            rest
    | "-depth" | "-d" =>
      words s fuel (some name) { plan with
        words := .leaf (.check (.always true)) :: plan.words, depthFirst := true } rest
    | "-mount" | "-xdev" | "-noleaf" | "-follow" | "-daystart" | "-warn" | "-nowarn"
    | "-ignore_readdir_race" => check (.always true) rest
    | "-regextype" =>
      withArgument fun kind rest =>
        match formOf? kind with
        | some form => words s fuel (some name)
            { plan with form, words := .leaf (.check (.always true)) :: plan.words } rest
        | none => .error (.badForm kind)
    | _ =>
      if name.head? == some '-' then .error (.unknown name)
      else
        let pattern := last.filter fun l =>
          patternNames.contains (String.ofList l) && (s.lookup name.path).toBool
        .error (.latePath name pattern)

mutual

/-- Expressions of which the last one counts. -/
def listed : Nat → List Word → Except Mistake (Seek × List Word)
  | 0, _ => .error .senseless
  | fuel + 1, ws => do
    let (a, rest) ← alternatives fuel ws
    match rest with
    | .comma :: rest => do
      if rest.isEmpty then throw (.nothingBehind [','])
      let (b, rest) ← listed fuel rest
      return (.list a b, rest)
    | rest => return (a, rest)

/-- Expressions of which one must hold. -/
def alternatives : Nat → List Word → Except Mistake (Seek × List Word)
  | 0, _ => .error .senseless
  | fuel + 1, ws => do
    let (a, rest) ← conjunction fuel ws
    match rest with
    | .or name :: rest => do
      if rest.isEmpty then throw (.nothingBehind name)
      let (b, rest) ← alternatives fuel rest
      return (.or a b, rest)
    | rest => return (a, rest)

/-- Expressions of which all must hold. -/
def conjunction : Nat → List Word → Except Mistake (Seek × List Word)
  | 0, _ => .error .senseless
  | fuel + 1, ws => do
    let (a, rest) ← single fuel ws
    match rest with
    | .and name :: rest => do
      if rest.isEmpty then throw (.nothingBehind name)
      let (b, rest) ← conjunction fuel rest
      return (.and a b, rest)
    | .leaf _ :: _ | .opening :: _ | .not _ :: _ => do
      let (b, rest) ← conjunction fuel rest
      return (.and a b, rest)
    | rest => return (a, rest)

/-- A question, a deed, or an expression in parentheses. -/
def single : Nat → List Word → Except Mistake (Seek × List Word)
  | 0, _ => .error .senseless
  | fuel + 1, ws => do
    match ws with
    | .leaf s :: rest => return (s, rest)
    | .not name :: rest => do
      if rest.isEmpty then throw (.nothingBehind name)
      let (a, rest) ← single fuel rest
      return (.not a, rest)
    | .opening :: .closing :: _ => throw .emptyParentheses
    | .opening :: rest => do
      if rest.isEmpty then throw .noClosing
      match ← listed fuel rest with
      | (a, .closing :: rest) => return (a, rest)
      | _ => throw .noClosing
    | .closing :: _ => throw .noOpening
    | .and name :: _ | .or name :: _ => throw (.nothingBefore name)
    | .comma :: _ => throw (.nothingBefore [','])
    | [] => throw .senseless

end

/-- The whole expression; where nothing is done with files, they are printed. -/
def expression (ws : List Word) : Except Mistake Seek := do
  let printing : Seek := .deed (.print '\n')
  if ws.isEmpty then return printing
  match ← listed (4 * ws.length + 4) ws with
  | (a, []) => return if a.acts then a else .and a printing
  | (_, .closing :: _) => throw .noOpening
  | _ => throw .senseless

/-- An argument begins the expression. -/
def beginsExpression (arg : Bytes) : Bool :=
  match arg with
  | '-' :: _ :: _ | ['('] | ['!'] => true
  | _ => false

/-! ### Asking -/

/-- A file that the search has come to. -/
structure Found where
  /-- Its path from where the search started. -/
  path : Bytes
  /-- Where the search started. -/
  start : Bytes
  depth : Nat
  item : Item

namespace Found

/-- The last name of the path. -/
def name (f : Found) : Bytes :=
  match (f.path.reverse.dropWhile (· == '/')).takeWhile (· != '/') with
  | [] => f.path.take 1
  | name => name.reverse

/-- The path of the directory that it stands in. -/
def directory (f : Found) : Bytes :=
  match (f.path.reverse.dropWhile (· == '/')).dropWhile (· != '/') with
  | [] => if f.path.head? == some '/' then [] else ['.']
  | _ :: dir => dir.reverse

/-- The path below where the search started. -/
def below (f : Found) : Bytes :=
  (f.path.drop f.start.length).dropWhile (· == '/')

/-- The letter of its kind. -/
def kind (f : Found) : Char :=
  if f.item.link.isSome then 'l'
  else if f.item.node.isDirectory then 'd'
  else if (Device.at? f.item.loc).isSome then 'c'
  else 'f'

/-- The letter of the kind of what it leads to. -/
def kindBehind (s : State) (f : Found) : Char :=
  if f.item.link.isNone then f.kind
  else
    match (s.locate true (Store.pathOf f.item.loc)).toOption.bind s.store.node? with
    | some node => if node.isDirectory then 'd' else 'f'
    | none => 'l'

end Found

/-- A pattern accepts a text, in which dots and slashes are like all else. -/
def accepts (pattern text : Bytes) (anyCase : Bool) : Bool :=
  let fold := fun (b : Bytes) => if anyCase then b.map Char.toLower else b
  Pattern.accepts (Pattern.ofPieces [(fold pattern, false)]) (fold text)

/-- The answer to a question. -/
def Check.holds (s : State) (f : Found) : Check → Bool
  | .name p anyCase => accepts p f.name anyCase
  | .path p anyCase => accepts p f.path anyCase
  | .linkText p anyCase => f.item.link.any fun text => accepts p text anyCase
  | .regex m => m.isWhole (Wide.ofBytes f.path)
  | .kind letters behind => letters.contains (if behind then f.kindBehind s else f.kind)
  | .empty =>
    f.item.link.isNone &&
      match f.item.node with
      | .directory => ((s.copied true).namesIn f.item.loc).isEmpty
      | .file content _ => content.size == 0 && (Device.at? f.item.loc).isNone
  | .runnable =>
    match f.item.node with
    | .directory => true
    | .file _ canRun => canRun
  | .size b unit => b.holds ((f.item.size + unit - 1) / unit)
  | .mode sign bits =>
    let mode := f.item.mode s
    match sign with
    | some '-' => mode &&& bits == bits
    | some _ => bits == 0 || mode &&& bits != 0
    | none => mode == bits
  | .names b => b.holds (f.item.nameCount s)
  | .always answer => answer

/-- What a letter of a format stands for. -/
def Found.fact (s : State) (f : Found) : Char → Bytes
  | 'p' => f.path
  | 'f' => f.name
  | 'h' => f.directory
  | 'P' => f.below
  | 'H' => f.start
  | 'd' => Bytes.ofNat f.depth
  | 's' => Bytes.ofNat f.item.size
  | 'm' => Mode.shortOctal (f.item.mode s)
  | 'M' => f.item.modeLetters s
  | 'y' => [f.kind]
  | 'Y' => [f.kindBehind s]
  | 'l' => f.item.link.getD []
  | 'n' => Bytes.ofNat (f.item.nameCount s)
  | 'u' | 'g' => "root".toList
  | 'U' | 'G' => ['0']
  | 'k' => Bytes.ofNat f.item.blocks
  | 'b' => Bytes.ofNat (2 * f.item.blocks)
  | '%' => ['%']
  | c => ['%', c]

/-- The byte of an escape in a format, and what is behind it. -/
def escape : Bytes → Bytes × Bytes
  | 'n' :: s => (['\n'], s)
  | 't' :: s => (['\t'], s)
  | 'r' :: s => (['\r'], s)
  | 'a' :: s => (['\x07'], s)
  | 'b' :: s => (['\x08'], s)
  | 'f' :: s => (['\x0c'], s)
  | 'v' :: s => (['\x0b'], s)
  | '\\' :: s => (['\\'], s)
  | c :: s =>
    if '0' ≤ c && c ≤ '7' then
      let digits := ((c :: s).take 3).takeWhile fun c => '0' ≤ c && c ≤ '7'
      let n := digits.foldl (fun n c => 8 * n + (c.toNat - '0'.toNat)) 0
      ([Char.ofNat (n % 256)], (c :: s).drop digits.length)
    else (['\\', c], s)
  | [] => (['\\'], [])

/-- A format filled with facts. -/
def Found.format (s : State) (f : Found) : Nat → Bytes → Bytes
  | 0, _ => []
  | _, [] => []
  | fuel + 1, '\\' :: rest =>
    if rest.head? == some 'c' then []
    else
      let (bytes, rest) := escape rest
      bytes ++ f.format s fuel rest
  | fuel + 1, '%' :: rest =>
    let (flags, rest) := rest.span fun c => c == '-' || c == '0'
    let (width, rest) := rest.span Char.isDigit
    match rest with
    | c :: rest =>
      let width := (Bytes.natural? width).getD 0
      let text := f.fact s c
      (if flags.contains '-' then fillRight width text else fillLeft width text) ++
        f.format s fuel rest
    | [] => ['%']
  | fuel + 1, c :: rest => c :: f.format s fuel rest

/-- The words of a program for a file. -/
def filled (words : List Bytes) (path : Bytes) : List Bytes :=
  words.map fun w => replaced (w.length + 1) w
where
  /-- A word with the path in the place of each pair of braces. -/
  replaced : Nat → Bytes → Bytes
    | 0, w => w
    | fuel + 1, '\x7b' :: '\x7d' :: w => path ++ replaced fuel w
    | fuel + 1, c :: w => c :: replaced fuel w
    | _, [] => []

/-- What the arguments of a search say: whether links are followed, where it starts, how far it
goes, and what it asks. -/
structure Search where
  follows : Bool
  starts : List Bytes
  plan : Plan
  seek : Seek

/-- The search that some arguments ask for. -/
def ofArgs (args : List Bytes) (s : State) : Except Mistake Search := do
  let isWay := fun (a : Bytes) => ["-L", "-H", "-P"].contains (String.ofList a)
  let (ways, rest) := args.span isWay
  let (starts, rest) := rest.span (!beginsExpression ·)
  let plan ← words s (rest.length + 1) none ⟨[], 0, none, false, .named⟩ rest
  let seek ← expression plan.words
  return ⟨ways.getLast? == some "-L".toList, if starts.isEmpty then [['.']] else starts, plan, seek⟩

/-! ### Searching -/

/-- How far a search has come. -/
structure Hunt where
  state : State
  /-- The files that wait for programs that are run for many, by the numbers of those. -/
  waiting : List (Nat × Bytes)
  /-- Nothing more is looked at. -/
  ended : Bool
  failed : Bool

/-- The state after a program for a file, and whether the program succeeded. -/
def called (call : Utility.Call) (there : Bool) (words : List Bytes) (f : Found) (s : State) :
    State × Bool :=
  let path := if there then "./".toList ++ f.name else f.path
  let dir := (s.locate true f.directory.path).toOption
  let inner := match (if there then dir else none) with
    | some loc => { s with store := { s.store with cwd := loc }, here := Store.pathOf loc }
    | none => s
  let ended := call (filled words path) inner
  ({ ended with store := { ended.store with cwd := s.store.cwd }, here := s.here },
    ended.status == 0)

/-- A deed is done: whether it succeeded, whether nothing below the file is to be looked at, and
the search after it. -/
def Deed.done (call : Utility.Call) (f : Found) (h : Hunt) : Deed → (Bool × Bool) × Hunt
  | .print stop => ((true, false), { h with state := h.state.say (f.path ++ [stop]) })
  | .printFormat format =>
    ((true, false), { h with state := h.state.say (f.format h.state (format.length + 1) format) })
  | .list =>
    let line := fillLeft 9 (Bytes.ofNat (1000 + f.depth)) ++ ' ' ::
      fillLeft 6 (Bytes.ofNat f.item.blocks) ++ ' ' ::
      longLines h.state ⟨[], []⟩ [{ f.item with name := f.path }]
    ((true, false), { h with state := h.state.say line })
  | .delete =>
    let s := h.state
    if f.path == ['.'] then ((true, false), h)
    else if f.item.isDirectory && !((s.copied true).namesIn f.item.loc).isEmpty then
      let text := "find: cannot delete ".toList ++ cited f.path ++ ": Directory not empty".toList
      ((false, false), { h with state := s.complain text, failed := true })
    else ((true, false), { h with state := s.without f.item.loc })
  | .prune => ((true, true), h)
  | .quit => ((true, false), { h with ended := true })
  | .exec words there =>
    let (state, ok) := called call there words f h.state
    ((ok, false), { h with state })
  | .execAll number _ there =>
    let path := if there then "./".toList ++ f.name else f.path
    ((true, false), { h with waiting := h.waiting ++ [(number, path)] })

/-- What the expression comes to for a file: whether it holds, whether nothing below the file is to
be looked at, and the search after it. -/
def Seek.weigh (call : Utility.Call) (f : Found) : Seek → Hunt → (Bool × Bool) × Hunt
  | .check c, h => ((c.holds h.state f, false), h)
  | .deed d, h => d.done call f h
  | .not a, h =>
    let ((holds, prunes), h) := a.weigh call f h
    ((!holds, prunes), h)
  | .and a b, h =>
    let ((holds, prunes), h) := a.weigh call f h
    if holds && !h.ended then
      let ((holds, more), h) := b.weigh call f h
      ((holds, prunes || more), h)
    else ((false, prunes), h)
  | .or a b, h =>
    let ((holds, prunes), h) := a.weigh call f h
    if holds || h.ended then ((true, prunes), h)
    else
      let ((holds, more), h) := b.weigh call f h
      ((holds, prunes || more), h)
  | .list a b, h =>
    let ((_, prunes), h) := a.weigh call f h
    if h.ended then ((true, prunes), h)
    else
      let ((holds, more), h) := b.weigh call f h
      ((holds, prunes || more), h)

/-- The search at a file and below it. -/
def Search.visit (call : Utility.Call) (k : Search) : Nat → Found → Hunt → Hunt
  | 0, _, h => h
  | fuel + 1, f, h =>
    if h.ended then h
    else
      let weighed := fun (h : Hunt) =>
        if k.plan.least ≤ f.depth && !h.ended then k.seek.weigh call f h else ((true, false), h)
      let goesDown := f.item.isDirectory && k.plan.most.all (f.depth < ·)
      let inner := fun (h : Hunt) =>
        if !goesDown then h
        else
          ((h.state.copied true).namesIn f.item.loc).foldl
            (fun h name =>
              let path := inside f.path (Bytes.ofText name)
              let loc := f.item.loc ++ [name]
              let item := Item.named h.state k.follows true ((Bytes.ofText (Store.pathOf loc).text))
              match item with
              | .ok item => k.visit call fuel
                  ⟨path, f.start, f.depth + 1, { item with name := path }⟩ h
              | .error _ => h) h
      if k.plan.depthFirst then (weighed (inner h)).2
      else
        let ((_, prunes), h) := weighed h
        if prunes || h.ended then h else inner h
where
  inside (dir name : Bytes) : Bytes :=
    if dir.getLast? == some '/' then dir ++ name else dir ++ '/' :: name

/-- The search from one of the places where it starts. -/
def Search.from_ (call : Utility.Call) (k : Search) (h : Hunt) (start : Bytes) : Hunt :=
  match Item.named h.state k.follows true start with
  | .error fault =>
    let text := "find: ".toList ++ cited start ++ ": ".toList ++ fault.wording.toList
    { h with state := h.state.complain text, failed := true }
  | .ok item =>
    k.visit call (h.state.store.entries.length + 2) ⟨start, start, 0, item⟩ h

/-- The programs that are run for many files. -/
def Hunt.finish (call : Utility.Call) (h : Hunt) (batches : List (Nat × List Bytes × Bool)) : Hunt :=
  batches.foldl
    (fun h (number, words, _) =>
      let paths := (h.waiting.filter (·.1 == number)).map Prod.snd
      if paths.isEmpty then h
      else
        let ended := call (words ++ paths) h.state
        { h with state := ended, failed := h.failed || ended.status != 0 }) h

/-- What the utility does, given a way to run programs. -/
def search (call : Utility.Call) (args : List Bytes) (s : State) : State :=
  match ofArgs args s with
  | .error m => s.failed 1 m.wording
  | .ok k =>
    let h := k.starts.foldl (k.from_ call) ⟨s, [], false, false⟩
    let h := h.finish call k.seek.batches
    h.state.done (if h.failed then 1 else 0)

end ScriptDeps.Shell.Find
