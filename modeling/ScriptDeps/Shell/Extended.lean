/-
The commands that a shell of the extended dialect has itself.

One that cannot do what it is told complains and has a status, and the shell goes on.  One that is not
used as it should be tells how it is used.
-/
import ScriptDeps.Shell.Braces
import ScriptDeps.Shell.Builtin
import ScriptDeps.Shell.Declaration
import ScriptDeps.Shell.Utility.Judge

namespace ScriptDeps.Shell.Extended

open Declaration (withOptions refused eachOf misused carryingOn Given)

/-! ### Printing and judging -/

/-- The escapes of what `echo` prints in their meanings, and whether printing goes on after it. -/
def unescape : Nat → Bytes → Bytes × Bool
  | 0, _ => ([], true)
  | _, [] => ([], true)
  | fuel + 1, '\\' :: s =>
    let stays := s.head?.any fun c => ('1' ≤ c && c ≤ '7') || c == '"' || c == '\x27' || c == '?'
    let (e, rest) := if stays then (.bytes ('\\' :: s.take 1), s.drop 1)
      else Utility.Format.escape .shell true s
    match e with
    | .bytes b =>
      let (more, goesOn) := unescape fuel rest
      (b ++ more, goesOn)
    | .stop => ([], false)
    | .missingDigits letter =>
      let (more, goesOn) := unescape fuel rest
      ('\\' :: letter :: more, goesOn)
    | .badNumber _ => unescape fuel rest
  | fuel + 1, s =>
    let (run, rest) := s.span (· != '\\')
    let (more, goesOn) := unescape fuel rest
    (run ++ more, goesOn)

/-- What `echo` prints: letters in front tell whether a line end follows and whether escapes count. -/
def echoed (quiet escapes : Bool) : List Bytes → Bytes
  | ('-' :: c :: letters) :: rest =>
    if (c :: letters).all fun c => c == 'n' || c == 'e' || c == 'E' then
      let quiet := quiet || (c :: letters).contains 'n'
      let last := ((c :: letters).filter (· != 'n')).getLast?
      echoed quiet (last.elim escapes (· == 'e')) rest
    else shown quiet escapes (('-' :: c :: letters) :: rest)
  | args => shown quiet escapes args
where
  shown (quiet escapes : Bool) (args : List Bytes) : Bytes :=
    let text := Bytes.joined args
    let (text, goesOn) := if escapes then unescape (text.length + 1) text else (text, true)
    if quiet || !goesOn then text else text ++ ['\n']

/-- A moment as a format shows it. -/
def dated (s : State) (format : Bytes) (seconds : Option Int) : Bytes :=
  let zone := Utility.zoneOf s false
  let moment := match seconds with
    | some n => if n == -1 || n == -2 then Utility.now s zone else ⟨n, 0, zone⟩
    | none => Utility.now s zone
  (Utility.dated moment format).dropLast

def format (args : List Bytes) (s : State) : State :=
  withOptions "printf" "" "v" "" "[-v var] format [arguments]" args s fun g s =>
    match g.args with
    | [] => misused s "printf" "[-v var] format [arguments]"
    | format :: args =>
      let p := Utility.Format.printed .shell (dated s) format args
      let s := p.complaints.reverse.foldl State.object s
      let status := if p.failed then 1 else 0
      match g.value? 'v' with
      | none => (s.say p.printed).done status
      | some target =>
        match Declaration.argument? target with
        | some (name, key, .none) => (carryingOn (s.give name key false p.printed)).done status
        | _ => refused s 2 (Declaration.shownArgument target)

/-- What only a shell can be asked: whether a variable is there or an option is on. -/
def own (s : State) (operator arg : Bytes) : Option Bool :=
  if operator == "-o".toList then
    some (((Setting.extendedTable.lookup (String.ofList arg)).map s.has).getD false)
  else
    match Declaration.argument? arg with
    | some (name, none, .none) => some ((s.known? name).isSome)
    | some (name, some key, .none) =>
      let l := (s.list? name).getD ((s.known? name).elim (.indexed []) fun value => .indexed [(0, value)])
      if key == ['@'] || key == ['*'] then some (0 < l.count)
      else
        match Calculation.keyIn s name key with
        | .ok (key, _) => some (l.get? key).isSome
        | .error _ => some false
    | _ => if arg.natural?.isSome then some (s.valueOf? arg).isSome else some false

def judge (args : List Bytes) (s : State) : State :=
  match Utility.Judge.value .shell (own s) s args with
  | .ok holds => s.done (if holds then 0 else 1)
  | .error trouble => refused s 2 (trouble.wording .shell)

/-! ### Directories -/

/-- The state in another directory, or the fault. -/
def moved (asItStands : Bool) (place : Bytes) (s : State) : Except Fault State := do
  let way := s.here.absolutize place.path
  let loc ← s.locate true (if asItStands then place.path else way)
  match s.store.node? loc with
  | none => throw .notFound
  | some node =>
    if !node.isDirectory then throw .notDirectory
    else
      let there := if asItStands then Store.pathOf loc else way
      let back := Bytes.ofText s.here.text
      let s := { s with store := { s.store with cwd := loc }, here := there }
      let s := (s.put "OLDPWD".toList back).export_ "OLDPWD".toList
      return (s.put "PWD".toList (Bytes.ofText there.text)).export_ "PWD".toList

def changeDirectory (args : List Bytes) (s : State) : State :=
  withOptions "cd" "LPe@" "" "" "[-L|[-P [-e]] [-@]] [dir]" args s fun g s =>
    let asItStands := ((g.letters.filter fun l => l.2.1 == 'L' || l.2.1 == 'P').getLast?.map (·.2.1)) == some 'P'
    let go := fun (told : Bool) (target : Bytes) =>
      let (place, isTold) := ((Builtin.directoryPlaces s target).head?).getD (target, false)
      let place := if target.isEmpty then ['.'] else place
      match moved asItStands place s with
      | .ok s =>
        (if told || isTold then s.say (Bytes.ofText s.here.text ++ ['\n']) else s).done 0
      | .error fault => refused s 1 (target ++ ": ".toList ++ fault.wording.toList)
    match g.args with
    | [] => ((s.value? "HOME".toList).map (go false)).getD (refused s 1 "HOME not set".toList)
    | [['-']] => ((s.value? "OLDPWD".toList).map (go true)).getD (refused s 1 "OLDPWD not set".toList)
    | [target] => go false target
    | _ => refused s 1 "too many arguments".toList

def printDirectory (args : List Bytes) (s : State) : State :=
  withOptions "pwd" "LP" "" "" "[-LP]" args s fun g s =>
    let asItStands := (g.letters.getLast?.map (·.2.1)) == some 'P'
    let here := if asItStands then Store.pathOf s.store.cwd else s.here
    (s.say (Bytes.ofText here.text ++ ['\n'])).done 0

/-- A directory with a tilde in the place of the home directory. -/
def briefly (s : State) (dir : Bytes) : Bytes :=
  match s.value? "HOME".toList with
  | some home =>
    if home.isEmpty || home == ['/'] then dir
    else if dir == home then ['~']
    else (Text.dropStart? (home ++ ['/']) dir).elim dir fun rest => '~' :: '/' :: rest
  | none => dir

/-- The place in a stack that an argument such as `+1` names. -/
def stackIndex? (count : Nat) : Bytes → Option Nat
  | '+' :: n => (Bytes.natural? n).filter (· < count)
  | '-' :: n => ((Bytes.natural? n).filter (· < count)).map (count - 1 - ·)
  | _ => none

/-- The argument names a place in a stack. -/
def isStackIndex : Bytes → Bool
  | '+' :: n | '-' :: n => (Bytes.natural? n).isSome
  | _ => false

/-- The directories to go back to, as they are shown. -/
def shownStack (s : State) : Bytes :=
  Bytes.joined (s.placeStack.map (briefly s)) ++ ['\n']

def listPlaces (args : List Bytes) (s : State) : State :=
  let flags := args.filter fun a => a.head? == some '-' && !isStackIndex a
  let letters := flags.flatMap (·.drop 1)
  match letters.find? fun c => !"clpv".toList.contains c with
  | some c => misused (s.object ('-' :: c :: ": invalid option".toList)) "dirs" "[-clpv] [+N] [-N]"
  | none =>
    let shown := if letters.contains 'l' then s.placeStack else s.placeStack.map (briefly s)
    if letters.contains 'c' then { s with extension := { s.extension with places := [] } }.done 0
    else
      match args.find? isStackIndex with
      | some index =>
        match (stackIndex? shown.length index).bind fun n => shown[n]? with
        | some dir => (s.say (dir ++ ['\n'])).done 0
        | none => refused s 1 (index ++ ": directory stack index out of range".toList)
      | none =>
        if letters.contains 'v' then
          (s.say (shown.zipIdx.flatMap fun (dir, i) =>
            let n := Bytes.ofNat i
            List.replicate (2 - n.length) ' ' ++ n ++ "  ".toList ++ dir ++ ['\n'])).done 0
        else if letters.contains 'p' then (s.say (shown.flatMap (· ++ ['\n']))).done 0
        else (s.say (Bytes.joined shown ++ ['\n'])).done 0

/-- The state with another stack of directories, in the first of them. -/
def onStack (quiet : Bool) (stack : List Bytes) (s : State) : State :=
  match stack with
  | [] => s
  | dir :: places =>
    match moved false dir s with
    | .error fault => refused s 1 (dir ++ ": ".toList ++ fault.wording.toList)
    | .ok s =>
      let s := { s with extension := { s.extension with places } }
      (if quiet then s else s.say (shownStack s)).done 0

def pushPlace (args : List Bytes) (s : State) : State :=
  let stays := args.head? == some "-n".toList
  let args := if stays then args.tail else args
  let stack := s.placeStack
  match args with
  | [] =>
    match stack with
    | a :: b :: rest => onStack false (b :: a :: rest) s
    | _ => refused s 1 "no other directory".toList
  | arg :: more =>
    if !more.isEmpty then refused s 1 "too many arguments".toList
    else if isStackIndex arg then
      match stackIndex? stack.length arg with
      | some n => onStack false (stack.drop n ++ stack.take n) s
      | none => refused s 1 (arg ++ ": directory stack index out of range".toList)
    else
      match moved false arg s with
      | .error fault => refused s 1 (arg ++ ": ".toList ++ fault.wording.toList)
      | .ok there =>
        if stays then
          { s with extension := { s.extension with places := arg :: s.extension.places } }.done 0
        else
          let there := { there with extension := { there.extension with places := stack } }
          (there.say (shownStack there)).done 0

def popPlace (args : List Bytes) (s : State) : State :=
  let stays := args.head? == some "-n".toList
  let args := if stays then args.tail else args
  let stack := s.placeStack
  match args with
  | [] =>
    match stack with
    | here :: _ :: rest =>
      if stays then { s with extension := { s.extension with places := rest } }.done 0
      else onStack false (stack.tail) { s with here := here.path }
    | _ => refused s 1 "directory stack empty".toList
  | arg :: _ =>
    if !isStackIndex arg then
      misused (s.object (arg ++ (if arg.head? == some '-' then ": invalid number" else ": invalid argument").toList))
        "popd" "[-n] [+N | -N]"
    else
      match stackIndex? stack.length arg with
      | none => refused s 1 ((if stack.length == 1 then "directory stack empty".toList
          else arg ++ ": directory stack index out of range".toList))
      | some 0 => onStack false stack.tail s
      | some n =>
        let s := { s with extension := { s.extension with places := (stack.eraseIdx n).tail } }
        (s.say (shownStack s)).done 0

/-! ### Reading lines -/

/-- The characters up to the one that ends a record, of which each remembers whether a backslash stood in
front of it, whether the record has ended, and what is behind it.  There may be so many at most. -/
def record (raw : Bool) (last : Option Char) : Nat → Option Nat → Bytes → List (Char × Bool) × Bool × Bytes
  | 0, _, s => ([], false, s)
  | _, some 0, s => ([], true, s)
  | _, _, [] => ([], false, [])
  | fuel + 1, most, c :: rest =>
    let fewer := most.map (· - 1)
    if some c == last then ([], true, rest)
    else if c == '\\' && !raw then
      match rest with
      | [] => ([], false, [])
      | d :: rest =>
        if d == '\n' then record raw last fuel most rest
        else
          let (line, ended, rest) := record raw last fuel fewer rest
          ((d, true) :: line, ended, rest)
    else
      let (line, ended, rest) := record raw last fuel fewer rest
      (if c == '\x00' then line else (c, false) :: line, ended, rest)

/-- All words of a line. -/
def wordsOf (separators : Bytes) : Nat → List (Char × Bool) → List Bytes
  | 0, _ => []
  | fuel + 1, line =>
    let separates := fun (c : Char × Bool) => !c.2 && separators.contains c.1
    let isGap := fun (c : Char × Bool) => separates c && Bytes.isBlank c.1
    if line.isEmpty then []
    else
      let (word, rest) := line.span (!separates ·)
      let behind := rest.dropWhile isGap
      let next := match behind with
        | c :: after => if separates c && !isGap c then after.dropWhile isGap else behind
        | [] => []
      word.map Prod.fst :: wordsOf separators fuel next

/-- Gives variables the words of a line, the last one all that is left. -/
def fill (separators : Bytes) : List Bytes → List (Char × Bool) → State → State
  | [], _, s => s
  | name :: names, line, s =>
    let separates := fun (c : Char × Bool) => !c.2 && separators.contains c.1
    let isGap := fun c => separates c && Bytes.isBlank c.1
    let (word, rest) := line.span (!separates ·)
    let behind := rest.dropWhile isGap
    let next := match behind with
      | c :: after => if separates c then after.dropWhile isGap else behind
      | [] => []
    let value := if names.isEmpty && !next.isEmpty then (line.reverse.dropWhile isGap).reverse else word
    match Declaration.argument? name with
    | some (v, key, .none) =>
      let s := s.give v key false (value.map Prod.fst)
      if s.goesOn then fill separators names next s else s
    | _ => refused s 1 (Declaration.shownArgument name)

def readUsage : String :=
  "[-ers] [-a array] [-d delim] [-i text] [-n nchars] [-N nchars] [-p prompt] [-t timeout] [-u fd] [name ...]"

/-- Reads a line into variables or into a list. -/
def readLine (args : List Bytes) (s : State) : State :=
  withOptions "read" "ers" "adinNptu" "" readUsage args s fun g s =>
    let invalid := fun (c : Char) => (g.value? c).filter fun n => n.natural?.isNone
    match (invalid 'n').orElse fun _ => invalid 'N' with
    | some n => refused s 1 (n ++ ": invalid number".toList)
    | none =>
      match (invalid 'u'), (g.args.find? fun name => (Declaration.argument? name).isNone) with
      | some n, _ => refused s 1 (n ++ ": invalid file descriptor specification".toList)
      | none, some name => refused s 1 (Declaration.shownArgument name)
      | none, none =>
        let descriptor := ((g.value? 'u').bind Bytes.natural?).getD 0
        if (s.descriptors.lookup descriptor).isNone then
          refused s 1 (Bytes.ofNat descriptor ++ ": invalid file descriptor: Bad file descriptor".toList)
        else
          let exactly := (g.value? 'N').bind Bytes.natural?
          let most := exactly.orElse fun _ => (g.value? 'n').bind Bytes.natural?
          let last := if exactly.isSome then none
            else (g.value? 'd').elim (some '\n') fun d => some (d.headD '\x00')
          let text := s.inputAt descriptor
          -- Counted are characters, not bytes.
          let characters := if most.isSome then Wide.ofBytes text else text
          let (line, ended, rest) := record (g.has 'r') last (characters.length + 1) most characters
          let line := if most.isSome then line.flatMap fun (c, q) => (Wide.bytesOf c).map fun b => (b, q) else line
          let rest := if most.isSome then Wide.toBytes rest else rest
          let s := if ended then s.leaveAt descriptor rest else s.drainedAt descriptor
          let separators := s.separators
          let trimmed := line.dropWhile fun c => !c.2 && separators.contains c.1 && Bytes.isBlank c.1
          let quiet := fun (s : State) => { s with speaker := none }
          let told := fun (before s : State) => { s with speaker := before.speaker }
          let filled := match g.value? 'a' with
            | some name =>
              (quiet s).giveAll name false ((wordsOf separators (trimmed.length + 1) trimmed).map fun w => (none, false, w))
            | none =>
              if exactly.isSome then
                let names := if g.args.isEmpty then ["REPLY".toList] else g.args
                (names.zipIdx).foldl
                  (fun s (name, i) => s.give name none false (if i == 0 then line.map Prod.fst else [])) (quiet s)
              else if g.args.isEmpty then (quiet s).give "REPLY".toList none false (line.map Prod.fst)
              else fill separators g.args trimmed (quiet s)
          let s := told s filled
          if s.goesOn then s.done (if ended then 0 else 1) else carryingOn s

/-- The records of a text, each with the character that ends it. -/
def records (last : Char) (s : Bytes) : List Bytes :=
  let pieces := Text.splitOn last s
  pieces.dropLast.map (· ++ [last]) ++ (pieces.getLast?.toList.filter (!·.isEmpty))

def readListUsage : String :=
  "[-d delim] [-n count] [-O origin] [-s count] [-t] [-u fd] [-C callback] [-c quantum] [array]"

/-- Reads lines into a list. -/
def readList (name : String) (args : List Bytes) (s : State) : State :=
  withOptions name "t" "dnOsuCc" "" readListUsage args s fun g s =>
    let target := (g.args.head?).getD "MAPFILE".toList
    if !Bytes.isName target then refused s 1 (Declaration.shownArgument target)
    else
      let number := fun (c : Char) => ((g.value? c).bind Bytes.natural?).getD 0
      let descriptor := number 'u'
      let last := (g.value? 'd').elim '\n' fun d => d.headD '\x00'
      let all := records last (s.inputAt descriptor)
      let skipped := all.drop (number 's')
      let count := number 'n'
      let taken := if count == 0 then skipped else skipped.take count
      let left := if count == 0 then [] else skipped.drop count
      let isPart := count != 0 && taken.length == count
      let s := if isPart then s.leaveAt descriptor left.flatten else s.drainedAt descriptor
      let items := taken.map fun line =>
        if g.has 't' && line.getLast? == some last then line.dropLast else line
      let origin := number 'O'
      let given := items.zipIdx.map fun (line, i) => (some (Bytes.ofNat (origin + i)), false, line)
      let s := s.giveAll target (g.value? 'O').isSome given
      if s.goesOn then s.done 0 else carryingOn s

/-! ### Ways out -/

/-- The number that an argument is, perhaps with a sign. -/
def signed? (arg : Bytes) : Option Int :=
  Braces.number? (arg.dropWhile Bytes.isSpace)

/-- The state after a complaint about more arguments than there may be. -/
def crowded (s : State) : State :=
  s.dropping "too many arguments".toList

/-- Leaves loops, or goes on with their next rounds. -/
def leaveLoops (flow : Nat → Flow) (args : List Bytes) (s : State) : State :=
  if s.loops == 0 then refused s 0 "only meaningful in a \x60for', \x60while', or \x60until' loop".toList
  else
    match args with
    | [] => (s.done 0).going (flow 1)
    | arg :: more =>
      match signed? arg with
      | none => (refused s 128 (arg ++ ": numeric argument required".toList)).going (.exit true)
      | some n =>
        if !more.isEmpty then crowded s
        else if n < 1 then (refused s 1 (arg ++ ": loop count out of range".toList)).going (.leave s.loops)
        else (s.done 0).going (flow (min n.toNat s.loops))

def shift (args : List Bytes) (s : State) : State :=
  match args with
  | [] => if s.args.isEmpty then s.done 1 else { s with args := s.args.tail }.done 0
  | arg :: more =>
    match signed? arg with
    | none => refused s 1 (arg ++ ": numeric argument required".toList)
    | some n =>
      if !more.isEmpty then crowded s
      else if n < 0 then refused s 1 (arg ++ ": shift count out of range".toList)
      else if s.args.length < n.toNat then s.done 1
      else { s with args := s.args.drop n.toNat }.done 0

def back (args : List Bytes) (s : State) : State :=
  let isRunning := s.outer.isSome || s.extension.frames.any fun f => f.name == "source".toList
  if !isRunning then
    refused s 2 "can only \x60return' from a function or sourced script".toList
  else
    match args with
    | [] => s.going .back
    | arg :: more =>
      match signed? arg with
      | none => (refused s 2 (arg ++ ": numeric argument required".toList)).going .back
      | some n =>
        if !more.isEmpty then crowded s
        else (s.done (n % 256).toNat).going .back

def leave (args : List Bytes) (s : State) : State :=
  match args with
  | [] => s.going (.exit false)
  | arg :: more =>
    match signed? arg with
    | none => (refused s 2 (arg ++ ": numeric argument required".toList)).going (.exit true)
    | some n =>
      if !more.isEmpty then crowded s
      else (s.done (n % 256).toNat).going (.exit true)

/-! ### Options -/

def setUsage : String :=
  "[-abefhkmnptuvxBCEHPT] [-o option-name] [--] [-] [arg ...]"

def setOptions (args : List Bytes) (s : State) : State :=
  if args.isEmpty then
    let names := State.sortedNames (s.vars.map Prod.fst ++ s.extension.series.map Prod.fst)
    let functions := (State.sortedNames (s.functions.map Prod.fst)).flatMap fun name =>
      ((s.functions.lookup name).map fun f => Wording.definition name f.body).getD []
    (s.say (names.flatMap (fun name => s.shownValue name ++ ['\n']) ++ functions)).done 0
  else
    match Setting.readExtended false args s with
    | .error text =>
      let isLetter := (Text.dropStart? ": invalid option".toList (text.drop 2)).isSome
      if isLetter then misused (s.object text) "set" setUsage else refused s 2 text
    | .ok w =>
      let s := w.state.done 0
      if w.rest.isEmpty && !w.replaces then s else { s with args := w.rest }

/-- The further options, in their order. -/
def allSettings : List String :=
  ["assoc_expand_once", "autocd", "cdable_vars", "cdspell", "checkhash", "checkjobs", "checkwinsize",
    "cmdhist", "compat31", "compat32", "compat40", "compat41", "compat42", "compat43", "compat44",
    "complete_fullquote", "direxpand", "dirspell", "dotglob", "execfail", "expand_aliases", "extdebug",
    "extglob", "extquote", "failglob", "force_fignore", "globasciiranges", "globskipdots", "globstar",
    "gnu_errfmt", "histappend", "histreedit", "histverify", "hostcomplete", "huponexit",
    "inherit_errexit", "interactive_comments", "lastpipe", "lithist", "localvar_inherit",
    "localvar_unset", "login_shell", "mailwarn", "no_empty_cmd_completion", "nocaseglob",
    "nocasematch", "noexpand_translation", "nullglob", "patsub_replacement", "progcomp",
    "progcomp_alias", "promptvars", "restricted_shell", "shift_verbose", "sourcepath", "syslog_history",
    "varredir_close", "xpg_echo"]

/-- A further option is on. -/
def isSet (s : State) (name : String) : Bool :=
  s.extension.settings.contains name

/-- The options, each with whether it is on, of `set` or the further ones. -/
def optionTable (s : State) (ofSet : Bool) : List (String × Bool) :=
  if ofSet then Setting.extendedTable.map fun (name, letter) => (name, s.has letter)
  else allSettings.map fun name => (name, isSet s name)

/-- Switches the further options, or tells what they are. -/
def switch (args : List Bytes) (s : State) : State :=
  withOptions "shopt" "supqo" "" "" "[-pqsu] [-o] [optname ...]" args s fun g s =>
    let ofSet := g.has 'o'
    let table := optionTable s ofSet
    let line := fun (name : String) (on : Bool) =>
      if g.has 'p' then
        (if ofSet then (if on then "set -o " else "set +o ") else (if on then "shopt -s " else "shopt -u ")).toList ++
          name.toList ++ ['\n']
      else name.toList ++ List.replicate (15 - name.length) ' ' ++ (if on then "\ton\n" else "\toff\n").toList
    let names := g.args.map String.ofList
    if g.has 's' && g.has 'u' then refused s 1 "cannot set and unset shell options simultaneously".toList
    else if names.isEmpty then
      let wanted := table.filter fun o => if g.has 's' then o.2 else if g.has 'u' then !o.2 else true
      (if g.has 'q' then s else s.say (wanted.flatMap fun o => line o.1 o.2)).done 0
    else
      eachOf g.args s fun s arg =>
        let name := String.ofList arg
        match table.lookup name with
        | none => refused s 1 (arg ++ (if ofSet then ": invalid option name"
            else ": invalid shell option name").toList)
        | some on =>
          if g.has 's' || g.has 'u' then
            let on := g.has 's'
            if ofSet then
              ((Setting.extendedTable.lookup name).elim s (Setting.switchExtended s on)).done 0
            else
              let x := s.extension
              let others := x.settings.filter (· != name)
              { s with extension := { x with settings := if on then name :: others else others } }.done 0
          else (if g.has 'q' then s else s.say (line name on)).done (if on then 0 else 1)

/-! ### Jobs and signals -/

def waitAll (args : List Bytes) (s : State) : State :=
  withOptions "wait" "fn" "p" "" "[-fn] [-p var] [id ...]" args s fun g s =>
    if g.has 'n' then
      let left := s.jobs.filter fun j => !j.waited
      match left.foldl
        (fun (best : Option Job) j => match best with
          | some b => if j.stop < b.stop || (j.stop == b.stop && j.number < b.number) then some j else best
          | none => some j) none with
      | some j => Builtin.waitFor s j
      | none => s.done 127
    else if g.args.isEmpty then Builtin.waitAll [] s
    else
      g.args.foldl
        (fun s arg =>
          if !s.goesOn then s
          else
            match arg with
            | '%' :: name =>
              (s.namedJob? name).elim (refused s 127 (arg ++ ": no such job".toList)) (Builtin.waitFor s)
            | arg =>
              match arg.natural? with
              | none => refused s 1 ("\x60".toList ++ arg ++ "': not a pid or valid job spec".toList)
              | some n =>
                ((s.processOf? n).bind s.jobOf?).elim
                  (refused s 127 ("pid ".toList ++ arg ++ " is not a child of this shell".toList))
                  (Builtin.waitFor s))
        s

/-- Lists jobs, the last one first. -/
def listJobs (args : List Bytes) (s : State) : State :=
  withOptions "jobs" "lnprs" "x" "" "[-lnprs] [jobspec ...] or jobs -x command [args]" args s fun g s =>
    match g.args.find? fun arg => (s.namedJob? (arg.drop 1)).isNone with
    | some arg => refused s 1 (arg ++ ": no such job".toList)
    | none =>
      let left := s.jobs.filter fun j => !j.waited
      let lines := left.zipIdx.map fun (j, i) =>
        let process := Bytes.ofNat (State.shownNumber j.process)
        let mark := if i == 0 then '+' else if i == 1 then '-' else ' '
        let state := Builtin.jobWording s j
        if g.has 'p' then process ++ ['\n']
        else ['['] ++ Bytes.ofNat j.number ++ [']', mark, ' ', ' '] ++
          (if g.has 'l' then process ++ [' '] else []) ++ state ++
          List.replicate (24 - state.length) ' ' ++ j.text ++
          (if s.clock < j.stop then " &".toList else []) ++ ['\n']
      { s.say lines.reverse.flatten with jobs := s.jobs.filter fun j => s.clock < j.stop }.done 0

/-- Forgets jobs. -/
def disown (args : List Bytes) (s : State) : State :=
  withOptions "disown" "ahr" "" "" "[-h] [-ar] [jobspec ... | pid ...]" args s fun g s =>
    if g.args.isEmpty then
      if s.jobs.isEmpty && !g.has 'a' && !g.has 'r' then refused s 1 "current: no such job".toList
      else { s with jobs := if g.has 'a' then [] else s.jobs.drop 1 }.done 0
    else
      eachOf g.args s fun s arg =>
        match s.namedJob? (arg.drop 1) with
        | some j => { s with jobs := s.jobs.filter fun k => k.process != j.process }
        | none => refused s 1 (arg ++ ": no such job".toList)

/-- Control of jobs takes a terminal. -/
def resume (_ : List Bytes) (s : State) : State :=
  refused s 1 "no job control".toList

/-- What is run where a command fails that is not expected to, and the like: their names, with the
numbers that they have among signals. -/
def events : List (String × Nat) :=
  [("DEBUG", 65), ("ERR", 66), ("RETURN", 67)]

/-- The number of a signal or an event by its name, perhaps with letters in front that all have. -/
def signal? (name : Bytes) : Option Nat :=
  let upper := name.map Char.toUpper
  (events.lookup (String.ofList upper)).orElse fun _ =>
    let short := (Text.dropStart? "SIG".toList upper).getD upper
    if short == "STKFLT".toList then some 16
    else if short.head?.any Char.isDigit then name.natural?.filter (· ≤ Signal.lastFree)
    else Signal.ofName? short

/-- The name of a signal. -/
def signalName (n : Nat) : Bytes :=
  if n == 0 then "EXIT".toList
  else if n == 16 then "STKFLT".toList
  else
    match events.find? (·.2 == n) with
    | some (name, _) => name.toList
    | none => (Signal.name? n).getD []

/-- The name of a signal with the letters in front that all have. -/
def fullName (n : Nat) : Bytes :=
  if n == 0 || Signal.lastFree < n then signalName n else "SIG".toList ++ signalName n

/-- The table of the signals. -/
def signalTable : Bytes :=
  let numbers := (Signal.all.drop 1).filter fun n => n != 32 && n != 33
  let cells := numbers.zipIdx.map fun (n, i) =>
    let number := Bytes.ofNat n
    List.replicate (2 - number.length) ' ' ++ number ++ ") ".toList ++ fullName n ++
      (if i % 5 == 4 || i + 1 == numbers.length then ['\n'] else ['\t'])
  cells.flatten

def kill (args : List Bytes) (s : State) : State :=
  let usage := "[-s sigspec | -n signum | -sigspec] pid | jobspec ... or kill -l [sigspec]"
  let invalid := fun (name : Bytes) => refused s 1 (name ++ ": invalid signal specification".toList)
  let sendAll := fun (n : Nat) (args : List Bytes) =>
    if args.isEmpty then misused s "kill" usage
    else
      eachOf args s fun s arg =>
        match arg with
        | '%' :: name =>
          (s.namedJob? name).elim (refused s 1 (arg ++ ": no such job".toList)) fun j => s.send j.process n
        | arg =>
          match signed? arg with
          | none => refused s 1 (arg ++ ": arguments must be process or job IDs".toList)
          | some number =>
            match (s.processOf? number.toNat).filter fun p => 0 < number && Builtin.isAlive s p with
            | some process => s.send process n
            | none => refused s 1 ("(".toList ++ arg ++ ") - No such process".toList)
  match args with
  | [] => misused s "kill" usage
  | ['-', 'l'] :: [] | ['-', 'L'] :: [] => (s.say signalTable).done 0
  | ['-', 'l'] :: names | ['-', 'L'] :: names =>
    eachOf names s fun s name =>
      match name.natural? with
      | some n =>
        let n := if 128 < n then n - 128 else n
        if n ≤ Signal.lastFree && n != 32 && n != 33 then s.say (signalName n ++ ['\n'])
        else refused s 1 (name ++ ": invalid signal specification".toList)
      | none =>
        match signal? name with
        | some n => s.say (Bytes.ofNat n ++ ['\n'])
        | none => refused s 1 (name ++ ": invalid signal specification".toList)
  | ['-', 's'] :: name :: rest | ['-', 'n'] :: name :: rest => (signal? name).elim (invalid name) fun n => sendAll n rest
  | ['-', '-'] :: rest => sendAll Signal.terminate rest
  | ('-' :: c :: name) :: rest => (signal? (c :: name)).elim (invalid (c :: name)) fun n => sendAll n rest
  | args => sendAll Signal.terminate args

/-- A trap as the command that sets it. -/
def shownTrap (s : State) (n : Nat) : Bytes :=
  (s.traps.lookup n).elim [] fun action =>
    "trap -- ".toList ++ Quoting.single action ++ ' ' :: fullName n ++ ['\n']

def trap (args : List Bytes) (s : State) : State :=
  let usage := "[-lp] [[arg] signal_spec ...]"
  withOptions "trap" "lpP" "" "" usage args s fun g s =>
    let known := Signal.all ++ events.map Prod.snd
    let remove := fun (names : List Bytes) =>
      eachOf names s fun s name =>
        (signal? name).elim (refused s 1 (name ++ ": invalid signal specification".toList)) s.withoutTrap
    if g.has 'l' then (s.say signalTable).done 0
    else if g.has 'p' then
      if g.args.isEmpty then (s.say (known.flatMap (shownTrap s))).done 0
      else
        eachOf g.args s fun s name =>
          (signal? name).elim (refused s 1 (name ++ ": invalid signal specification".toList)) fun n =>
            s.say (shownTrap s n)
    else
      match g.args with
      | [] => (s.say (known.flatMap (shownTrap s))).done 0
      | [name] => if (signal? name).isSome then remove [name] else misused s "trap" usage
      | first :: names =>
        if first == ['-'] then remove names
        else if first.natural?.any (· ≤ Signal.lastFree) then remove (first :: names)
        else
          eachOf names s fun s name =>
            match signal? name with
            | none => refused s 1 (name ++ ": invalid signal specification".toList)
            | some n => { s.withoutTrap n with traps := (n, first) :: (s.withoutTrap n).traps }

/-! ### What names mean -/

/-- The commands of the shell. -/
def names : List String :=
  [".", ":", "[", "alias", "bg", "bind", "break", "builtin", "caller", "cd", "command", "compgen",
    "complete", "compopt", "continue", "declare", "dirs", "disown", "echo", "enable", "eval", "exec",
    "exit", "export", "false", "fc", "fg", "getopts", "hash", "help", "history", "jobs", "kill", "let",
    "local", "logout", "mapfile", "popd", "printf", "pushd", "pwd", "read", "readarray", "readonly",
    "return", "set", "shift", "shopt", "source", "suspend", "test", "times", "trap", "true", "type",
    "typeset", "ulimit", "umask", "unalias", "unset", "wait"]

/-- A name is that of a command of the shell which is not switched off. -/
def isOwn (s : State) (name : Bytes) : Bool :=
  names.contains (String.ofList name) && !s.extension.disabled.contains name

/-- What a name means as a command; functions do not count unless they are asked for. -/
def meaning (s : State) (functions : Bool) (searchPath : String) (name : Bytes) : Builtin.Meaning :=
  if functions && (s.functions.lookup name).isSome then .function
  else if isOwn s name then .plain
  else if name.contains '/' then
    if Program.isProgram s.lookup name.path then .program name.path else .unknown
  else if name.isEmpty then .unknown
  else (Program.search? s.lookup searchPath name.text).elim .unknown .program

/-- What a name means, in one word. -/
def kind (s : State) (name : Bytes) : String :=
  if (s.aliases.lookup name).isSome && isSet s "expand_aliases" then "alias"
  else if (Token.keywordsOf .extended).contains (String.ofList name) then "keyword"
  else
    match meaning s true s.searchPath name with
    | .function => "function"
    | .plain | .special => "builtin"
    | .program _ => "file"
    | .unknown => ""

/-- The programs of a name on the search path. -/
def programs (s : State) (name : Bytes) : List Bytes :=
  if name.contains '/' then if Program.isProgram s.lookup name.path then [name] else []
  else ((Program.places s.searchPath name.text).filter (Program.isProgram s.lookup)).map fun p => Bytes.ofText p.text

/-- What a name means, at length. -/
def described (s : State) (name : Bytes) (functions : Bool) : Option Bytes :=
  let told := fun (text : String) => some (name ++ text.toList ++ ['\n'])
  match kind s name with
  | "alias" => some (name ++ " is aliased to \x60".toList ++ (s.aliases.lookup name).getD [] ++ "'\n".toList)
  | "keyword" => told " is a shell keyword"
  | "function" =>
    if functions then
      (s.functions.lookup name).map fun f =>
        name ++ " is a function\n".toList ++ Wording.definition name f.body
    else other
  | _ => other
where
  other : Option Bytes :=
    if isOwn s name then some (name ++ " is a shell builtin\n".toList)
    else (programs s name).head?.map fun p =>
      if s.located.contains name then name ++ " is hashed (".toList ++ p ++ ")\n".toList
      else name ++ " is ".toList ++ p ++ ['\n']

def describe (args : List Bytes) (s : State) : State :=
  withOptions "type" "afptP" "" "" "[-afptP] name [name ...]" args s fun g s =>
    eachOf g.args s fun s name =>
      if g.has 'P' || g.has 'p' then
        let found := programs s name
        let isOther := !g.has 'P' && kind s name != "file"
        if found.isEmpty || isOther then s.done (if isOther && kind s name != "" then 0 else 1)
        else s.say (((if g.has 'a' then found else found.take 1)).flatMap (· ++ ['\n']))
      else if g.has 't' then
        match kind s name with
        | "" => s.done 1
        | text => s.say (text.toList ++ ['\n'])
      else if g.has 'a' then
        let first := if kind s name == "file" then none else described s name (!g.has 'f')
        let files := (programs s name).map fun p => name ++ " is ".toList ++ p ++ ['\n']
        let all := first.toList ++ files
        if all.isEmpty then refused s 1 (name ++ ": not found".toList) else s.say all.flatten
      else
        match described s name (!g.has 'f') with
        | some text => s.say text
        | none => refused s 1 (name ++ ": not found".toList)

/-- What is left of `command` where it runs nothing. -/
def explain (args : List Bytes) (s : State) : State :=
  withOptions "command" "pVv" "" "" "[-pVv] command [arg ...]" args s fun g s =>
    if !g.has 'v' && !g.has 'V' then s.done 0
    else
      let known := g.args.filter fun name => kind s name != ""
      let s := g.args.foldl
        (fun s name =>
          if g.has 'V' then
            match described s name true with
            | some text => s.say text
            | none => s.object (name ++ ": not found".toList)
          else
            match kind s name with
            | "" => s
            | "file" => s.say ((programs s name).headD name ++ ['\n'])
            | "alias" => s.say ("alias ".toList ++ name ++ '=' ::
                Quoting.single ((s.aliases.lookup name).getD []) ++ ['\n'])
            | _ => s.say (name ++ ['\n']))
        s
      s.done (if known.isEmpty then 1 else 0)

def locate (args : List Bytes) (s : State) : State :=
  withOptions "hash" "rldt" "p" "" "[-lr] [-p pathname] [-dt] [name ...]" args s fun g s =>
    if g.has 'r' then { s with located := [] }.done 0
    else if g.args.isEmpty then
      if s.located.isEmpty then (s.say "hash: hash table empty\n".toList).done 0
      else
        let lines := s.located.reverse.flatMap fun name =>
          "   1\t".toList ++ (programs s name).headD name ++ ['\n']
        (s.say ("hits\tcommand\n".toList ++ lines)).done 0
    else
      eachOf g.args s fun s name =>
        if g.has 't' then
          if s.located.contains name then s.say ((programs s name).headD name ++ ['\n'])
          else refused s 1 (name ++ ": not found".toList)
        else if g.has 'd' then { s with located := s.located.filter (· != name) }
        else
          match meaning s true s.searchPath name with
          | .unknown => refused s 1 (name ++ ": not found".toList)
          | .program _ => { s with located := name :: s.located.filter (· != name) }
          | _ => s

def shownAlias (a : Bytes × Bytes) : Bytes :=
  "alias ".toList ++ a.1 ++ '=' :: Quoting.single a.2 ++ ['\n']

def aliases (args : List Bytes) (s : State) : State :=
  withOptions "alias" "p" "" "" "[-p] [name[=value] ... ]" args s fun g s =>
    let sorted := s.aliases.mergeSort fun a b => !Bytes.isBefore b.1 a.1
    let s := if args.isEmpty || g.has 'p' then s.say (sorted.flatMap shownAlias) else s
    eachOf g.args s fun s arg =>
      match Text.cutAt? '=' arg with
      | some (c :: name, value) =>
        { s with aliases := (c :: name, value) :: s.aliases.filter (·.1 != c :: name) }
      | _ =>
        match s.aliases.lookup arg with
        | some value => s.say (shownAlias (arg, value))
        | none => refused s 1 (arg ++ ": not found".toList)

def removeAliases (args : List Bytes) (s : State) : State :=
  withOptions "unalias" "a" "" "" "[-a] name [name ...]" args s fun g s =>
    if g.has 'a' then { s with aliases := [] }.done 0
    else if g.args.isEmpty then misused s "unalias" "[-a] name [name ...]"
    else
      eachOf g.args s fun s arg =>
        if (s.aliases.lookup arg).isSome then { s with aliases := s.aliases.filter (·.1 != arg) }
        else refused s 1 (arg ++ ": not found".toList)

/-- Switches commands of the shell off and on, or lists them. -/
def enable (args : List Bytes) (s : State) : State :=
  withOptions "enable" "adnps" "f" "" "[-a] [-dnps] [-f filename] [name ...]" args s fun g s =>
    let off := s.extension.disabled
    if g.args.isEmpty then
      let shown := names.filter fun name =>
        g.has 'a' || off.contains name.toList == g.has 'n'
      (s.say (shown.flatMap fun name =>
        (if off.contains name.toList then "enable -n " else "enable ").toList ++ name.toList ++ ['\n'])).done 0
    else
      eachOf g.args s fun s name =>
        let off := s.extension.disabled.filter (· != name)
        if !names.contains (String.ofList name) then refused s 1 (name ++ ": not a shell builtin".toList)
        else { s with extension := { s.extension with disabled := if g.has 'n' then name :: off else off } }

/-! ### The rest -/

/-- Calculates, and succeeds if the last value is not zero. -/
def calculate (args : List Bytes) (s : State) : State :=
  if args.isEmpty then refused s 1 "expression expected".toList
  else
    (args.foldl
      (fun (s, going) arg =>
        if !going then (s, going)
        else
          match Calculation.value s arg with
          | .ok (n, s) => (s.done (if n == 0 then 1 else 0), true)
          | .error t => (refused s 1 t.wording, false))
      (s, true)).1

def mask (args : List Bytes) (s : State) : State :=
  withOptions "umask" "pS" "" "" "[-p] [-S] [mode]" args s fun g s =>
    match g.args with
    | [] =>
      let text := if g.has 'S' then Builtin.shownMode s.umask else Builtin.octalMode s.umask
      let front := if !g.has 'p' then "" else if g.has 'S' then "umask -S " else "umask "
      (s.say (front.toList ++ text ++ ['\n'])).done 0
    | arg :: _ =>
      let told := fun (s : State) =>
        (if g.has 'S' then s.say (Builtin.shownMode s.umask ++ ['\n']) else s).done 0
      if arg.head?.any Char.isDigit then
        if arg.all Printing.isOctal && Arithmetic.inBase 8 arg ≤ Builtin.allBits then
          told { s with umask := Arithmetic.inBase 8 arg }
        else refused s 1 (arg ++ ": octal number out of range".toList)
      else
        match Builtin.symbolicMode? arg (Builtin.allBits ^^^ s.umask) with
        | some mode => told { s with umask := Builtin.allBits ^^^ mode }
        | none =>
          let letters := arg.dropWhile fun c => "ugoa".toList.contains c
          match letters with
          | c :: behind =>
            if "+-=".toList.contains c then
              let wrong := behind.dropWhile fun c => "rwxXst,ugoa+-=".toList.contains c
              refused s 1 ("\x60".toList ++ wrong.take 1 ++ "': invalid symbolic mode character".toList)
            else refused s 1 ("\x60".toList ++ [c] ++ "': invalid symbolic mode operator".toList)
          | [] => refused s 1 ("\x60".toList ++ ['\x00'] ++ "': invalid symbolic mode operator".toList)

/-- The limits as they are listed: what a limit is called, its units, its letter and whether it is
told in units of so many. -/
def limitLines : List (String × String × Char × Option Char) :=
  [("real-time non-blocking time", "microseconds", 'R', none), ("core file size", "blocks", 'c', some 'c'),
    ("data seg size", "kbytes", 'd', some 'd'), ("scheduling priority", "", 'e', none),
    ("file size", "blocks", 'f', some 'f'), ("pending signals", "", 'i', none),
    ("max locked memory", "kbytes", 'l', some 'l'), ("max memory size", "kbytes", 'm', some 'm'),
    ("open files", "", 'n', some 'n'), ("pipe size", "512 bytes", 'p', none),
    ("POSIX message queues", "bytes", 'q', none), ("real-time priority", "", 'r', some 'r'),
    ("stack size", "kbytes", 's', some 's'), ("cpu time", "seconds", 't', some 't'),
    ("max user processes", "", 'u', some 'p'), ("virtual memory", "kbytes", 'v', some 'v'),
    ("file locks", "", 'x', some 'w')]

/-- The limits that are told and never change. -/
def fixedLimit : Char → Bytes
  | 'e' => ['0']
  | 'p' => ['8']
  | 'q' => "819200".toList
  | 'i' => "127402".toList
  | _ => "unlimited".toList

def limits (args : List Bytes) (s : State) : State :=
  withOptions "ulimit" "SHabcdefiklmnpqrstuvxPRT" "" "" "[-SHabcdefiklmnpqrstuvxPRT] [limit]" args s fun g s =>
    let isHard := g.has 'H' && !g.has 'S'
    let kindOf := fun (c : Char) =>
      (limitLines.find? (·.2.2.1 == c)).bind fun l => l.2.2.2.bind fun k =>
        Limit.kinds.find? (·.letter == k)
    let told := fun (c : Char) =>
      match kindOf c with
      | some k =>
        let bound := Limit.current s k
        Limit.shown { k with unit := if c == 'f' || c == 'c' then 1024 else k.unit } (if isHard then bound.hard else bound.soft)
      | none => fixedLimit c
    if g.has 'a' then
      let lines := limitLines.map fun (name, unit, c, _) =>
        let place := (if unit.isEmpty then "(-" else "(" ++ unit ++ ", -").toList ++ [c, ')', ' ']
        name.toList ++ List.replicate (21 - min 20 name.length) ' ' ++
          List.replicate (20 - place.length) ' ' ++ place ++ told c ++ ['\n']
      (s.say lines.flatten).done 0
    else
      let letter := ((g.letters.map (·.2.1)).filter fun c => c != 'H' && c != 'S').getLast?.getD 'f'
      match g.args with
      | [] => (s.say (told letter ++ ['\n'])).done 0
      | arg :: _ =>
        match kindOf letter with
        | none => s.done 0
        | some k =>
          let old := Limit.current s k
          let value := if arg == "hard".toList then some old.hard
            else if arg == "soft".toList then some old.soft
            else Limit.value? { k with unit := if letter == 'f' || letter == 'c' then 1024 else k.unit } arg
          match value with
          | none => refused s 1 (arg ++ ": invalid number".toList)
          | some value =>
            let onlyHard := g.has 'H' && !g.has 'S'
            let onlySoft := g.has 'S' && !g.has 'H'
            let bound : Bound := ⟨if onlyHard then old.soft else value, if onlySoft then old.hard else value⟩
            match Limit.set s k bound with
            | .ok s => s.done 0
            | .error fault =>
              let name := ((limitLines.find? (·.2.2.1 == letter)).map (·.1)).getD ""
              refused s 1 ((name ++ ": cannot modify limit: ").toList ++ fault.wording.toList)

/-- Tells where the function that runs was called. -/
def caller (args : List Bytes) (s : State) : State :=
  let frames := s.extension.frames
  let level := (args.head?.bind Bytes.natural?).getD 0
  match frames[level]? with
  | none => s.done 1
  | some f =>
    let outer := frames[level + 1]?
    let origin := (outer.map Frame.origin).getD (if s.has 'c' then "NULL".toList else s.name)
    if args.isEmpty then (s.say (Bytes.ofNat f.line ++ ' ' :: origin ++ ['\n'])).done 0
    else
      match outer with
      | some o => (s.say (Bytes.ofNat f.line ++ ' ' :: o.name ++ ' ' :: origin ++ ['\n'])).done 0
      | none => if s.has 'c' then s.done 1
        else (s.say (Bytes.ofNat f.line ++ " main ".toList ++ origin ++ ['\n'])).done 0

/-- The next option among arguments that are read one option at a time. -/
def nextOption (known name : Bytes) (args : List Bytes) (s : State) : State :=
  let index := max 1 (((s.value? "OPTIND".toList).bind Bytes.natural?).getD 1)
  let current := (args[index - 1]?).getD []
  let left := if s.optionPlace != 0 && s.optionPlace < current.length then current.drop s.optionPlace
    else
      match current with
      | ['-', '-'] => []
      | '-' :: c :: more => c :: more
      | _ => []
  let quiet := known.head? == some ':'
  let finish := fun (s : State) (option : Char) (value : Option Bytes) (index place status : Nat) =>
    let s := s.put "OPTIND".toList (Bytes.ofNat index)
    let s := value.elim (s.clear "OPTARG".toList) (s.put "OPTARG".toList)
    if !Bytes.isName name then refused s 1 (Declaration.shownArgument name)
    else
      let s := s.give name none false [option]
      if s.goesOn then { s with optionPlace := place }.done status else s
  let told := fun (text : String) (c : Char) =>
    if s.value? "OPTERR".toList == some ['0'] then s
    else s.complain (s.name ++ ": ".toList ++ text.toList ++ " -- ".toList ++ [c])
  match left with
  | [] => finish s '?' none (if current == "--".toList then index + 1 else index) 0 1
  | c :: left =>
    let next := if left.isEmpty then index + 1 else index
    let place := if left.isEmpty then 0 else current.length - left.length
    if !known.contains c || c == ':' then
      if quiet then finish s '?' (some [c]) next place 0
      else finish (told "illegal option" c) '?' none next place 0
    else if (known.dropWhile (· != c)).tail.head? != some ':' then finish s c none next place 0
    else
      match left, args[index]? with
      | [], none =>
        if quiet then finish s ':' (some [c]) (index + 1) 0 0
        else finish (told "option requires an argument" c) '?' none (index + 1) 0 0
      | [], some value => finish s c (some value) (index + 2) 0 0
      | value, _ => finish s c (some value) (index + 1) 0 0

def readOption (args : List Bytes) (s : State) : State :=
  match args with
  | [known, name] => nextOption known name s.args s
  | known :: name :: args => nextOption known name args s
  | _ => misused s "getopts" "optstring name [arg ...]"

def help (args : List Bytes) (s : State) : State :=
  match args with
  | [] => s.done 0
  | topic :: _ => refused s 1 ("no help topics match \x60".toList ++ topic ++ "'.  Try \x60help help' or \x60man -k ".toList ++
      topic ++ "' or \x60info ".toList ++ topic ++ "'.".toList)

/-- The commands by their names. -/
def table : List (String × (List Bytes → State → State)) :=
  [(":", fun _ s => s.done 0),
    ("true", fun _ s => s.done 0),
    ("false", fun _ s => s.done 1),
    ("echo", fun args s => (s.say (echoed false (isSet s "xpg_echo") args)).done 0),
    ("printf", format),
    ("test", judge),
    ("[", fun args s =>
      if args.getLast? == some [']'] then judge args.dropLast s
      else refused s 2 "missing \x60]'".toList),
    ("cd", changeDirectory),
    ("pwd", printDirectory),
    ("pushd", pushPlace),
    ("popd", popPlace),
    ("dirs", listPlaces),
    ("read", readLine),
    ("mapfile", readList "mapfile"),
    ("readarray", readList "readarray"),
    ("getopts", readOption),
    ("export", Declaration.exportAll),
    ("readonly", Declaration.fixAll),
    ("declare", Declaration.declare "declare"),
    ("typeset", Declaration.declare "typeset"),
    ("local", Declaration.declare "local"),
    ("unset", Declaration.unset),
    ("set", setOptions),
    ("shopt", switch),
    ("shift", shift),
    ("break", leaveLoops .leave),
    ("continue", leaveLoops .again),
    ("return", back),
    ("exit", leave),
    ("logout", fun _ s => refused s 1 "not login shell: use \x60exit'".toList),
    ("wait", waitAll),
    ("jobs", listJobs),
    ("fg", resume),
    ("bg", resume),
    ("disown", disown),
    ("kill", kill),
    ("trap", trap),
    ("umask", mask),
    ("ulimit", limits),
    ("alias", aliases),
    ("unalias", removeAliases),
    ("type", describe),
    ("command", explain),
    ("hash", locate),
    ("enable", enable),
    ("let", calculate),
    ("caller", caller),
    ("help", help),
    ("bind", fun _ s => s.done 0),
    ("complete", fun _ s => s.done 0),
    ("compgen", fun _ s => s.done 1),
    ("compopt", fun _ s => s.done 1),
    ("fc", fun _ s => s.done 0),
    ("history", fun _ s => s.done 0),
    ("suspend", fun _ s => refused s 1 "cannot suspend: no job control".toList),
    ("times", fun _ s => (s.say "0m0.000s 0m0.000s\n0m0.000s 0m0.000s\n".toList).done 0)]

/-- The state after a command of the shell that runs no other, if it is one. -/
def run? (name : Bytes) (args : List Bytes) (s : State) : Option State :=
  (table.lookup (String.ofList name)).map fun f => f args s

end ScriptDeps.Shell.Extended
