/-
Running commands.

Every function takes fuel, which each call hands on less one; a command that is still not done
when the fuel is spent is taken for one that never ends.  So is one that has been stopped
from outside.

Two facts about where a command stands go along with it.  It is `guarded` if its failure is
expected, as in a condition.  It is `last` if the process that runs it does nothing after it,
and was started for it, so that a program takes the place of the process.
-/
import ScriptDeps.Shell.Asking
import ScriptDeps.Shell.Awk.Invocation
import ScriptDeps.Shell.Callee
import ScriptDeps.Shell.Edit.Invocation
import ScriptDeps.Shell.Opening
import ScriptDeps.Shell.Stage
import ScriptDeps.Shell.Start
import ScriptDeps.Shell.Utility.Find
import ScriptDeps.Shell.Utility.Table
import ScriptDeps.Shell.Utility.Version

namespace ScriptDeps.Shell

namespace State

/-- How long it takes until a process in the background does something. -/
def startingTime : Nat :=
  1

/-- A value as a piece. -/
def piece (value : Bytes) (quoted : Bool) : Piece :=
  if quoted then .whole value true else .loose value

/-- The shell ends at a failure that is not expected. -/
def checked (s : State) (guarded : Bool) : State :=
  if s.goesOn && s.has 'e' && !guarded && s.status != 0 then s.going (.exit true) else s

/-- The state after a pipeline of one command. -/
def alone (s : State) : State :=
  if s.isExtended then { s with extension := { s.extension with statuses := [s.status] } } else s

/-- How things go on after a round of a loop that was left, or was told to go on. -/
def afterRound (s : State) : State × Bool :=
  match s.flow with
  | .next => (s, true)
  | .leave n => (s.going (if n ≤ 1 then .next else .leave (n - 1)), false)
  | .again n => if n ≤ 1 then (s.going .next, true) else (s.going (.again (n - 1)), false)
  | _ => (s, false)

/-- The state outside of a loop that began in `before`. -/
def outOfLoop (s before : State) : State :=
  { s with loops := before.loops }

/-- The first descriptor from a number on that leads nowhere. -/
def freeDescriptor (s : State) (first : Nat) : Nat :=
  ((List.range (s.descriptors.length + 1)).map (· + first)).find?
    (fun n => (s.descriptors.lookup n).isNone) |>.getD first

/-- The descriptor for a file that commands print to or read from: the last one that leads nowhere. -/
def lastDescriptor (s : State) : Nat :=
  ((List.range 54).map (63 - ·)).find? (fun n => (s.descriptors.lookup n).isNone) |>.getD 63

/-- The words that stand for other texts where commands are read. -/
def readAliases (s : State) : List (Bytes × Bytes) :=
  if s.isExtended && !Extended.isSet s "expand_aliases" then [] else s.aliases

/-- The state in which the command on a line runs. -/
def onLine (s : State) (line : Nat) : State :=
  { s with line := line + s.extension.base }

/-- The state in which a command runs that scripts can ask for; what is run on events does not count. -/
def starting (s : State) (c : Command) : State :=
  let isEvent := s.extension.label.any fun label => label.reverse.take 4 == "part".toList
  if s.isExtended && !isEvent then { s with running := c } else s

/-- The line of the command that runs as commands count them. -/
def commandLine (s : State) : Nat :=
  s.line - s.extension.base

/-- The source of a text that the shell reads. -/
def source (s : State) (line : Nat) (text : Bytes) : Source :=
  .ofText s.dialect s.readAliases line text

/-- The state in which a text is read that is called so in complaints about it. -/
def inside (s : State) (label : Option Bytes) : State :=
  { s with extension := { s.extension with label, texts := s.extension.texts + 1 } }

/-- The state after a text was read, outside of it again. -/
def outsideLike (s before : State) : State :=
  { s with extension := { s.extension with
      label := before.extension.label, texts := before.extension.texts } }

/-- The state after the complaints about a text that cannot be read on. -/
def unread (s : State) (m : Mistake) : State :=
  if s.isExtended then
    let front := s.origin ++ ": ".toList ++ s.extension.label.elim [] (· ++ ": ".toList) ++ "line ".toList
    let told := fun (s : State) (line, text) =>
      s.complain (front ++ Bytes.ofNat line ++ ": ".toList ++ String.toList text)
    (((m.line, m.wording) :: m.more).foldl told s).done 2
  else { s with line := m.line }.breaking ("Syntax error: ".toList ++ m.wording.toList)

/-- The state after warnings about texts that were not ended by what should end them. -/
def warned (s : State) (source : Source) : State :=
  (if s.isExtended then source.unended.reverse else []).foldl
    (fun s (line, first, last) =>
      s.complain (s.label ++ Bytes.ofNat line ++ ": warning: here-document at line ".toList ++
        Bytes.ofNat first ++ " delimited by end-of-file (wanted \x60".toList ++ last ++ "')".toList))
    s

/-- The state after an assignment in braces to what is called so. -/
def assignHere (s : State) (name value : Bytes) : State :=
  if !s.isExtended then s.assignChecked name value
  else
    match Declaration.argument? name with
    | some (name, key, .none) => s.give name key false value
    | _ => s.breaking ('$' :: name ++ ": cannot assign in this way".toList)

/-- The complaint about a variable that is not there where braces ask for it. -/
def missingWording (s : State) (colon : Bool) : Bytes :=
  (if !s.isExtended then "parameter not set" ++ if colon then " or null" else ""
    else if colon then "parameter null or not set"
    else "parameter not set").toList

/-- The state that commands begin in whose output is put into a word. -/
def substituting (s : State) : State :=
  if !s.isExtended then s
  else
    let options := if Extended.isSet s "inherit_errexit" then s.options else s.options.filter (· != 'e')
    { s with options, extension := { s.extension with texts := s.extension.texts + 1, base := s.line - 1 } }

/-- The text that a function is defined in. -/
def definingOrigin (s : State) : Bytes :=
  (s.extension.frames.head?.map Frame.origin).getD
    (if s.has 'c' then "environment".toList else if s.has 's' then "main".toList else s.name)

/-- The state after a pipeline whose commands had these statuses. -/
def afterStages (s : State) (statuses : List Nat) : State :=
  if !s.isExtended then s
  else
    let status := if s.has '|' then (statuses.reverse.find? (· != 0)).getD 0 else s.status
    { s with status, extension := { s.extension with statuses } }

/-- The state after a command with its last word. -/
def withLastWord (s : State) (lastWord : Bytes) : State :=
  if s.isExtended then { s with extension := { s.extension with lastWord } } else s

/-- The state in which a function runs, or a script that another one reads. -/
def withFrame (s : State) (name origin : Bytes) : State :=
  if !s.isExtended then s
  else
    { s with extension := { s.extension with
        frames := ⟨name, origin, s.line⟩ :: s.extension.frames, base := 0 } }

/-- The state behind a function, or a script that another one reads. -/
def withFramesOf (s old : State) : State :=
  if !s.isExtended then s
  else
    { s with line := old.line, extension := { s.extension with
        frames := old.extension.frames, base := old.extension.base } }

/-- A word of a command as a trace shows it. -/
def tracedWord (word : Bytes) : Bytes :=
  if word.contains '\x00' then
    let front := word.takeWhile (· != '\x00')
    let items := (Declaration.unpacked (Text.splitOn '\x00' (word.drop (front.length + 1)))).map
      fun (_, _, value) => Quoting.traced value
    front ++ '(' :: Bytes.joined items ++ [')']
  else Quoting.traced word

/-- The text of a script that another one reads, or the complaint about it. -/
def sourced (s : State) (file : Bytes) : Except Bytes Bytes :=
  let found := if file.contains '/' then none
    else (Program.places s.searchPath file.text).find? fun p => (s.lookup p).toOption.any (!·.isDirectory)
  match s.readFile (found.getD file.path) with
  | .ok text => .ok text
  | .error fault =>
    let front := s.label ++ Bytes.ofNat s.line ++ ": ".toList
    if fault == .isDirectory then
      .error (front ++ s.speaker.elim [] (· ++ ": ".toList) ++ file ++ ": is a directory".toList)
    else .error (front ++ file ++ ": ".toList ++ fault.wording.toList)

/-- The place of a program. -/
def placeOf (s : State) (name : Bytes) : Bytes :=
  if name.contains '/' then name
  else (Program.search? s.lookup s.searchPath name.text).elim name fun p => Bytes.ofText p.text

end State

/-- How often a function may be inside another one. -/
def maxDepth : Nat :=
  1000

/-- The time, in milliseconds, from which on nothing is looked at any more. -/
def horizon : Nat :=
  120000

/-- The utilities that print only when they have read all. -/
def gatherers : List String :=
  ["wc", "sort", "tac", "tail", "shuf", "tsort", "sum", "cksum", "md5sum", "sha1sum", "sha224sum", "sha256sum",
    "sha384sum", "sha512sum"]

/-- A time as minutes and seconds, or in short as seconds. -/
def shownTime (short : Bool) (name : String) (milliseconds : Nat) : Bytes :=
  let fraction := fun (digits n : Nat) =>
    let text := Bytes.ofNat n
    List.replicate (digits - text.length) '0' ++ text
  let text := if short then
      ' ' :: Bytes.ofNat (milliseconds / 1000) ++ '.' :: fraction 2 (milliseconds % 1000 / 10)
    else
      '\t' :: Bytes.ofNat (milliseconds / 60000) ++ 'm' :: Bytes.ofNat (milliseconds / 1000 % 60) ++ '.' ::
        fraction 3 (milliseconds % 1000) ++ ['s']
  name.toList ++ text ++ ['\n']

/-- What is told of the time that a command took. -/
def shownTimes (short : Bool) (milliseconds : Nat) : Bytes :=
  (if short then [] else ['\n']) ++ shownTime short "real" milliseconds ++ shownTime short "user" 0 ++
    shownTime short "sys" 0

/-- How a shell of the extended dialect is started. -/
def shellUsage : String :=
  "Usage:\tbash [GNU long option] [option] ...\n\tbash [GNU long option] [option] script-file ...\n" ++
    "GNU long options:\n\t--debug\n\t--debugger\n\t--dump-po-strings\n\t--dump-strings\n\t--help\n" ++
    "\t--init-file\n\t--login\n\t--noediting\n\t--noprofile\n\t--norc\n\t--posix\n\t--pretty-print\n" ++
    "\t--rcfile\n\t--restricted\n\t--verbose\n\t--version\nShell options:\n" ++
    "\t-ilrsD or -c command or -O shopt_option\t\t(invocation only)\n" ++
    "\t-abefhkmnptuvxBCEHPT or -o option"

mutual

/-- The pieces of a part of a word; `apart` tells that they are taken apart to fields. -/
def expand : Nat → Bool → Part → State → List Piece × State
  | 0, _, _, s => ([], s.going .endless)
  | fuel + 1, apart, part, s =>
    match part with
    | .text bytes quoted => ([.whole bytes quoted], s)
    | .senseless => ([], s.breaking "Bad substitution".toList)
    | .place _ | .items _ => ([], s)
    | .home sign => ([.whole (s.homeOf sign) true], s)
    | .variable name quoted =>
      if name == ['@'] then
        if s.isExtended && !apart then ([.whole (Bytes.joined s.args) true], s)
        else ([if quoted then .each s.args else .spread s.args], s)
      else if name == ['*'] && !quoted then ([.spread s.args], s)
      else
        match s.known? name with
        | some value => ([State.piece value quoted], s)
        | none =>
          if s.has 'u' && name != ['*'] then ([], s.missing name)
          else (if quoted then [.whole [] true] else [], s)
    | .length name quoted =>
      if s.isExtended && (name == ['@'] || name == ['*']) then
        ([State.piece (Bytes.ofNat s.args.length) quoted], s)
      else
        match s.known? name with
        | some value => ([State.piece (Bytes.ofNat (s.lengthOf value)) quoted], s)
        | none =>
          if s.has 'u' && name != ['@'] && name != ['*'] then ([], s.missing name)
          else ([State.piece ['0'] quoted], s)
    | .choice name kind colon word quoted =>
      let value := s.known? name
      let present := if colon then value.filter (!·.isEmpty) else value
      let here := expand fuel apart (.variable name quoted)
      let chosen := fun (s : State) =>
        let (pieces, s) := expandAll fuel apart word s
        (if quoted then pieces else pieces.map Piece.loosened, s)
      match kind, present with
      | .use, some _ | .assign, some _ | .refuse, some _ => here s
      | .replace, none => ([], s)
      | .replace, some _ | .use, none => chosen s
      | .assign, none =>
        let (bytes, s) := joined fuel word s
        if s.goesOn then ([State.piece bytes quoted], s.assignHere name bytes) else ([], s)
      | .refuse, none =>
        let (wording, s) := joined fuel word s
        let wording := if !word.isEmpty then wording else s.missingWording colon
        ([], if s.goesOn then s.breaking (name ++ ": ".toList ++ wording) else s)
    | .cut name kind pattern quoted =>
      match s.valueOf? name with
      | none =>
        if s.has 'u' && name != ['@'] && name != ['*'] then ([], s.missing name)
        else ([State.piece [] quoted], s)
      | some value =>
        let (pattern, s) := patternOf fuel pattern s
        if apart && (name == ['@'] || (name == ['*'] && !quoted)) then
          let args := Pattern.cutAll kind pattern s.args
          ([if quoted then .each args else .spread args], s)
        else ([State.piece (Pattern.cut kind pattern value) quoted], s)
    | .output commands quoted =>
      let (number, inner) := s.forked.openPipe
      let inner := finish fuel (captured fuel commands inner.substituting)
      let ended := s.reaped inner
      let time := ended.released inner.process (.pipe number)
      let (bytes, ended) := { ended with clock := time }.takePipe number
      let bytes := bytes.filter (· != '\x00')
      let status := if s.isExtended then inner.finalStatus else s.status
      ([State.piece (bytes.reverse.dropWhile (· == '\n')).reverse quoted],
        { ended with status, substituted := inner.finalStatus })
    | .number expression quoted =>
      let (text, s) := joined fuel expression s
      if !s.goesOn then ([], s)
      else if s.isExtended then
        match Calculation.value s text with
        | .ok (n, s) => ([State.piece (Bytes.ofInt n) quoted], s)
        | .error t => ([], s.miscalculated t)
      else
        match Arithmetic.value (fun name => (s.value? name).getD []) text with
        | .ok (n, assigned) =>
          let s := assigned.foldl
            (fun s (name, n) => if s.goesOn then s.assign name (Bytes.ofInt n) else s) s
          ([State.piece (Bytes.ofInt n) quoted], s)
        | .error trouble => ([], s.breaking (trouble.wording text))
    | .braced subject operation quoted => braced fuel apart subject operation quoted s
    | .fed isRead commands =>
      let n := s.lastDescriptor
      let place : Piece := .whole ("/dev/fd/".toList ++ Bytes.ofNat n) true
      let (number, inner) := s.forked.openPipe
      if isRead then
        let inner := finish fuel (run fuel false true commands inner.substituting)
        let isEndless := inner.flow == .endless
        let ended := s.after (if isEndless then inner.going .next else inner)
        let stop := if isEndless then never else ended.released inner.process (.pipe number)
        let (pieces, ended) := ended.takePieces number
        ([place], { ended with clock := s.clock }.attach n (.ofPieces s.clock pieces stop))
      else
        let opened := { s with
          opened := inner.opened, pipes := inner.pipes, readers := (number, commands) :: s.readers }
        ([place], opened.connect n (.to (.pipe number)))
termination_by structural n => n

/-- What is done in braces with values. -/
def braced : Nat → Bool → Subject → Operation → Bool → State → List Piece × State
  | 0, _, _, _, _, s => ([], s.going .endless)
  | fuel + 1, apart, .mk name key indirect, operation, quoted, s =>
    let shown := fun (e : Elements) (values : List Bytes) (s : State) =>
      (e.pieces s.separators apart quoted values, s)
    let listed := fun (values : List Bytes) =>
      shown ⟨name, values, true, (key matches .each), []⟩ values s
    match operation with
    | .unknown text => ([], s.dropping (text ++ ": bad substitution".toList))
    | .names => listed (s.namesWith name)
    | .keys => listed (s.keysOf name)
    | operation =>
      let (e, s) := elementsOf fuel name key indirect s
      let isChoice := match operation with
        | .choice .. | .transform .. => true
        | _ => false
      let isMissing := s.has 'u' && e.isUnset && !isChoice && (!e.isList || (operation matches .length)) &&
        name != ['@'] && name != ['*']
      if !s.goesOn then ([], s)
      else if isMissing then ([], s.missing e.name)
      else
        match operation with
        | .length =>
          let n := if e.isList then e.values.length else (e.values.map s.lengthOf).headD 0
          ([State.piece (Bytes.ofNat n) quoted], s)
        | .choice kind colon word =>
          let isPresent := if colon then !e.isBlank else !e.isUnset
          match kind, isPresent with
          | .use, true | .assign, true | .refuse, true => shown e e.values s
          | .replace, false => ([], s)
          | .replace, true | .use, false =>
            let (pieces, s) := expandAll fuel apart word s
            (if quoted then pieces else pieces.map Piece.loosened, s)
          | .assign, false =>
            let (bytes, s) := joined fuel word s
            if s.goesOn then ([State.piece bytes quoted], s.assignHere e.name bytes) else ([], s)
          | .refuse, false =>
            let (wording, s) := joined fuel word s
            let wording := if !word.isEmpty then wording else s.missingWording colon
            ([], if s.goesOn then s.breaking (e.name ++ ": ".toList ++ wording) else s)
        | .cut kind pattern =>
          let (m, s) := matcherOf fuel pattern s
          shown e (e.mapWide (m.cut kind)) s
        | .replace scope pattern word =>
          let (m, s) := matcherOf fuel pattern s
          let (pieces, s) := expandAll fuel false word s
          let r := replacement (pieces.map (Piece.marked s.separators))
          shown e (e.mapWide ({ m with anyCase := Asking.isLoose s }.replace scope r)) s
        | .recase kind all pattern =>
          let (m, s) := matcherOf fuel pattern s
          shown e (e.mapWide (m.recase kind all)) s
        | .slice start count =>
          let (_, first, s) := calculated fuel start s
          let (text, second, s) := match count with
            | some count =>
              let (text, n, s) := calculated fuel count s
              (text, n.map some, s)
            | none => ([], .ok none, s)
          if !s.goesOn then ([], s)
          else
            match first, second with
            | .ok first, .ok second =>
              match e.sliced s.name first second with
              | some values => shown e values s
              | none => ([], s.dropping (text ++ ": substring expression < 0".toList))
            | .error t, _ | _, .error t => ([], s.dropping (e.name ++ ": ".toList ++ t.wording))
        | .transform letter => shown e (e.transformed s name letter) s
        | _ => shown e e.values s
termination_by structural n => n

/-- What a subject means: a variable, elements of a list, or what the variable names. -/
def elementsOf : Nat → Bytes → Key → Bool → State → Elements × State
  | 0, _, _, _, s => (default, s.going .endless)
  | fuel + 1, name, key, indirect, s =>
    if indirect then
      if (key matches .none) && (s.traitsOf name).contains 'n' then (.single name (s.vars.lookup name), s)
      else
        let (e, s) := elementsOf fuel name key false s
        match e.values.head? with
        | none => (e, if s.goesOn then s.dropping (e.name ++ ": invalid indirect expansion".toList) else s)
        | some text =>
          match Subject.named? text with
          | some (name, key) => elementsOf fuel name key false s
          | none => (e, s.dropping (text ++ ": invalid variable name".toList))
    else
      match key with
      | .none => (s.named name, s)
      | .each => (s.allOf name true, s)
      | .joined => (s.allOf name false, s)
      | .one word =>
        let (text, s) := joined fuel word s
        if s.goesOn then s.elementOf name text else (default, s)
termination_by structural n => n

/-- The pieces of a word. -/
def expandAll : Nat → Bool → Word → State → List Piece × State
  | 0, _, _, s => ([], s.going .endless)
  | _, _, [], s => ([], s)
  | fuel + 1, apart, part :: rest, s =>
    let (here, s) := expand fuel apart part s
    if s.goesOn then
      let (more, s) := expandAll fuel apart rest s
      (here ++ more, s)
    else ([], s)
termination_by structural n => n

/-- The bytes of a word that is not split. -/
def joined : Nat → Word → State → Bytes × State
  | 0, _, s => ([], s.going .endless)
  | fuel + 1, word, s =>
    let (pieces, s) := expandAll fuel false word s
    (pieces.flatMap (Piece.bytes s.separators), s)
termination_by structural n => n

/-- The text of a calculation, and its value. -/
def calculated : Nat → Word → State → Bytes × Except Calculation.Trouble Int × State
  | 0, _, s => ([], .ok 0, s.going .endless)
  | fuel + 1, word, s =>
    let (text, s) := joined fuel word s
    if !s.goesOn then (text, .ok 0, s)
    else
      match Calculation.value s text with
      | .ok (n, s) => (text, .ok n, s)
      | .error t => (text, .error t, s)
termination_by structural n => n

/-- The value of a calculation that is a command, which is one where nothing stands. -/
def commanded : Nat → Word → State → Int × State
  | 0, _, s => (0, s.going .endless)
  | fuel + 1, word, s =>
    let (text, value, s) := calculated fuel word s
    let s := if s.has 'x' && s.goesOn && !text.isEmpty then
        trace fuel ("(( ".toList ++ text ++ " ))".toList) s s
      else s
    match value with
    | .ok n => (if text.isEmpty then 1 else n, s)
    | .error (.unset name) => (0, s.breaking (name ++ ": unbound variable".toList))
    | .error t => (0, (s.object ("((: ".toList ++ t.wording)).done 2)
termination_by structural n => n

/-- The pattern that a word is. -/
def patternOf : Nat → Word → State → List Pattern × State
  | 0, _, s => ([], s.going .endless)
  | fuel + 1, word, s =>
    let (pieces, s) := expandAll fuel false word s
    (Pattern.ofPieces (pieces.map (Piece.marked s.separators)), s)
termination_by structural n => n

/-- The pattern that a word is in the extended dialect. -/
def matcherOf : Nat → Word → State → GlobMatcher × State
  | 0, _, s => (⟨[], false⟩, s.going .endless)
  | fuel + 1, word, s =>
    let (pieces, s) := expandAll fuel false word s
    (⟨Glob.ofPieces (Extended.isSet s "extglob") (pieces.map (Piece.marked s.separators)), false⟩, s)
termination_by structural n => n

/-- The fields of words, with the names of files that they match in the place of patterns. -/
def fieldsOf : Nat → List Word → State → List Bytes × State
  | 0, _, s => ([], s.going .endless)
  | fuel + 1, words, s =>
    if s.isExtended && s.has 'B' then fieldsOfEach fuel (words.flatMap Braces.words) s
    else fieldsOfEach fuel words s
termination_by structural n => n

/-- The fields of words in which braces stand for themselves. -/
def fieldsOfEach : Nat → List Word → State → List Bytes × State
  | 0, _, s => ([], s.going .endless)
  | _, [], s => ([], s)
  | fuel + 1, word :: rest, s =>
    let (here, s) := fieldsOfOne fuel word s
    if s.goesOn then
      let (more, s) := fieldsOfEach fuel rest s
      (here ++ more, s)
    else ([], s)
termination_by structural n => n

/-- The fields of a word in which braces stand for themselves. -/
def fieldsOfOne : Nat → Word → State → List Bytes × State
  | 0, _, s => ([], s.going .endless)
  | fuel + 1, word, s =>
    match word with
    | .place (.mk name key adds) :: value =>
      let (front, s) := placeText fuel name key adds s
      match value with
      | [.items items] =>
        let (items, s) := itemsOf fuel items s
        ([front ++ Declaration.packed items], s)
      | value =>
        let (value, s) := joined fuel value s
        ([front ++ value], s)
    | word =>
      let (pieces, s) := expandAll fuel true word s
      if !s.goesOn then ([], s)
      else
        let fields := Piece.fields s.separators false none pieces
        if s.isExtended then s.globbed fields
        else if s.has 'f' || !fields.any Field.isPattern then (fields.map Field.bytes, s)
        else (fields.flatMap (Field.paths (s.copied true)), s)
termination_by structural n => n

/-- The text of what is assigned to, with the sign behind it. -/
def placeText : Nat → Bytes → Option Word → Bool → State → Bytes × State
  | 0, _, _, _, s => ([], s.going .endless)
  | fuel + 1, name, key, adds, s =>
    let sign := if adds then ['+', '='] else ['=']
    match key with
    | none => (name ++ sign, s)
    | some word =>
      let (key, s) := joined fuel word s
      (name ++ '[' :: key ++ ']' :: sign, s)
termination_by structural n => n

/-- The items that are assigned to a list. -/
def itemsOf : Nat → List (Option Word × Bool × Word) → State → List State.Item × State
  | 0, _, s => ([], s.going .endless)
  | _, [], s => ([], s)
  | fuel + 1, (key, adds, word) :: rest, s =>
    let (here, s) := match key with
      | none =>
        let (fields, s) := fieldsOf fuel [word] s
        (fields.map fun value => (none, false, value), s)
      | some key =>
        let (key, s) := joined fuel key s
        let (value, s) := joined fuel word s
        ([(some key, adds, value)], s)
    if s.goesOn then
      let (more, s) := itemsOf fuel rest s
      (here ++ more, s)
    else ([], s)
termination_by structural n => n

/-- The state after an assignment, and its text. -/
def assignOne : Nat → Place → Word → State → Bytes × State
  | 0, _, _, s => ([], s.going .endless)
  | fuel + 1, .mk name key adds, word, s =>
    if !s.isExtended then
      let (value, s) := joined fuel word s
      (name ++ '=' :: value, if s.goesOn then s.assign name value else s)
    else
      let sign := if adds then ['+', '='] else ['=']
      let (key, s) := match key with
        | some word =>
          let (key, s) := joined fuel word s
          (some key, s)
        | none => (none, s)
      let front := name ++ key.elim [] (fun key => '[' :: key ++ [']']) ++ sign
      match word with
      | [.items items] =>
        let (items, s) := itemsOf fuel items s
        let shown := items.map fun (key, _, value) =>
          key.elim [] (fun key => '[' :: key ++ "]=".toList) ++ Quoting.traced value
        (front ++ '(' :: Bytes.joined shown ++ [')'], if s.goesOn then s.giveAll name adds items else s)
      | word =>
        let (value, s) := joined fuel word s
        (front ++ (if value.isEmpty then [] else Quoting.traced value),
          if s.goesOn then s.give name key adds value else s)
termination_by structural n => n

/-- The state after assignments, and their texts.  One that cannot be made for a single command does not
keep that from being run in the extended dialect. -/
def assignAll : Nat → Bool → List (Place × Word) → State → List Bytes × State
  | 0, _, _, s => ([], s.going .endless)
  | _, _, [], s => ([], s)
  | fuel + 1, brief, (place, word) :: rest, s =>
    let (text, s) := assignOne fuel place word s
    let s := if brief && s.flow == .dropped then s.going .next else s
    if s.goesOn then
      let (more, s) := assignAll fuel brief rest s
      (text :: more, s)
    else ([], s)
termination_by structural n => n

/-- The state with redirections made, and whether all could be. -/
def redirect : Nat → List Redirect → State → Bool × State
  | 0, _, s => (true, s.going .endless)
  | _, [], s => (true, s)
  | fuel + 1, .named name change :: rest, s =>
    match change with
    | .copy [.text ['-'] false] =>
      redirect fuel rest (s.disconnect (((s.value? name).bind Bytes.natural?).getD 0))
    | change =>
      let n := s.freeDescriptor 10
      let (ok, s) := redirect fuel [.mk n change] s
      if ok && s.goesOn then redirect fuel rest (s.give name none false (Bytes.ofNat n)) else (ok, s)
  | fuel + 1, .mk n change :: rest, s =>
    let refused := fun (s : State) (text : Bytes) =>
      (false, (s.object text).done (if s.isExtended then 1 else 2))
    match change with
    | .here text =>
      let (bytes, s) := joined fuel text s
      if s.goesOn then redirect fuel rest (s.feed n bytes) else (true, s)
    | .line word =>
      let (bytes, s) := joined fuel word s
      if s.goesOn then redirect fuel rest (s.feed n (bytes ++ ['\n'])) else (true, s)
    | .copy word =>
      let (source, s) := joined fuel word s
      if !s.goesOn then (true, s)
      else if source == ['-'] then redirect fuel rest (s.disconnect n)
      else if s.isExtended then
        let moves := source.getLast? == some '-'
        let digits := if moves then source.dropLast else source
        match Bytes.natural? digits with
        | some from_ =>
          match s.descriptors.lookup from_ with
          | some sink =>
            let s := s.connect n sink
            redirect fuel rest (if moves && from_ != n then s.disconnect from_ else s)
          | none => refused s (Bytes.ofNat from_ ++ ": Bad file descriptor".toList)
        | none =>
          if n == 1 && !source.isEmpty then redirect fuel (.mk 1 (.writeAll [.text source true]) :: rest) s
          else refused s (Wording.word Wording.depth word ++ ": ambiguous redirect".toList)
      else
        match source with
        | [c] =>
          if !c.isDigit then (true, s.breaking "Syntax error: Bad fd number".toList)
          else
            match s.descriptors.lookup (c.toNat - '0'.toNat) with
            | some sink => redirect fuel rest (s.connect n sink)
            | none => refused s (c :: ": Bad file descriptor".toList)
        | _ => (true, s.breaking "Syntax error: Bad fd number".toList)
    | .read word | .write word | .replace word | .append word | .both word | .writeAll word
    | .appendAll word =>
      let (files, s) := if s.isExtended then fieldsOf fuel [Word.withHome word] s
        else
          let (file, s) := joined fuel word s
          ([file], s)
      if !s.goesOn then (true, s)
      else
        match files with
        | [file] =>
          match Opening.opened s n file change with
          | .ok s => redirect fuel rest s
          | .error text => refused s text
        | _ => refused s (Wording.word Wording.depth word ++ ": ambiguous redirect".toList)
termination_by structural n => n

/-- Runs commands whose output is put into a word.  A file alone in the extended dialect stands for its
content. -/
def captured : Nat → Command → State → State
  | 0, _, s => s.going .endless
  | fuel + 1, c, s =>
    match c with
    | .simple line [] [] [.mk 0 (.read word)] =>
      if s.isExtended then
        let (ok, s) := redirect fuel [.mk 0 (.read word)] (s.onLine line)
        if ok && s.goesOn then (s.say s.input).done 0 else s
      else run fuel false true c s
    | c => run fuel false true c s
termination_by structural n => n

/-- Runs a command, and what is to be run on the signals that have come. -/
def run : Nat → Bool → Bool → Command → State → State
  | 0, _, _, _, s => s.going .endless
  | fuel + 1, guarded, last, c, s =>
    if s.isStopped || horizon ≤ s.clock then s.going .endless
    else if !s.goesOn || s.has 'n' then s
    else
      let s := perform fuel guarded last c s
      if s.pending.isEmpty then s else deliver fuel s
termination_by structural n => n

/-- Runs what is to be run on an event of the extended dialect, and keeps the status. -/
def event : Nat → Nat → Char → String → State → State
  | 0, _, _, _, s => s.going .endless
  | fuel + 1, number, letter, label, s =>
    match (if s.goesOn then s.traps.lookup number else none) with
    | none | some [] => s
    | some action =>
      if 0 < s.depth && !s.has letter then s
      else
        let ended := script fuel true true (s.source s.commandLine action)
          ((s.withoutTrap number).inside (some label.toList))
        let ended := { ended.outsideLike s with traps := s.traps, line := s.line }
        if ended.goesOn then ended.done s.status else ended
termination_by structural n => n

/-- What follows a command that may have failed: an event, and perhaps the end of the shell. -/
def weighed : Nat → Bool → State → State
  | 0, _, s => s.going .endless
  | fuel + 1, guarded, s =>
    if guarded || s.status == 0 || !s.goesOn then s
    else (if s.isExtended then event fuel 66 'E' "error trap" s else s).checked guarded
termination_by structural n => n

/-- The state outside of the redirections of a command, after what reads from it. -/
def outside : Nat → State → State → State
  | 0, _, s => s.going .endless
  | fuel + 1, old, s =>
    let s := s.withDescriptorsOf old
    if s.readers.length ≤ old.readers.length then s else consume fuel old.readers.length s
termination_by structural n => n

/-- Runs the commands that read what was printed to their pipes, but for the oldest ones. -/
def consume : Nat → Nat → State → State
  | 0, _, s => s.going .endless
  | fuel + 1, kept, s =>
    match (if s.readers.length ≤ kept then [] else s.readers) with
    | [] => s
    | (number, c) :: readers =>
      let (bytes, s) := { s with readers }.takePipe number
      let inner := finish fuel (run fuel false true c ((s.going .next).forked.feed 0 bytes))
      consume fuel kept (s.after inner)
termination_by structural n => n

/-- Runs a command. -/
def perform : Nat → Bool → Bool → Command → State → State
  | 0, _, _, _, s => s.going .endless
  | fuel + 1, guarded, last, c, s =>
    match c with
    | .skip => s
    | .simple line assigned words redirects =>
      let s := (s.onLine line).starting c
      let s := if s.isExtended then event fuel 65 'T' "debug trap" s else s
      if s.goesOn then weighed fuel guarded (simple fuel guarded last assigned words redirects s).alone else s
    | .pipeline commands =>
      weighed fuel guarded (pipeline fuel (Stage.firstExtent < s.extent) commands
        (Stage.unknown commands.length) Stage.rounds s)
    | .not c =>
      let s := run fuel true false c s
      if s.goesOn then s.done (if s.status == 0 then 1 else 0) else s
    | .and a b =>
      let s := run fuel true false a s
      if s.goesOn && s.status == 0 then run fuel guarded last b s else s
    | .or a b =>
      let s := run fuel true false a s
      if s.goesOn && s.status != 0 then run fuel guarded last b s else s
    | .sequence a b => run fuel guarded last b (run fuel guarded false a s)
    | .background c =>
      let unheard := Signal.unheard.map fun signal => (signal, [])
      let inner := s.forked.feed 0 []
      let inner := { inner with
        clock := inner.clock + State.startingTime
        traps := unheard ++ inner.traps.filter fun t => !Signal.unheard.contains t.1 }
      let inner := finish fuel (run fuel false true c inner)
      let inner := if inner.flow == .endless then { inner.going .next with clock := never }
        else inner
      ({ s.after inner with clock := s.clock }.withJob inner (if s.isExtended then Wording.brief c else [])).settled.done 0
    | .group line c redirects =>
      let (ok, inner) := redirect fuel redirects (s.onLine line)
      if !inner.goesOn then inner.withDescriptorsOf s
      else if ok then outside fuel s (run fuel guarded false c inner)
      else weighed fuel guarded (inner.withDescriptorsOf s)
    | .subshell line c redirects =>
      if last && !s.hasTraps then
        let (ok, inner) := redirect fuel redirects { s.onLine line with jobs := [] }
        if ok then run fuel guarded true c inner else inner
      else
        let (ok, inner) := redirect fuel redirects (s.forked.onLine line)
        let inner := if ok then run fuel guarded true c inner else inner
        weighed fuel guarded (s.reaped (finish fuel inner)).alone
    | .branch test yes no =>
      let s := run fuel true false test s
      if !s.goesOn then s
      else if s.status == 0 then run fuel guarded last yes s
      else
        match no with
        | .skip => s.done 0
        | no => run fuel guarded last no s
    | .loop goal test body =>
      (rounds fuel guarded goal test body 0 { s with loops := s.loops + 1 }).outOfLoop s
    | .each line name words body =>
      let (values, s) := match words with
        | some words => fieldsOf fuel words (s.onLine line)
        | none => (s.args, (s.onLine line))
      if !s.goesOn then s
      else if s.isExtended && !Bytes.isName name then
        (s.object ("\x60".toList ++ name ++ "': not a valid identifier".toList)).done 1
      else if values.isEmpty then s.done 0
      else
        let told := if s.has 'x' then (words.getD [[.variable ['@'] true]]).map (Wording.word Wording.depth) else []
        let shown := "for ".toList ++ name ++ " in ".toList ++ Bytes.joined told
        (overValues fuel guarded line shown name values body { s with loops := s.loops + 1 }).outOfLoop s
    | .cases line word arms =>
      let (value, s) := joined fuel word (s.onLine line)
      let s := if s.goesOn && s.isExtended && s.has 'x' then
          trace fuel ("case ".toList ++ Wording.word Wording.depth word ++ " in".toList) s s
        else s
      if s.goesOn then firstArm fuel guarded last false value arms s else s
    | .define line name body =>
      let functions := s.functions.filter (·.1 != name)
      if s.fixed.contains (Declaration.functionMark name) then
        ((s.onLine line).object (name ++ ": readonly function".toList)).done 1
      else
      { s with functions := (name, ⟨line, body, s.definingOrigin⟩) :: functions }.done 0
    | .calculate line expression =>
      let s := event fuel 65 'T' "debug trap" ((s.onLine line).starting c)
      let (n, s) := commanded fuel expression s
      if s.goesOn then weighed fuel guarded (s.done (if n == 0 then 1 else 0)).alone else s
    | .test line condition =>
      let s := event fuel 65 'T' "debug trap" ((s.onLine line).starting c)
      let (status, s) := asked fuel false condition s
      if s.goesOn then weighed fuel guarded (s.done status).alone else s
    | .count line start goal step body =>
      let (_, s) := commanded fuel start ((s.done 0).onLine line)
      if !s.goesOn then s
      else if s.status == 2 then s.done 1
      else
        (counted fuel guarded line goal step body { s.done 0 with loops := s.loops + 1 }).outOfLoop s
    | .choose line name words body =>
      let (values, s) := match words with
        | some words => fieldsOf fuel words (s.onLine line)
        | none => (s.args, (s.onLine line))
      if !s.goesOn then s
      else if values.isEmpty then s.done 0
      else
        let told := if s.has 'x' then (words.getD [[.variable ['@'] true]]).map (Wording.word Wording.depth) else []
        let s := if s.has 'x' then
            trace fuel ("select ".toList ++ name ++ " in ".toList ++ Bytes.joined told) s s
          else s
        (chosen fuel guarded name values body true { s with loops := s.loops + 1 }).outOfLoop s
    | .timed short c =>
      let ended := run fuel guarded false c s
      ended.print 2 (shownTimes short (ended.clock - s.clock))
termination_by structural n => n

/-- The status of a condition; `turned` tells that it is asked for the opposite. -/
def asked : Nat → Bool → Condition → State → Nat × State
  | 0, _, _, s => (1, s.going .endless)
  | fuel + 1, turned, c, s =>
    let traced := fun (text : Bytes) (s : State) =>
      if s.has 'x' then
        trace fuel ("[[ ".toList ++ (if turned then "! ".toList else []) ++ text ++ " ]]".toList) s s
      else s
    match c with
    | .not c =>
      let (status, s) := asked fuel (!turned) c s
      (if status == 0 then 1 else 0, s)
    | .and a b =>
      let (status, s) := asked fuel turned a s
      if status == 0 && s.goesOn then asked fuel turned b s else (status, s)
    | .or a b =>
      let (status, s) := asked fuel turned a s
      if status != 0 && s.goesOn then asked fuel turned b s else (status, s)
    | .ask operator word =>
      let (arg, s) := joined fuel word s
      if !s.goesOn then (1, s)
      else
        let s := traced (operator ++ ' ' :: Asking.shownOperand arg) s
        (Asking.judged s [operator, arg], s)
    | .compare a operator b =>
      let (left, s) := joined fuel a s
      let (pieces, s) := if s.goesOn then expandAll fuel false b s else ([], s)
      if !s.goesOn then (1, s)
      else
        let marked := pieces.map (Piece.marked s.separators)
        let right := marked.flatMap Prod.fst
        let isPattern := ["=", "==", "!=", "=~"].contains (String.ofList operator)
        let s := traced (Asking.shownOperand left ++ ' ' :: operator ++ ' ' ::
          Asking.shownOperand (if isPattern then Asking.shownPattern marked else right)) s
        if Asking.isOfNumbers operator then Asking.compared s left operator right
        else
          match String.ofList operator with
          | "=~" => Asking.searched s left (Asking.expressionOf marked)
          | "=" | "==" | "!=" =>
            let m : GlobMatcher := ⟨Glob.ofPieces true marked, Asking.isLoose s⟩
            (Asking.statusOf (m.accepts (Wide.ofBytes left) == (operator != "!=".toList)), s)
          | "<" => (Asking.statusOf (Bytes.isBefore left right), s)
          | ">" => (Asking.statusOf (Bytes.isBefore right left), s)
          | _ => (Asking.judged s [left, operator, right], s)
termination_by structural n => n

/-- Runs the rounds of a loop; `status` is that of the round before. -/
def rounds : Nat → Bool → Bool → Command → Command → Nat → State → State
  | 0, _, _, _, _, _, s => s.going .endless
  | fuel + 1, guarded, goal, test, body, status, s =>
    let tested := run fuel true false test s
    match tested.flow with
    | .next =>
      if (tested.status == 0) != goal then tested.done status
      else
        let (s, more) := (run fuel guarded false body tested).afterRound
        if more then rounds fuel guarded goal test body s.status s else s
    | .leave _ | .again _ =>
      let (s, more) := tested.afterRound
      if more then rounds fuel guarded goal test body status s else s.done status
    | _ => tested
termination_by structural n => n

/-- Runs the rounds of a loop between calculations. -/
def counted : Nat → Bool → Nat → Word → Word → Command → State → State
  | 0, _, _, _, _, _, s => s.going .endless
  | fuel + 1, guarded, line, goal, step, body, s =>
    let status := s.status
    let (n, s) := commanded fuel goal ((s.done 0).onLine line)
    if !s.goesOn then s
    else if s.status == 2 then s.done 1
    else if n == 0 then s.done status
    else
      let (s, more) := (run fuel guarded false body (s.done status)).afterRound
      if !more then s
      else
        let status := s.status
        let (_, s) := commanded fuel step ((s.done 0).onLine line)
        if !s.goesOn then s
        else if s.status == 2 then s.done 1
        else counted fuel guarded line goal step body (s.done status)
termination_by structural n => n

/-- Runs a body for each value. -/
def overValues : Nat → Bool → Nat → Bytes → Bytes → List Bytes → Command → State → State
  | 0, _, _, _, _, _, _, s => s.going .endless
  | _, _, _, _, _, [], _, s => s
  | fuel + 1, guarded, line, shown, name, value :: rest, body, s =>
    let s := if s.isExtended then
        let s := event fuel 65 'T' "debug trap" (s.onLine line)
        let s := if s.has 'x' && s.goesOn then trace fuel shown s s else s
        if s.goesOn then s.give name none false value else s
      else s.assign name value
    if s.flow == .dropped then (s.going .next).done 1
    else if !s.goesOn then s
    else
      let (s, more) := (run fuel guarded false body s).afterRound
      if more then overValues fuel guarded line shown name rest body s else s
termination_by structural n => n

/-- Runs a body for each word that is chosen from a list. -/
def chosen : Nat → Bool → Bytes → List Bytes → Command → Bool → State → State
  | 0, _, _, _, _, _, s => s.going .endless
  | fuel + 1, guarded, name, words, body, isShown, s =>
    let prompt := (s.value? "PS3".toList).getD "#? ".toList
    let s := (if isShown then s.print 2 (Menu.shown words) else s).print 2 prompt
    let s := Extended.readLine [] s
    let reply := (s.value? "REPLY".toList).getD []
    if !s.goesOn then s
    else if s.status != 0 then (s.say ['\n']).done 1
    else if reply.isEmpty then chosen fuel guarded name words body true s
    else
      let word := match reply.natural? with
        | some (n + 1) => (words[n]?).getD []
        | _ => []
      let s := s.give name none false word
      if !s.goesOn then s
      else
        let (s, more) := (run fuel guarded false body s).afterRound
        let isBlank := ((s.value? "REPLY".toList).getD []).isEmpty
        if more then chosen fuel guarded name words body isBlank s else s
termination_by structural n => n

/-- Runs the first arm of which a pattern accepts a value.  `ran` tells that another one has been run. -/
def firstArm : Nat → Bool → Bool → Bool → Bytes → List (List Word × Command × ArmEnd) → State → State
  | 0, _, _, _, _, _, s => s.going .endless
  | _, _, _, ran, _, [], s => if ran then s else s.done 0
  | fuel + 1, guarded, last, ran, value, (patterns, body, ending) :: rest, s =>
    let (accepted, s) := acceptsOne fuel value patterns s
    if !s.goesOn then s
    else if accepted then armBody fuel guarded last value body ending rest s
    else firstArm fuel guarded last ran value rest s
termination_by structural n => n

/-- Runs the commands of an arm, and goes on as its end tells. -/
def armBody : Nat → Bool → Bool → Bytes → Command → ArmEnd → List (List Word × Command × ArmEnd) → State →
    State
  | 0, _, _, _, _, _, _, s => s.going .endless
  | fuel + 1, guarded, last, value, body, ending, rest, s =>
    let s := match body with
      | .skip => s.done 0
      | body => run fuel guarded (last && (ending matches .stop)) body s
    match ending, rest with
    | .fall, (_, body, ending) :: rest =>
      if s.goesOn then armBody fuel guarded last value body ending rest s else s
    | .retry, rest => if s.goesOn then firstArm fuel guarded last true value rest s else s
    | _, _ => s
termination_by structural n => n

/-- Whether a pattern accepts a value. -/
def acceptsOne : Nat → Bytes → List Word → State → Bool × State
  | 0, _, _, s => (false, s.going .endless)
  | _, _, [], s => (false, s)
  | fuel + 1, value, word :: rest, s =>
    let (accepted, s) := if s.isExtended then
        let (m, s) := matcherOf fuel word s
        ({ m with anyCase := Asking.isLoose s }.accepts (Wide.ofBytes value), s)
      else
        let (pattern, s) := patternOf fuel word s
        (Pattern.accepts pattern value, s)
    if s.goesOn && accepted then (true, s)
    else if s.goesOn then acceptsOne fuel value rest s
    else (false, s)
termination_by structural n => n

/-- Runs the commands of a pipeline.  `closings` tells what is known of the ends of those that read from
pipes, and `again` how often all may be followed again for that.  While it is `brief`, only the start of what
is printed to pipes is looked at. -/
def pipeline : Nat → Bool → List Command → List (Option (Nat × Nat)) → Nat → State → State
  | 0, _, _, _, _, s => s.going .endless
  | fuel + 1, brief, commands, closings, again, s =>
    let extent := Stage.extent (if brief then Stage.firstExtent else s.extent) closings
    let (known, last) := stages fuel brief commands closings [] (s.descriptors.lookup 0) { s with extent }
    let more := Stage.closings known closings
    if more != closings && 0 < again then pipeline fuel brief commands more (again - 1) s
    else
      let known := Stage.settled known
      let isEndless := known.any Stage.isEndless
      let isCut := known.dropLast.any Stage.isEndless
      if isCut && brief then
        pipeline fuel false commands (Stage.unknown commands.length) Stage.rounds s
      else
        let ends := Stage.ends known
        let last := { last with
          extent := s.extent, clock := (known.map Stage.stop).foldl max s.clock }
        if isEndless then last.going .endless
        else if !last.goesOn then last
        else ((ends.foldl (fun s e => State.mourn s e.2) last).settled).afterStages (ends.map Prod.fst)
termination_by structural n => n

/-- Runs the commands of a pipeline one after the other, each reading what the one before it has printed, and
gives what has become known of them.  `before` are those before, the last one first, and `input` is where the
next one reads. -/
def stages : Nat → Bool → List Command → List (Option (Nat × Nat)) → List Stage → Option Sink → State →
    List Stage × State
  | 0, _, _, _, before, _, s => (before.reverse, s.going .endless)
  | _, _, [], _, before, _, s => (before.reverse, s)
  | fuel + 1, brief, c :: rest, closings, before, input, s =>
    if rest.isEmpty && s.isExtended && Extended.isSet s "lastpipe" then
      let last := run fuel false false c (input.elim (s.disconnect 0) (s.connect 0))
      let stage := Stage.ofEnd last (last.takenOf before input) none
      ((stage :: before).reverse, last.withDescriptorsOf s)
    else
      let forked := if s.isExtended then { s.forked with jobs := s.jobs } else s.forked
      let inner := input.elim (forked.disconnect 0) (forked.connect 0)
      let (number, inner) := if rest.isEmpty then (0, inner)
        else inner.openPipeWithin (if brief then some s.extent else none) (closings.headD none)
      let inner := finish fuel (run fuel false true c inner)
      let pipe := if rest.isEmpty then none else inner.pipes.find? (·.number == number)
      let stage := Stage.ofEnd inner (inner.takenOf before input) pipe
      let after := s.after (if stage.isEndless then inner.going .next else inner)
      if rest.isEmpty then ((stage :: before).reverse, after.done stage.status)
      else
        let stop := if stage.isEndless then never else after.released inner.process (.pipe number)
        let (pieces, after) := after.takePieces number
        let source := after.opened
        let fed := { after with
          clock := s.clock, opened := source + 1
          sources := (source, .ofPieces s.clock pieces stop) :: after.sources }
        let (known, last) := stages fuel brief rest closings.tail (stage :: before) (some (.source source)) fed
        (known, { last with sources := last.sources.filter (·.1 != source) })
termination_by structural n => n

/-- Runs a simple command. -/
def simple : Nat → Bool → Bool → List (Place × Word) → List Word → List Redirect → State → State
  | 0, _, _, _, _, _, s => s.going .endless
  | fuel + 1, guarded, last, assigned, words, redirects, old =>
    let (fields, s) := fieldsOf fuel words { old with substituted := 0 }
    if !s.goesOn then s.withDescriptorsOf old
    else
      let called := Callee.ofWords s false s.searchPath (fields.length + 1) fields
      let last := last && !s.hasTraps
      let (ok, s) := redirect fuel redirects s
      let back := outside fuel old
      if !s.goesOn then back s
      else if !ok then back (if called.special then s.going .broken else s)
      else
        let before := s
        let (texts, s) := assignAll fuel (!called.words.isEmpty) assigned s
        if !s.goesOn then back s
        else
          let s := if old.has 'x' then traced fuel texts fields old s else s
          match called.words with
          | [] => (back (s.done s.substituted)).withLastWord []
          | name :: args =>
            let names := assigned.map fun (.mk name _ _, _) => name
            let stays := called.special
            let s := if stays && !(called.isReplacing && !args.isEmpty) then s
              else names.foldl State.export_ s
            let s := call fuel guarded last called name args s
            let s := if stays then s
              else names.foldl (fun s name => s.restore (before.shadow name)) s
            let s := s.withLastWord (fields.getLast?.getD [])
            if (called.isReplacing && args.isEmpty) || last then s else back s
termination_by structural n => n

/-- Prints a text as a trace of what is about to run. -/
def trace : Nat → Bytes → State → State → State
  | 0, _, _, s => s.going .endless
  | fuel + 1, text, old, s =>
    let (front, s) := joined fuel (Parser.textParts ((s.value? "PS4".toList).getD []))
      { s with options := s.options.filter (· != 'x') }
    let s := { s with options := old.options }
    let front := match front with
      | c :: rest => if s.isExtended then List.replicate (s.extension.texts + 1) c ++ rest else front
      | [] => []
    ((s.withDescriptorsOf old).complain (front ++ text)).withDescriptorsOf s
termination_by structural n => n

/-- Prints a command that is about to run, with what it assigns. -/
def traced : Nat → List Bytes → List Bytes → State → State → State
  | 0, _, _, _, s => s.going .endless
  | fuel + 1, assigned, fields, old, s =>
    if !s.isExtended then trace fuel (Bytes.joined (assigned ++ fields)) old s
    else
      match assigned with
      | text :: rest => traced fuel rest fields old (trace fuel text old s)
      | [] => if fields.isEmpty then s else trace fuel (Bytes.joined (fields.map State.tracedWord)) old s
termination_by structural n => n

/-- Calls a function, a command of the shell or a program. -/
def call : Nat → Bool → Bool → Callee → Bytes → List Bytes → State → State
  | 0, _, _, _, _, _, s => s.going .endless
  | fuel + 1, guarded, last, called, name, args, s =>
    match called.meaning with
    | .function =>
      match s.functions.lookup name with
      | some f => function fuel guarded name f args s
      | none => s
    | .special | .plain =>
      let ended := if s.isExtended then ownExtended fuel guarded name args { s with speaker := some name }
        else builtin fuel guarded name args { s with speaker := some name }
      let ended := match ended.unwritten with
        | some reason =>
          let status := if ended.status == 0 then 1 else ended.status
          let text := if s.isExtended then "write error: ".toList ++ reason.toList
            else name ++ ": I/O error".toList
          ({ ended with unwritten := none, speaker := some name }.object text).done status
        | none => ended
      let ended := { ended with speaker := s.speaker }
      let keeps := called.special || (s.isExtended && ["eval", ".", "source"].contains (String.ofList name))
      if ended.flow == .broken && !keeps then ended.going .next else ended
    | .program _ | .unknown => program fuel last called.searchPath name args s
termination_by structural n => n

/-- Runs a function. -/
def function : Nat → Bool → Bytes → Function → List Bytes → State → State
  | 0, _, _, _, _, s => s.going .endless
  | fuel + 1, guarded, name, f, args, s =>
    if maxDepth ≤ s.depth then
      if s.isExtended then s.dying 11
      else
        s.breaking ("Maximum function recursion depth (".toList ++ Bytes.ofNat maxDepth ++
          ") reached".toList)
    else
      let inner := s.withFrame name f.origin
      let inner := run fuel guarded false f.body
        { inner with args, outer := some [], loops := 0, depth := s.depth + 1 }
      let inner := Builtin.unshadowed inner (inner.outer.getD [])
      let inner := if s.isExtended && inner.has 'T' then event fuel 67 'T' "return trap" inner else inner
      { inner.withFramesOf s with
        args := s.args, outer := s.outer, loops := s.loops, depth := s.depth
        flow := if inner.flow == .back then .next else inner.flow }
termination_by structural n => n

/-- Runs a command of the shell. -/
def builtin : Nat → Bool → Bytes → List Bytes → State → State
  | 0, _, _, _, s => s.going .endless
  | fuel + 1, guarded, name, args, s =>
    match String.ofList name with
    | "eval" => script fuel guarded true (s.source 1 (Bytes.joined args)) s
    | "." =>
      withLetters "" "" args s fun _ args =>
        match args with
        | [] => s.done 0
        | file :: _ =>
          let places := if file.contains '/' then [file.path]
            else (Program.places s.searchPath file.text).filter fun p =>
              (s.lookup p).toOption.any (!·.isDirectory)
          match places with
          | [] => s.breaking (file ++ ": not found".toList)
          | p :: _ =>
            match s.readFile p with
            | .error fault => s.breaking
                ("cannot open ".toList ++ file ++ ": ".toList ++ Opening.wording true fault)
            | .ok text =>
              let s := { s with speaker := some (Bytes.ofText p.text) }
              let s := script fuel false true (s.source 1 text) s
              if s.flow == .back then s.going .next else s
    | "exec" =>
      match args with
      | [] => s.done 0
      | program :: args =>
        match Program.startLoosely s.lookup s.searchPath program.text args with
        | .error fault =>
          let (status, text) := Program.refusal fault
          ((s.object (program ++ ": ".toList ++ text)).done status).going (.exit true)
        | .ok invocation =>
          let s := { s with traps := s.traps.filter (·.2.isEmpty) }
          let s := utility fuel invocation s
          if s.goesOn then { s with traps := [] }.going (.exit true) else s
    | _ => (Builtin.run? name args s).getD (s.done 127)
termination_by structural n => n

/-- Runs a command of a shell of the extended dialect. -/
def ownExtended : Nat → Bool → Bytes → List Bytes → State → State
  | 0, _, _, _, s => s.going .endless
  | fuel + 1, guarded, name, args, s =>
    match String.ofList name with
    | "eval" =>
      let args := if args.head? == some "--".toList then args.tail else args
      let inner := { s.inside (some "eval".toList) with speaker := none }
      (script fuel guarded true (s.source s.commandLine (Bytes.joined args)) inner).outsideLike s
    | "." | "source" =>
      match (if args.head? == some "--".toList then args.tail else args) with
      | [] => Declaration.misused (s.object "filename argument required".toList) (String.ofList name)
          "filename [arguments]"
      | file :: given =>
        match s.sourced file with
        | .error text => s.failed 1 text
        | .ok text =>
          let frame := (({ s with speaker := none }.withFrame "source".toList file).inside none)
          let inner := script fuel false true (s.source 1 text)
            { frame with args := if given.isEmpty then s.args else given }
          let inner := event fuel 67 'T' "return trap"
            (if inner.flow == .back then inner.going .next else inner)
          { (inner.withFramesOf s).outsideLike s with args := if given.isEmpty then inner.args else s.args }
    | "exec" =>
      Declaration.withOptions "exec" "cl" "a" "" "[-cl] [-a name] [command [argument ...]] [redirection ...]"
        args s fun g s =>
          match g.args with
          | [] => s.done 0
          | program :: args =>
            match Program.startExtended s s.searchPath program args with
            | .error (status, text) =>
              let ended := if program.contains '/' then
                  let place := Bytes.ofText (s.here.absolutize program.path).text
                  { s with speaker := none }.object (place ++ text.drop program.length)
                else s.object (program ++ ": not found".toList)
              (ended.done status).going (if Extended.isSet s "execfail" then .next else .exit true)
            | .ok invocation =>
              let s := if g.has 'c' then { s with vars := [], exported := [] } else s
              let s := { s with traps := s.traps.filter (·.2.isEmpty) }
              let s := utility fuel invocation (s.handed (s.placeOf program))
              if s.goesOn then { s with traps := [] }.going (.exit true) else s
    | "builtin" =>
      match args with
      | [] => s.done 0
      | name :: _ => Declaration.refused s 1 (name ++ ": not a shell builtin".toList)
    | _ => (Extended.run? name args s).getD (s.done 127)
termination_by structural n => n

/-- Runs a program, in a process of its own unless it is the last thing that is done. -/
def program : Nat → Bool → String → Bytes → List Bytes → State → State
  | 0, _, _, _, _, s => s.going .endless
  | fuel + 1, last, searchPath, name, args, s =>
    let started := if s.isExtended then Program.startExtended s searchPath name args
      else
        (Program.startLoosely s.lookup searchPath name.text args).mapError fun fault =>
          let (status, text) := Program.refusal fault
          (if name.contains '/' then status else 127, name ++ ": ".toList ++ text)
    match started with
    | .error (status, text) => (s.object text).done status
    | .ok invocation =>
      let s := if name.contains '/' then s
        else { s with located := name :: s.located.filter (· != name) }
      if last then
        let s := utility fuel invocation (s.handed (s.placeOf name))
        if s.goesOn then s.going (.exit true) else s
      else s.reaped (utility fuel invocation (s.forked.handed (s.placeOf name)))
termination_by structural n => n

/-- Runs the commands of a source.  One without commands succeeds, as `idle` tells. -/
def script : Nat → Bool → Bool → Source → State → State
  | 0, _, _, _, s => s.going .endless
  | fuel + 1, guarded, idle, source, s =>
    let groups := Extended.isSet s "extglob"
    match Parser.next { source with aliases := s.readAliases, groups } with
    | .error m => s.unread m
    | .ok (none, rest) => if idle then (s.warned rest).done 0 else s.warned rest
    | .ok (some .skip, rest) => script fuel guarded idle rest s
    | .ok (some c, rest) =>
      let ended := run fuel guarded false c (s.warned rest)
      let rest := { rest with unended := [] }
      if ended.goesOn then script fuel guarded false rest ended
      else if ended.flow == .dropped && ended.process == ended.shell then
        script fuel guarded false rest ((ended.going .next).done 1)
      else ended
termination_by structural n => n

/-- Runs what is to be run on the signals that have come, or dies of them. -/
def deliver : Nat → State → State
  | 0, s => s.going .endless
  | fuel + 1, s =>
    if !s.goesOn then s
    else
      match s.pending.find? fun a => a.process == s.process && a.time ≤ s.clock with
      | none => s
      | some alert =>
        let s := { s with pending := s.pending.erase alert }
        match (if alert.signal == Signal.kill then none else s.traps.lookup alert.signal) with
        | some [] => deliver fuel s
        | some action =>
          let ended := (script fuel false true (s.source 1 action) (s.inside (some "trap".toList))).outsideLike s
          let keeps := ended.flow == .back || ended.flow == .exit true
          deliver fuel (if keeps then ended else ended.done s.status)
        | none =>
          if Signal.harmless.contains alert.signal then deliver fuel s
          else if Signal.stopping.contains alert.signal then s.going .endless
          else { s with clock := alert.time }.dying alert.signal
termination_by structural n => n

/-- The state at the end of a shell, after what was to be run there. -/
def finish : Nat → State → State
  | 0, s => s.going .endless
  | fuel + 1, s =>
    match s.flow with
    | .killed _ | .endless => s
    | _ =>
      let s := if s.readers.isEmpty then s else consume fuel 0 s
      match s.traps.lookup 0 with
      | none | some [] => s.going (.exit true)
      | some action =>
        let ended := (script fuel false true (s.source 1 action)
          { ((s.withoutTrap 0).going .next).inside (some "exit trap".toList) with loops := 0 }).outsideLike s
        match ended.flow with
        | .killed _ | .endless | .exit true => ended
        | .broken => (ended.done 2).going (.exit true)
        | _ => (ended.done s.status).going (.exit true)
termination_by structural n => n

/-- Runs a utility of the machine in the process of the state. -/
def utility : Nat → Invocation → State → State
  | 0, _, s => s.going .endless
  | fuel + 1, ⟨name, called, args⟩, s =>
    let s := { s with outer := none, speaker := none, title := Program.title? name called }
    if Version.isAsked name args then
      (s.say (Version.line name)).done (Version.status name)
    else if name == "bash" then
      finish fuel (extendedShell fuel args (s.freshShell called .extended))
    else if Program.shells.contains name then
      finish fuel (shell fuel args (s.freshShell called .plain))
    else
      match name with
      | "env" => environment fuel false args s
      | "printenv" =>
        match args with
        | [] => (s.say (Starter.shownEnvironment s ['\n'])).done 0
        | names =>
          let found := names.filterMap fun name => s.visible.lookup name
          (s.say (found.flatMap (· ++ ['\n']))).done
            (if found.length == names.length then 0 else 1)
      | "yes" =>
        let text := if args.isEmpty then ['y'] else Bytes.joined args
        let lines := List.replicate (s.extent / (text.length + 1) + 1) (text ++ ['\n'])
        (s.say lines.flatten).going .endless
      | "kill" =>
        let ended := Builtin.kill args s
        if ended.flow == .broken then (ended.going .next).done 1 else ended
      | "nohup" | "setsid" => start fuel name (Starter.behindOptions [] args.length args) s
      | "nice" => start fuel name (Starter.behindOptions ['n'] args.length args) s
      | "stdbuf" => start fuel name (Starter.behindOptions ['i', 'o', 'e'] args.length args) s
      | "timeout" =>
        match Starter.behindOptions ['s', 'k'] args.length args with
        | time :: program :: args =>
          match Utility.duration? time with
          | none => s.failed 125
              ("timeout: invalid time interval ".toList ++ Utility.cited time ++
                "\nTry 'timeout --help' for more information.".toList)
          | some limit =>
            let inner := start fuel name (program :: args) s.forked
            let inner := if inner.flow == .endless then { inner with clock := never } else inner
            let job := (s.after inner).withJob inner []
            let stop := s.clock + limit
            if limit == 0 || inner.clock ≤ stop then
              let ended := (s.after inner).done inner.finalStatus
              inner.fate.elim ended ended.dying
            else
              let cut := { job with flow := s.flow, clock := stop }.strike
                ⟨stop, inner.process, Signal.terminate⟩
              { cut with jobs := s.jobs, background := s.background }.done 124
        | _ => s.failed 125
            "timeout: missing operand\nTry 'timeout --help' for more information.".toList
      | "xargs" => spread fuel args s
      | "find" => Find.search (calling fuel name) args s
      | "sed" => Edit.edit (calling fuel name) args s
      | "awk" | "mawk" => Awk.run (calling fuel name) ((Text.splitOn '/' called).getLastD called) args s
      | name =>
        let ended := (Utility.run? name args s).getD (s.done 127)
        if ended.flow == .endless && gatherers.contains name && s.drained.flow == .endless then s.going .endless
        else ended
termination_by structural n => n

/-- Runs a program for a utility in a process of its own. -/
def calling : Nat → String → List Bytes → State → State
  | 0, _, _, s => s.going .endless
  | fuel + 1, name, words, s =>
    let inner := start fuel name words s.forked
    (s.after inner).done inner.finalStatus
termination_by structural n => n

/-- Runs a program for a utility that gives its process to it. -/
def start : Nat → String → List Bytes → State → State
  | 0, _, _, s => s.going .endless
  | _, name, [], s => Utility.missingOperand name s |>.done 125
  | fuel + 1, name, program :: args, s =>
    match Program.startLoosely s.lookup s.searchPath program.text args with
    | .ok invocation => utility fuel invocation s
    | .error fault =>
      let status := if fault == .notFound || fault == .notDirectory then 127 else 126
      let what := match name with
        | "env" | "find" | "nice" => Utility.cited program
        | "setsid" => "failed to execute ".toList ++ program
        | "xargs" => program
        | _ => "failed to run command ".toList ++ Utility.cited program
      s.failed status (name.toList ++ ": ".toList ++ what ++ ": ".toList ++ fault.wording.toList)
termination_by structural n => n

/-- Runs a program with other variables, or lists the variables. -/
def environment : Nat → Bool → List Bytes → State → State
  | 0, _, _, s => s.going .endless
  | fuel + 1, zero, args, s =>
    let empty := fun (s : State) => { s with vars := [], exported := [] }
    match args with
    | [] => (s.say (Starter.shownEnvironment s [if zero then '\x00' else '\n'])).done 0
    | ['-'] :: rest | ['-', 'i'] :: rest => environment fuel zero rest (empty s)
    | ['-', '0'] :: rest => environment fuel true rest s
    | ['-', '-'] :: rest => environment fuel zero rest s
    | ['-', 'u'] :: name :: rest => environment fuel zero rest (s.clear name)
    | ('-' :: 'u' :: c :: name) :: rest => environment fuel zero rest (s.clear (c :: name))
    | ('-' :: letters) :: _ =>
      match letters with
      | '-' :: name => s.failed 125 ((Utility.Misuse.unknownName name).wording "env")
      | c :: _ => s.failed 125 ((Utility.Misuse.unknownLetter c).wording "env")
      | [] => s
    | arg :: rest =>
      match Text.cutAt? '=' arg with
      | some (name, value) => environment fuel zero rest ((s.put name value).export_ name)
      | none => start fuel "env" (arg :: rest) s
termination_by structural n => n

/-- Runs a program with arguments that are read. -/
def spread : Nat → List Bytes → State → State
  | 0, _, s => s.going .endless
  | fuel + 1, args, s =>
    let known := Utility.Known.of "0rtxn:I:d:L:P:s:a:E:"
      "null=0 no-run-if-empty=r verbose=t max-args=n delimiter=d replace=I max-lines=L"
    match Utility.readOptions known false (args.length + 1) args with
    | .error m => s.failed 1 (m.wording "xargs")
    | .ok o =>
      let text := s.input
      let s := s.drained
      let program := if o.args.isEmpty then ["echo".toList] else o.args
      let pieces := fun (c : Char) =>
        let all := Text.splitOn c text
        if all.getLast? == some [] then all.dropLast else all
      let items :=
        if o.has '0' then pieces '\x00'
        else if let some d := o.value? 'd' then
          pieces ((Printing.unescaped d).1.head?.getD '\n')
        else if (o.value? 'I').isSome || (o.value? 'L').isSome then
          ((pieces '\n').map fun l => l.dropWhile fun c => c == ' ' || c == '\t').filter
            (!·.isEmpty)
        else Starter.inputWords (text.length + 1) none text
      let calls := match o.value? 'I' with
        | some mark => items.map fun item =>
          program.map fun a => Starter.replaceAll mark item (a.length + 1) a
        | none =>
          let size := ((o.value? 'n').bind Bytes.natural?).orElse fun _ =>
            (o.value? 'L').bind Bytes.natural?
          if items.isEmpty then if o.has 'r' then [] else [program]
          else (Starter.chunks (max 1 (size.getD items.length)) items.length items).map (program ++ ·)
      spreadCalls fuel (o.has 't') calls ((s.feed 0 []).done 0)
termination_by structural n => n

/-- Runs the calls of a program one after the other. -/
def spreadCalls : Nat → Bool → List (List Bytes) → State → State
  | 0, _, _, s => s.going .endless
  | _, _, [], s => s
  | fuel + 1, verbose, words :: rest, s =>
    let s := if verbose then s.complain (Bytes.joined words) else s
    let inner := start fuel "xargs" words s.forked
    let ended := s.after inner
    match inner.fate, inner.finalStatus with
    | some signal, _ =>
      ended.failed 125 (("xargs: " ++ String.ofList (words.head?.getD []) ++
        ": terminated by signal " ++ toString signal).toList)
    | none, 255 =>
      ended.failed 124 (("xargs: " ++ String.ofList (words.head?.getD []) ++
        ": exited with status 255; aborting").toList)
    | none, 0 => spreadCalls fuel verbose rest ended
    | none, n =>
      if n == 126 || n == 127 then ended.done n
      else spreadCalls fuel verbose rest (ended.done 123)
termination_by structural n => n

/-- Runs a shell with its arguments. -/
def shell : Nat → List Bytes → State → State
  | 0, _, s => s.going .endless
  | fuel + 1, args, s =>
    match Setting.read true args s with
    | .error text => s.breaking text
    | .ok w =>
      let s := w.state
      if w.commands then
        match w.rest with
        | [] => s.breaking "-c requires an argument".toList
        | text :: rest =>
          let s := { s with name := (rest.head?).getD s.name, args := rest.tail }
          script fuel false true (s.source 1 text) s
      else
        match (if s.has 's' then [] else w.rest) with
        | file :: rest =>
          match s.readFile file.path with
          | .ok text => script fuel false true (s.source 1 text) { s with name := file, args := rest }
          | .error fault => s.breaking
              ("cannot open ".toList ++ file ++ ": ".toList ++ Opening.wording true fault)
        | [] =>
          let s := { s with args := w.rest, options := 's' :: s.options.filter (· != 's') }
          script fuel false true (s.source 1 s.input) s.drained
termination_by structural n => n

/-- Runs a shell of the extended dialect with its arguments. -/
def extendedShell : Nat → List Bytes → State → State
  | 0, _, s => s.going .endless
  | fuel + 1, args, s =>
    match Setting.readExtended true args s with
    | .error text =>
      if text.head? == some '-' || text.head? == some '+' then
        s.failed 2 (s.name ++ ": ".toList ++ text ++ '\n' :: shellUsage.toList)
      else s.failed 2 (s.name ++ ": line 0: ".toList ++ s.name ++ ": ".toList ++ text)
    | .ok w =>
      let s := w.state
      if w.commands then
        match w.rest with
        | [] => s.failed 2 (s.name ++ ": -c: option requires an argument".toList)
        | text :: rest =>
          let s := { s with name := (rest.head?).getD s.name, args := rest.tail }
          let s := s.put "BASH_EXECUTION_STRING".toList text
          let s := { s with extension := { s.extension with label := some "-c".toList } }
          let ended := script fuel false true (s.source 1 text) s
          if ended.flow == .broken && !ended.has 'e' then ended.done 127 else ended
      else
        match (if s.has 's' then [] else w.rest) with
        | file :: rest =>
          let places := if file.contains '/' || (s.lookup file.path).toOption.isSome then [file.path]
            else (Program.places s.searchPath file.text).filter fun p => (s.lookup p).toOption.isSome
          match s.readFile ((places.head?).getD file.path) with
          | .ok text =>
            if Program.isBinary text then
              s.failed 126 (file ++ ": ".toList ++ file ++ ": cannot execute binary file".toList)
            else script fuel false true (s.source 1 text) { s with name := file, args := rest }
          | .error fault =>
            if fault == .isDirectory then
              s.failed 126 (file ++ ": ".toList ++ file ++ ": ".toList ++ fault.wording.toList)
            else s.failed (if fault == .notPermitted then 126 else 127)
                (s.name ++ ": ".toList ++ file ++ ": ".toList ++ fault.wording.toList)
        | [] =>
          let s := { s with args := w.rest, options := 's' :: s.options.filter (· != 's') }
          script fuel false true (s.source 1 s.input) s.drained

termination_by structural n => n

end

end ScriptDeps.Shell
