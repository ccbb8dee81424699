/-
The work of the stream editor.

The input is one text made of all files, unless the files are separate.  A line is read into the
pattern space, the instructions are followed, what is in the pattern space is printed, and so on.
What is to stand behind a line waits until the next one is read.
-/
import ScriptDeps.Shell.Edit.Reading

namespace ScriptDeps.Shell.Edit

open Utility

/-- A text of characters, and whether a line end belongs behind it. -/
structure Space where
  text : Bytes
  isEnded : Bool

/-- The first line of a space that may have many. -/
def Space.firstLine (stop : Char) (s : Space) : Space :=
  match Text.cutAt? stop s.text with
  | some (line, _) => ⟨line, true⟩
  | none => s

/-- What is printed before the next line is read. -/
inductive Waiting where
  | text (b : Bytes)
  | file (name : Bytes)

/-- A file that is written to: where it leads, whether its last line lacks its end, and what is to be
written when the work is done, the last first. -/
structure Outlet where
  sink : Sink
  lacksEnd : Bool
  pending : List Bytes

/-- The state of a range of lines. -/
inductive Progress where
  | closed
  /-- It goes on, up to this line if its end is told by a number. -/
  | going (stop : Option Nat)
  deriving DecidableEq

/-- How the editor is told to work. -/
structure Manners where
  call : Utility.Call
  script : Script
  /-- What ends a line. -/
  stop : Char
  isSeparate : Bool
  /-- Files are changed, and what is added to the names of copies that are kept. -/
  inPlace : Option Bytes
  width : Nat

/-- The editor at work. -/
structure Editor where
  state : State
  status : Nat
  files : List Bytes
  /-- The file that is read. -/
  name : Bytes
  isOpen : Bool
  /-- One has been read. -/
  hasOpened : Bool
  /-- What has not been read of it. -/
  lines : List Bytes
  /-- How much of it there was, and where that comes from, if it has no name. -/
  given : Option (Nat × Nat × Input)
  number : Nat
  pattern : Space
  hold : Space
  hasReplaced : Bool
  lastSearch : Option Matcher
  ranges : Array Progress
  /-- What waits, the last first. -/
  waiting : List Waiting
  /-- What has been printed, the last first. -/
  printed : List Bytes
  lacksEnd : Bool
  outlets : List (Bytes × Outlet)
  readers : List (Bytes × List Bytes)
  /-- How much has been looked at. -/
  effort : Nat

/-- Why the work ends. -/
inductive Ending where
  | finished
  | quit (status : Nat)
  | failed (c : Complaint)
  | endless

abbrev Work := ExceptT Ending (StateM Editor)

/-- Complains while the instructions are followed. -/
def stumble {α : Type} (text : Bytes) : Work α :=
  throw (.failed ⟨1, Origin.mark (.expression 1) 0 0 ++ text⟩)

/-! ### Printing -/

/-- Prints bytes behind the end of what was printed before. -/
def emit (m : Manners) (b : Bytes) : Work Unit :=
  modify fun e =>
    { e with printed := b :: (if e.lacksEnd then [m.stop] :: e.printed else e.printed), lacksEnd := false }

/-- Prints a line. -/
def emitLine (m : Manners) (s : Space) : Work Unit := do
  emit m (Wide.toBytes s.text ++ (if s.isEnded then [m.stop] else []))
  if !s.isEnded then modify fun e => { e with lacksEnd := true }

/-- Prints the pattern space where lines are printed of themselves. -/
def autoprint (m : Manners) : Work Unit := do
  if !m.script.isQuiet then emitLine m (← get).pattern

/-- The state with all that was printed and written in its place. -/
def Editor.flushed (m : Manners) (e : Editor) : State :=
  let s := if m.inPlace.isSome then e.state else e.state.say e.printed.reverse.flatten
  e.outlets.foldl (fun s (_, o) => s.printTo o.sink o.pending.reverse.flatten) s

/-- Prints a line to a file. -/
def writeTo (m : Manners) (name : Bytes) (s : Space) : Work Unit := do
  let e ← get
  match e.outlets.lookup name with
  | none => return
  | some outlet =>
    let b := (if outlet.lacksEnd then [m.stop] else []) ++ Wide.toBytes s.text ++
      (if s.isEnded then [m.stop] else [])
    let isMain := name == "/dev/stdout".toList && m.inPlace.isNone
    let isDirect := name == "/dev/stderr".toList
    let pending := if isMain || isDirect then [] else b :: outlet.pending
    let outlets := e.outlets.map fun o =>
      if o.1 == name then (name, { outlet with lacksEnd := !s.isEnded, pending }) else o
    set { e with
      outlets
      printed := if isMain then b :: e.printed else e.printed
      state := if isDirect then e.state.printTo outlet.sink b else e.state }

/-- Prints what waits. -/
def flushWaiting (m : Manners) : Work Unit := do
  let waiting := (← get).waiting.reverse
  modify fun e => { e with waiting := [] }
  for w in waiting do
    match w with
    | .text b => emit m b
    | .file name =>
      emit m []
      let e ← get
      if name == "/dev/stdin".toList then
        set { e with printed := e.state.input :: e.printed, state := e.state.drained }
      else
        match e.state.readFile name.path with
        | .ok b => set { e with printed := b :: e.printed }
        | .error _ => pure ()

/-! ### Reading -/

/-- The lines of a text, each with its end if it has one. -/
def linesOf (stop : Char) (b : Bytes) : List Bytes :=
  let pieces := Text.splitOn stop b
  pieces.dropLast.map (· ++ [stop]) ++ (pieces.getLast?.toList.filter (!·.isEmpty))

/-- The ranges before the first line.  One that starts before it goes on. -/
def freshRanges (script : Script) : Array Progress :=
  script.instructions.map fun i =>
    match i.selection.first, i.selection.finish with
    | some (.line 0), some _ => .going none
    | _, _ => .closed

/-- The name of the copy that is kept of a file. -/
def copyName (ending name : Bytes) : Bytes :=
  let base := (name.reverse.takeWhile (· != '/')).reverse
  let front := name.take (name.length - base.length)
  let changed := if ending.contains '*' then
      ending.flatMap fun c => if c == '*' then base else [c]
    else base ++ ending
  if changed.contains '/' then changed else front ++ changed

/-- Ends the work on the file that is open: what is changed in place is written. -/
def closeFile (m : Manners) : Work Unit := do
  let e ← get
  if !e.isOpen then return
  set { e with isOpen := false }
  match m.inPlace with
  | none => return
  | some ending =>
    let e ← get
    let old := (e.state.readFile e.name.path).toOption.getD []
    let s := if ending.isEmpty then e.state
      else ((e.state.writeFile (copyName ending e.name).path old).toOption).getD e.state
    let s := match s.linkAt? e.name.path with
      | some (loc, _) => s.without loc
      | none => s
    let s := ((s.writeFile e.name.path e.printed.reverse.flatten).toOption).getD s
    set { e with state := s, printed := [], lacksEnd := false }

/-- Opens the next file that can be read. -/
def openNext (m : Manners) : Nat → Work Bool
  | 0 => return false
  | fuel + 1 => do
    closeFile m
    let e ← get
    match e.files with
    | [] => return false
    | name :: files =>
      set { e with files }
      let opened := fun (s : State) (b : Bytes) => do
        modify fun e =>
          { e with
            state := s, name, isOpen := true, hasOpened := true, lines := linesOf m.stop b
            number := if m.isSeparate then 0 else e.number
            ranges := if m.isSeparate then freshRanges m.script else e.ranges }
        return true
      let skip := fun (status : Nat) (text : Bytes) => do
        modify fun e => { e with state := e.state.complain ("sed: ".toList ++ text), status := max e.status status }
        openNext m fuel
      if name == ['-'] && m.inPlace.isNone then
        if e.state.readsDirectory 0 then
          throw (.failed ⟨4, "read error on stdin: Is a directory".toList⟩)
        else
          let b := e.state.input
          modify fun e => { e with given := (e.state.sourceAt? 0).map (b.length, ·) }
          opened e.state.emptied b
      else
        match e.state.readFile name.path with
        | .ok b =>
          if m.inPlace.isSome && (e.state.deviceAt? name.path).isSome then
            skip 4 ("couldn't edit ".toList ++ name ++ ": not a regular file".toList)
          else opened e.state b
        | .error .isDirectory =>
          if m.inPlace.isSome then skip 4 ("couldn't edit ".toList ++ name ++ ": not a regular file".toList)
          else throw (.failed ⟨4, "read error on ".toList ++ name ++ ": Is a directory".toList⟩)
        | .error fault => skip 2 ("can't read ".toList ++ name ++ ": ".toList ++ fault.wording.toList)

/-- There is something to read in a file. -/
def hasData (s : State) (name : Bytes) : Bool :=
  if name == ['-'] then !s.input.isEmpty
  else (s.readFile name.path).toOption.any (!·.isEmpty)

/-- No line follows. -/
def Editor.isAtLast (m : Manners) (e : Editor) : Bool :=
  e.lines.isEmpty && (m.isSeparate || !e.files.any (hasData e.state))

/-- Takes the next line of the input, if there is one. -/
def nextLine? (m : Manners) : Nat → Work (Option Space)
  | 0 => return none
  | fuel + 1 => do
    let e ← get
    match e.lines with
    | line :: lines =>
      let isEnded := line.getLast? == some m.stop
      let text := Wide.ofBytes (if isEnded then line.dropLast else line)
      set { e with lines, number := e.number + 1 }
      return some ⟨text, isEnded⟩
    | [] => if ← openNext m (e.files.length + 1) then nextLine? m fuel else return none

/-- Reads the next line, into the pattern space or behind what is in it, and tells whether there was
one. -/
def readNext (m : Manners) (isMore : Bool) : Work Bool := do
  flushWaiting m
  modify fun e => { e with hasReplaced := false }
  match ← nextLine? m ((← get).files.length + 2) with
  | none => return false
  | some line =>
    modify fun e =>
      { e with pattern := if isMore then ⟨e.pattern.text ++ m.stop :: line.text, line.isEnded⟩ else line }
    return true

/-! ### Lines that instructions are for -/

/-- The matcher of a search. -/
def matcherOf (search : Search) : Work Matcher := do
  match search with
  | some found =>
    modify fun e => { e with lastSearch := search }
    return found
  | none =>
    match (← get).lastSearch with
    | some found => return found
    | none => stumble "no previous regular expression".toList

/-- The line has an address. -/
def isAt (m : Manners) (a : Address) : Work Bool := do
  let e ← get
  match a with
  | .line n => return e.number == n
  | .every first step => return first ≤ e.number && (e.number - first) % step == 0
  | .last => return e.isAtLast m
  | .found search => return (← matcherOf search).isFound e.pattern.text

/-- Puts down how far a range has got. -/
def mark (index : Nat) (p : Progress) : Work Unit :=
  modify fun e => { e with ranges := e.ranges.setIfInBounds index p }

/-- The line is in a range. -/
def isWithin (m : Manners) (index : Nat) (first : Address) (finish : Finish) : Work Bool := do
  let number := (← get).number
  match (← get).ranges[index]?.getD .closed with
  | .going (some stop) =>
    if stop ≤ number then mark index .closed
    return number ≤ stop
  | .going none =>
    match finish with
    | .address a => if ← isAt m a then mark index .closed
    | _ => mark index .closed
    return true
  | .closed =>
    if !(← isAt m first) then return false
    let endsHere ← match finish with
      | .address (.every first step) => isAt m (.every first step)
      | _ => pure false
    let stop := if endsHere then some number else match finish with
      | .address (.line n) => some n
      | .behind n => some (number + n)
      | .multiple n => some (number / n * n + n)
      | .address _ => none
    match stop with
    | some stop => if number < stop then mark index (.going stop)
    | none => mark index (.going none)
    return true

/-- An instruction is for the line. -/
def isSelected (m : Manners) (index : Nat) (s : Selection) : Work Bool := do
  let holds ← match s.first, s.finish with
    | none, _ => pure true
    | some first, none => isAt m first
    | some first, some finish => isWithin m index first finish
  return holds != s.turned

/-! ### Substitutions -/

/-- What stands in the place of a match. -/
def Substitution.replacement (s : Substitution) (start stop : Regex.Place) : Bytes :=
  (s.parts.foldl
    (fun (done, carried) part =>
      let first := part.first.orElse fun _ => carried
      let front := part.casing.text first part.text
      let first := if part.text.isEmpty then first else none
      match part.group with
      | none => (done ++ front, none)
      | some n =>
        let found := if n == 0 then start.until_ stop else (stop.groupText? n).getD []
        if found.isEmpty then (done ++ front, if part.first.isSome then first else none)
        else (done ++ front ++ part.casing.text first found, none))
    (([] : Bytes), (none : Option Casing))).1

/-- The text behind a place after the substitution, in pieces.  `count` matches came before, and
`last` is where the one before ended. -/
def Substitution.pieces (s : Substitution) (found : Matcher) :
    Nat → Regex.Place → Nat → Option Nat → List Bytes × Bool
  | 0, p, _, _ => ([p.behind], false)
  | fuel + 1, p, count, last =>
    match found.first? p with
    | none => ([p.behind], false)
    | some (start, stop) =>
      let front := p.until_ start
      let isEmpty := start.position == stop.position
      let more := fun (count : Nat) (here : Bytes) (hasReplaced : Bool) =>
        if !isEmpty then
          let (rest, again) := s.pieces found fuel stop count (some stop.position)
          (front :: here :: rest, hasReplaced || again)
        else
          match stop.next? with
          | none => ([front, here], hasReplaced)
          | some next =>
            let (rest, again) := s.pieces found fuel next count (some stop.position)
            (front :: here :: stop.behind.take 1 :: rest, hasReplaced || again)
      if isEmpty && last == some start.position then more count [] false
      else if count + 1 < s.start then more (count + 1) (start.until_ stop) false
      else
        let here := s.replacement start stop
        if s.isGlobal then more (count + 1) here true else ([front, here, stop.behind], true)

/-- Runs a command and gives what it prints. -/
def outputOf (m : Manners) (command : Bytes) : Work Bytes := do
  let e ← get
  let (number, inner) := e.state.openPipe
  let ended := m.call ["sh".toList, "-c".toList, command] inner
  let (b, ended) := ended.takePipe number
  set { e with state := ended.withDescriptorsOf e.state }
  return b

/-- Runs the pattern space as a command, of which the output is the new one. -/
def runPattern (m : Manners) : Work Unit := do
  let b ← outputOf m (Wide.toBytes (← get).pattern.text)
  let text := if b.getLast? == some m.stop then b.dropLast else b
  modify fun e => { e with pattern := { e.pattern with text := Wide.ofBytes text } }

/-- Makes a substitution. -/
def substitute (m : Manners) (s : Substitution) : Work Unit := do
  let found ← matcherOf s.search
  if s.search.isNone then
    match (s.parts.filterMap Part.group).find? (found.regex.groupCount < ·) with
    | some n => stumble (badReference n)
    | none => pure ()
  let old := (← get).pattern
  let (pieces, hasReplaced) :=
    s.pieces found (2 * old.text.length + 2) (Regex.Place.ofText old.text) 0 none
  if hasReplaced then
    modify fun e => { e with pattern := { old with text := pieces.flatten }, hasReplaced := true }
    if s.printsFirst then emitLine m (← get).pattern
    if s.runs then runPattern m
    if s.prints then emitLine m (← get).pattern
    match s.file with
    | some name => writeTo m name (← get).pattern
    | none => pure ()

/-! ### Instructions -/

/-- A byte as it is listed. -/
def listed (c : Char) : Bytes :=
  match c with
  | '\\' => ['\\', '\\']
  | '\x07' => ['\\', 'a']
  | '\x08' => ['\\', 'b']
  | '\x0c' => ['\\', 'f']
  | '\n' => ['\\', 'n']
  | '\r' => ['\\', 'r']
  | '\t' => ['\\', 't']
  | '\x0b' => ['\\', 'v']
  | c =>
    if 32 ≤ c.toNat && c.toNat < 127 then [c]
    else '\\' :: ([64, 8, 1].map fun k => Char.ofNat ('0'.toNat + c.toNat / k % 8))

/-- Bytes as they are listed, in lines of a width unless that is zero. -/
def listing (width : Nat) (b : Bytes) : Bytes :=
  (b.foldl
    (fun (shown, column) c =>
      let here := listed c
      if 0 < width && width - 1 < column + here.length then
        (here.reverse ++ '\n' :: '\\' :: shown, here.length)
      else (here.reverse ++ shown, column + here.length))
    (([] : Bytes), 0)).1.reverse

/-- Where the work goes on. -/
inductive Move where
  | next
  | to (index : Nat)
  /-- At the end of the script. -/
  | finish
  /-- With the next line, without printing. -/
  | drop
  /-- At the start of the script with what is left of the line. -/
  | again

/-- Does what an instruction tells. -/
def perform (m : Manners) (index : Nat) (i : Instruction) : Work Move := do
  let e ← get
  match i.action with
  | .block _ | .nothing => return .next
  | .append text =>
    if !text.isEmpty then set { e with waiting := .text text :: e.waiting }
    return .next
  | .insert text =>
    if !text.isEmpty then emit m (text.dropLast ++ [m.stop])
    return .next
  | .change text =>
    let isGoing := i.selection.finish.isSome && (e.ranges[index]?.getD .closed) != .closed
    if !text.isEmpty && (!isGoing || i.selection.turned) then emit m (text.dropLast ++ [m.stop])
    return .drop
  | .jump kind label =>
    let goes := match kind with
      | .always => true
      | .replaced => e.hasReplaced
      | .unreplaced => !e.hasReplaced
    if kind != .always then set { e with hasReplaced := false }
    if !goes then return .next
    if label.isEmpty then return .finish
    return .to ((m.script.labels.lookup label).getD m.script.instructions.size)
  | .substitute s =>
    substitute m s
    return .next
  | .exchange pairs =>
    let change := fun (c : Char) => (pairs.lookup c).getD c
    set { e with pattern := { e.pattern with text := e.pattern.text.map change } }
    return .next
  | .delete => return .drop
  | .deleteLine =>
    match Text.cutAt? m.stop e.pattern.text with
    | none => return .drop
    | some (_, rest) =>
      set { e with pattern := { e.pattern with text := rest } }
      return .again
  | .printName =>
    emit m ((if e.name == ['-'] then ['-'] else e.name) ++ [m.stop])
    return .next
  | .fetch =>
    set { e with pattern := e.hold }
    return .next
  | .fetchMore =>
    set { e with pattern := ⟨e.pattern.text ++ m.stop :: e.hold.text, e.hold.isEnded⟩ }
    return .next
  | .keep =>
    set { e with hold := e.pattern }
    return .next
  | .keepMore =>
    set { e with hold := ⟨e.hold.text ++ m.stop :: e.pattern.text, e.pattern.isEnded⟩ }
    return .next
  | .list width =>
    emit m (listing (width.getD m.width) (Wide.toBytes e.pattern.text) ++ ['$', m.stop])
    return .next
  | .next =>
    if e.isAtLast m then return .finish
    autoprint m
    if ← readNext m false then return .next else return .drop
  | .nextMore =>
    if e.isAtLast m then return .finish
    if ← readNext m true then return .next else return .finish
  | .print =>
    emitLine m e.pattern
    return .next
  | .printLine =>
    emitLine m (e.pattern.firstLine m.stop)
    return .next
  | .printNumber =>
    emit m (Bytes.ofNat e.number ++ [m.stop])
    return .next
  | .quit prints status =>
    if prints then
      autoprint m
      emit m []
      flushWaiting m
    throw (.quit status)
  | .readFile name =>
    set { e with waiting := .file name :: e.waiting }
    return .next
  | .readLine name =>
    let known := e.readers.lookup name
    let left := known.getD <|
      if name == "/dev/stdin".toList then linesOf m.stop e.state.input
      else linesOf m.stop ((e.state.readFile name.path).toOption.getD [])
    let readers := (name, left.tail) :: e.readers.filter (·.1 != name)
    set { e with readers, waiting := (left.head?.toList.map Waiting.text) ++ e.waiting }
    return .next
  | .run command =>
    if command.isEmpty then runPattern m
    else
      let b ← outputOf m command
      emit m b
    return .next
  | .swap =>
    set { e with pattern := e.hold, hold := e.pattern }
    return .next
  | .writeFile name =>
    writeTo m name e.pattern
    return .next
  | .writeLine name =>
    writeTo m name (e.pattern.firstLine m.stop)
    return .next
  | .empty =>
    set { e with pattern := { e.pattern with text := [] } }
    return .next

/-- How much is looked at before the work is taken for one without end. -/
def maxEffort : Nat :=
  20000000

/-- Goes on behind the end of the script, or of the part of it that is followed. -/
def nextCycle (m : Manners) (prints : Bool) : Work Nat := do
  if prints then autoprint m
  if ← readNext m false then return 0 else throw .finished

/-- Follows the instruction of a number, and gives the number of the next one. -/
def step (m : Manners) (index : Nat) : Work Nat := do
  modify fun e => { e with effort := e.effort + 20 + e.pattern.text.length }
  if maxEffort < (← get).effort then throw .endless
  match m.script.instructions[index]? with
  | none => nextCycle m true
  | some i =>
    if ← isSelected m index i.selection then
      match ← perform m index i with
      | .next => return index + 1
      | .to index => return index
      | .finish => nextCycle m true
      | .drop => nextCycle m false
      | .again =>
        flushWaiting m
        return 0
    else
      match i.action with
      | .block stop => return stop
      | _ => return index + 1

/-- Follows so many instructions at most. -/
def follow (m : Manners) : Nat → Nat → Editor → Ending × Editor
  | 0, _, e => (.endless, e)
  | fuel + 1, index, e =>
    match (step m index).run.run e with
    | (.ok index, e) => follow m fuel index e
    | (.error ending, e) => (ending, e)

/-- The files that stand before the first line. -/
def Script.heads (s : Script) : List Waiting :=
  s.instructions.toList.filterMap fun i =>
    match i.selection.first, i.selection.finish, i.action with
    | some (.line 0), none, .readFile name => some (.file name)
    | _, _, _ => none

/-- Reads the first line and follows the script. -/
def work (m : Manners) (e : Editor) : Ending × Editor :=
  match (nextCycle m false).run.run { e with waiting := m.script.heads.reverse } with
  | (.ok index, e) => follow m maxEffort index e
  | (.error ending, e) => (ending, e)

end ScriptDeps.Shell.Edit
