/-
A program of the record language at work: its names, the record, and what it reads and prints.

The fields of a record are found when they are asked for, and the record is put together again from
changed fields when that is asked for.  What is printed waits until a command is run or the work
ends.
-/
import ScriptDeps.Shell.Awk.Seek
import ScriptDeps.Shell.Awk.Table
import ScriptDeps.Shell.Utility.Time

namespace ScriptDeps.Shell.Awk

/-- What a parameter stands for. -/
inductive Slot where
  | value (v : Value)
  /-- A table by its number. -/
  | table (number : Nat)

instance : Inhabited Slot :=
  ⟨.value .unset⟩

/-- The input without a name. -/
inductive Main where
  /-- The next file has to be opened. -/
  | closed
  /-- What is left of a file. -/
  | file (left : Bytes)
  /-- What is left of what the program was given to read. -/
  | given
  /-- Nothing is left. -/
  | over

/-- What the program was given to read. -/
structure Given where
  /-- What is left of it. -/
  left : Bytes
  /-- How much of it there was. -/
  size : Nat
  /-- Its end has been seen. -/
  isOver : Bool
  /-- Where it comes from. -/
  origin : Option (Nat × Input)

/-- Something that is printed to. -/
structure Outlet where
  name : Bytes
  /-- Where a file leads; a command has none. -/
  sink : Option Sink
  /-- What waits, the last first. -/
  pending : List Bytes

/-- Numbers without order: the last ones, the oldest first, and what they were started with. -/
structure Random where
  window : Array Nat
  seed : Value

namespace Random

/-- The numbers that a whole number starts. -/
def start (n : Nat) : Array Nat :=
  let first := if n == 0 then 1 else n
  let all := (List.range 30).foldl
    (fun (numbers : Array Nat) _ =>
      let last : Int := numbers.back?.getD 0
      numbers.push ((16807 * last.bmod 4294967296) % 2147483647).toNat)
    #[first % 4294967296]
  all.extract 3 31 ++ all.extract 0 3

/-- The next number, and those behind it. -/
def next (window : Array Nat) : Nat × Array Nat :=
  let n := (window.getD 0 0 + window.getD 28 0) % 4294967296
  (n / 2, (window.extract 1 window.size).push n)

/-- The numbers that a value starts. -/
def ofSeed (seed : Value) : Random :=
  let window := (List.range 310).foldl (fun w _ => (next w).2)
    (start ((Number.small seed.toNumber) % 4294967296).toNat)
  ⟨window, seed⟩

end Random

/-- How a program is told to work. -/
structure Manners where
  call : Utility.Call
  script : Script

/-- A program at work. -/
structure Machine where
  state : State
  values : Array Value
  /-- The tables: those of shared names by the numbers of the names, and others behind them. -/
  tables : Array Table
  frame : Array Slot
  record : Value
  /-- The record has to be put together from its fields. -/
  isStale : Bool
  fields : Array Value
  /-- The fields of the record are known. -/
  isSplit : Bool
  separator : Seek.Separator
  stop : Seek.Stop
  main : Main
  /-- The place of the next argument. -/
  nextArg : Nat
  /-- Some input has been named. -/
  hasInput : Bool
  given : Option Given
  /-- What is read besides: names, whether they are commands, and what is left. -/
  inlets : List ((Bool × Bytes) × Bytes × Nat)
  /-- What is printed to besides, the last one used first. -/
  outlets : List Outlet
  /-- What has been printed, the last first. -/
  printed : List Bytes
  /-- The patterns that were used before. -/
  matchers : List (Bytes × Matcher)
  /-- The ranges that are open, by the numbers of their rules. -/
  ranges : List Nat
  random : Random
  /-- How deep in functions it is. -/
  depth : Nat
  /-- The status that the work is to end with. -/
  status : Nat
  /-- How much has been done. -/
  effort : Nat

/-- Why what comes next is left out. -/
inductive Leap where
  | leave
  | again
  | next
  | nextFile
  | exit
  | back (v : Value)
  /-- A complaint that ends the work. -/
  | failed (text : Bytes)
  | endless

abbrev Work := ExceptT Leap (StateM Machine)

namespace Work

/-! ### Known names -/

/-- The place of a known name. -/
def placeOf (name : String) : Nat :=
  (knownNames.idxOf? name).getD 0

def fieldCount : Nat := placeOf "NF"
def recordCount : Nat := placeOf "NR"
def fileRecordCount : Nat := placeOf "FNR"
def fieldSeparator : Nat := placeOf "FS"
def outFieldSeparator : Nat := placeOf "OFS"
def outRecordSeparator : Nat := placeOf "ORS"
def recordSeparator : Nat := placeOf "RS"
def keySeparator : Nat := placeOf "SUBSEP"
def numberFormat : Nat := placeOf "CONVFMT"
def outNumberFormat : Nat := placeOf "OFMT"
def matchStart : Nat := placeOf "RSTART"
def matchLength : Nat := placeOf "RLENGTH"
def fileName : Nat := placeOf "FILENAME"
def argCount : Nat := placeOf "ARGC"
def environment : Nat := placeOf "ENVIRON"
def argTable : Nat := placeOf "ARGV"

/-- The value of a shared name as it stands. -/
def stored (n : Nat) : Work Value := do
  return (← get).values.getD n .unset

def store (n : Nat) (v : Value) : Work Unit :=
  modify fun m => { m with values := m.values.setIfInBounds n v }

/-- A value as a text. -/
def textOf (v : Value) : Work Bytes := do
  match v with
  | .unset => return []
  | .text b | .input b => return b
  | .number x =>
    let format := match (← get).values.getD numberFormat .unset with
      | .text b | .input b => b
      | _ => "%.6g".toList
    return Number.text format x

/-- The text of a shared name. -/
def storedText (n : Nat) : Work Bytes := do
  textOf (← stored n)

/-! ### Complaints -/

/-- Ends the work with a complaint. -/
def fail {α : Type} (text : Bytes) : Work α :=
  throw (.failed text)

/-- Ends the work with a complaint about what the program did at a record. -/
def stumble {α : Type} (text : Bytes) : Work α := do
  let name ← storedText fileName
  let inFile ← storedText fileRecordCount
  let inAll ← storedText recordCount
  fail ("run time error: ".toList ++ text ++ "\n\tFILENAME=\"".toList ++ name ++ "\" FNR=".toList ++ inFile ++
    " NR=".toList ++ inAll)

/-! ### Patterns -/

/-- How many patterns are kept. -/
def keptPatterns : Nat :=
  20

/-- The matcher of a text. -/
def matcherOf (pattern : Bytes) : Work Matcher := do
  match (← get).matchers.lookup pattern with
  | some m => return m
  | none =>
    match Seek.matcher? pattern with
    | .error text => stumble text
    | .ok found =>
      modify fun m => { m with matchers := (pattern, found) :: m.matchers.take keptPatterns }
      return found

/-- The separator that a text stands for. -/
def separatorOf (b : Bytes) : Work Seek.Separator := do
  match Seek.Separator.ofText? b with
  | .ok s => return s
  | .error text => stumble text

/-! ### Fields -/

/-- The greatest number of fields. -/
def maxFields : Nat :=
  1000000

/-- Finds the fields of the record. -/
def splitRecord : Work Unit := do
  let m ← get
  if !m.isSplit then
    let text ← textOf m.record
    let fields := (Seek.fields m.separator text).map Value.input
    let fields := fields.toArray
    modify fun m =>
      { m with fields, isSplit := true, values := m.values.setIfInBounds fieldCount (.ofNat fields.size) }

/-- Puts a value in the place of the record. -/
def setRecord (v : Value) : Work Unit :=
  modify fun m => { m with record := v, isStale := false, fields := #[], isSplit := false }

/-- The record. -/
def recordValue : Work Value := do
  let m ← get
  if m.isStale then
    let between ← storedText outFieldSeparator
    let texts ← m.fields.toList.mapM textOf
    let v := Value.input (Bytes.joinedBy between texts)
    modify fun m => { m with record := v, isStale := false }
    return v
  else return m.record

/-- The value of a field. -/
def field (n : Int) : Work Value := do
  if n < 0 then stumble ("negative field index $".toList ++ Bytes.ofInt n)
  else if n == 0 then recordValue
  else
    splitRecord
    return (← get).fields.getD (n.toNat - 1) .unset

/-- Makes the fields so many. -/
def resize (n : Nat) : Work Unit := do
  splitRecord
  modify fun m =>
    let fields := if n ≤ m.fields.size then m.fields.extract 0 n
      else m.fields ++ Array.replicate (n - m.fields.size) (Value.input [])
    { m with fields, isStale := true, values := m.values.setIfInBounds fieldCount (.ofNat n) }

/-- Puts a value in a field. -/
def setField (n : Int) (v : Value) : Work Unit := do
  if n < 0 then stumble ("negative field index $".toList ++ Bytes.ofInt n)
  else if n == 0 then setRecord v
  else
    splitRecord
    if (← get).fields.size < n.toNat then resize (min maxFields n.toNat)
    modify fun m =>
      { m with fields := m.fields.setIfInBounds (n.toNat - 1) v, isStale := true }

/-! ### Names -/

/-- The value of a shared name. -/
def sharedValue (n : Nat) : Work Value := do
  if n == fieldCount then splitRecord
  stored n

/-- Puts a value in a shared name. -/
def setShared (n : Nat) (v : Value) : Work Unit := do
  if n == fieldCount then
    let count := Number.small v.toNumber
    if count < 0 then stumble "negative value assigned to NF".toList
    resize (min maxFields count.toNat)
    store n v
  else if n == fieldSeparator then
    splitRecord
    let separator ← separatorOf (← textOf v)
    store n v
    modify fun m => { m with separator }
  else if n == recordSeparator then
    let text ← textOf v
    store n v
    match Seek.Stop.ofText? text with
    | .ok stop => modify fun m => { m with stop }
    | .error text => stumble text
  else store n v

/-- The number of the table of a name. -/
def tableOf (n : Name) : Work Nat := do
  match n with
  | .shared n => return n
  | .own n =>
    match (← get).frame[n]? with
    | some (.table number) => return number
    | _ =>
      -- A parameter without an argument becomes a table of its own.
      let number := (← get).tables.size
      modify fun m =>
        { m with tables := m.tables.push Table.empty, frame := m.frame.setIfInBounds n (.table number) }
      return number

/-- Changes a table and gives something of it. -/
def withTable {α : Type} (number : Nat) (f : Table → α × Table) : Work α :=
  modifyGet fun m =>
    let t := m.tables.getD number Table.empty
    let m := { m with tables := m.tables.setIfInBounds number Table.empty }
    let (result, t) := f t
    (result, { m with tables := m.tables.setIfInBounds number t })

/-- The key that values stand for. -/
def keyOf (values : List Value) : Work Key := do
  match values with
  | [.number x] =>
    match Number.asWhole? x with
    | some n => if n.natAbs < 2147483648 then return .number n else return .text (← textOf (.number x))
    | none => return .text (← textOf (.number x))
  | [v] => return .text (← textOf v)
  | values =>
    let between ← storedText keySeparator
    return .text (Bytes.joinedBy between (← values.mapM textOf))

/-! ### Printing -/

/-- Prints bytes. -/
def say (b : Bytes) : Work Unit :=
  modify fun m => { m with printed := b :: m.printed }

/-- The machine with what waits for files and for the program's own output printed. -/
def settled (m : Machine) : Machine :=
  let s := m.state.say m.printed.reverse.flatten
  let s := m.outlets.foldl
    (fun s o => match o.sink with
      | some sink => s.printTo sink o.pending.reverse.flatten
      | none => s) s
  { m with
    state := s, printed := []
    outlets := m.outlets.map fun o => if o.sink.isSome then { o with pending := [] } else o }

/-- Prints what waits. -/
def settle : Work Unit :=
  modify settled

/-- The words that run a command. -/
def words (command : Bytes) : List Bytes :=
  ["/bin/sh".toList, "-c".toList, command]

/-- Goes on in the state behind a command. -/
def adopt (ended : State) : Work Unit := do
  let old := (← get).state
  modify fun m => { m with state := ended.withDescriptorsOf old }
  if !ended.goesOn then throw .endless

/-- Runs a command and gives its status. -/
def system (m : Manners) (command : Bytes) : Work Nat := do
  settle
  adopt (m.call (words command) (← get).state)
  return (← get).state.status

/-- Runs a command that reads what was printed to it, and gives its status. -/
def endCommand (m : Manners) (o : Outlet) : Work Nat := do
  settle
  let s := (← get).state
  adopt (m.call (words o.name) (s.feed 0 o.pending.reverse.flatten))
  return (← get).state.status

/-- Prints bytes to a file or a command. -/
def sayTo (output : Output) (name b : Bytes) : Work Unit := do
  let isCommand := output == .command
  if !isCommand && (name == "/dev/stdout".toList || name == ['-']) then say b
  else if !isCommand && name == "/dev/stderr".toList then
    modify fun m => { m with state := (m.state.print 2 b) }
  else
    let machine ← get
    match machine.outlets.find? fun o => o.name == name && o.sink.isNone == isCommand with
    | some o =>
      let others := machine.outlets.filter fun o => !(o.name == name && o.sink.isNone == isCommand)
      set { machine with outlets := { o with pending := b :: o.pending } :: others }
    | none =>
      if isCommand then
        settle
        modify fun m => { m with outlets := ⟨name, none, [b]⟩ :: m.outlets }
      else
        match machine.state.openFile name.path (output == .append) with
        | .ok (sink, s) =>
          set { machine with state := s, outlets := ⟨name, some (sink.getD .nowhere), [b]⟩ :: machine.outlets }
        | .error fault =>
          fail ("cannot open \"".toList ++ name ++ "\" for output (".toList ++ fault.wording.toList ++ [')'])

/-- Closes what has a name, and gives the status of that. -/
def close (m : Manners) (name : Bytes) : Work Int := do
  let machine ← get
  match machine.outlets.find? (·.name == name) with
  | some o =>
    let without := fun (m : Machine) => { m with outlets := m.outlets.filter (·.name != name) }
    match o.sink with
    | none =>
      modify without
      return (← endCommand m o)
    | some sink =>
      set { without machine with state := machine.state.printTo sink o.pending.reverse.flatten }
      return 0
  | none =>
    match machine.inlets.find? fun i => i.1.2 == name with
    | some (_, _, status) =>
      set { machine with inlets := machine.inlets.filter fun i => i.1.2 != name }
      return status
    | none => return -1

/-! ### Reading -/

/-- What the program was given to read, as far as it is left. -/
def givenLeft : Work Bytes := do
  let m ← get
  match m.given with
  | some g => return g.left
  | none =>
    if m.state.readsDirectory 0 then fail "read error (Is a directory)".toList
    let left := m.state.input
    set { m with given := some ⟨left, left.length, false, m.state.sourceAt? 0⟩, state := m.state.emptied }
    return left

/-- Counts a record, in its file too if it is one of the input without a name. -/
def count (isMain : Bool) : Work Unit := do
  let up := fun (n : Nat) => do store n (.number ((← stored n).toNumber + 1))
  up recordCount
  if isMain then up fileRecordCount

/-- An argument that gives a value to a name. -/
def assignment? (b : Bytes) : Option (Bytes × Bytes) :=
  match Text.cutAt? '=' b with
  | some (name, value) => if Bytes.isName name then some (name, value) else none
  | none => none

/-- Gives a value from outside to a name. -/
def assignOutside (m : Manners) (name value : Bytes) : Work Unit := do
  match m.script.names.idxOf? name with
  | some n => setShared n (.input (Scan.unescaped value.length value))
  | none => return

/-- Opens the next file of the input, and tells whether there was one. -/
def openNext (m : Manners) : Nat → Work Bool
  | 0 => return false
  | fuel + 1 => do
    let machine ← get
    let count := Number.small (← stored argCount).toNumber
    let openGiven := do
      store fileName (.text ['-'])
      store fileRecordCount (.number 0)
      modify fun m => { m with main := .given, hasInput := true }
      return true
    if count ≤ machine.nextArg then
      if machine.hasInput then
        modify fun m => { m with main := .over }
        return false
      else openGiven
    else
      let key := Key.number machine.nextArg
      set { machine with nextArg := machine.nextArg + 1 }
      let (isThere, v) ← withTable argTable fun t =>
        match t.contains key with
        | (true, t) =>
          let (v, t) := t.fetch key
          ((true, v), t)
        | (false, t) => ((false, .unset), t)
      let name ← textOf v
      if !isThere || name.isEmpty then openNext m fuel
      else
        match assignment? name with
        | some (name, value) =>
          assignOutside m name value
          openNext m fuel
        | none =>
          if name == ['-'] || name == "/dev/stdin".toList then openGiven
          else
            match machine.state.readFile name.path with
            | .ok b =>
              store fileName (.text name)
              store fileRecordCount (.number 0)
              modify fun m => { m with main := .file b, hasInput := true }
              return true
            | .error .isDirectory => fail "read error (Is a directory)".toList
            | .error fault =>
              fail ("cannot open \"".toList ++ name ++ "\" (".toList ++ fault.wording.toList ++ [')'])

/-- The next record of the input without a name. -/
def mainRecord? (m : Manners) : Nat → Work (Option Bytes)
  | 0 => return none
  | fuel + 1 => do
    let machine ← get
    let goOn := do
      let limit := (Number.small (← stored argCount).toNumber).toNat + 2
      if ← openNext m limit then mainRecord? m fuel else return none
    match machine.main with
    | .over => return none
    | .closed => goOn
    | .file left =>
      match Seek.record? machine.stop left with
      | some (record, rest) =>
        set { machine with main := .file rest }
        count true
        return some record
      | none =>
        set { machine with main := .closed }
        goOn
    | .given =>
      let left ← givenLeft
      match Seek.record? machine.stop left with
      | some (record, rest) =>
        modify fun m => { m with given := m.given.map fun g => { g with left := rest } }
        count true
        return some record
      | none =>
        modify fun m =>
          { m with given := m.given.map fun g => { g with left := [], isOver := true }, main := .closed }
        goOn

/-- Opens a file or a command to be read, and gives what is to be read and a status; a file that
cannot be opened gives none. -/
def openInlet? (m : Manners) (isCommand : Bool) (name : Bytes) : Work (Option (Bytes × Nat)) := do
  if isCommand then
    settle
    let (number, inner) := (← get).state.openPipe
    let ended := m.call (words name) inner
    let (b, ended) := ended.takePipe number
    adopt ended
    return some (b, ended.status)
  else
    match (← get).state.readFile name.path with
    | .ok b => return some (b, 0)
    | .error .isDirectory => fail "read error (Is a directory)".toList
    | .error _ => return none

/-- The next record of a file or of what a command prints; it is missing where nothing is left, and the
status is less than zero where nothing can be read. -/
def otherRecord? (m : Manners) (isCommand : Bool) (name : Bytes) : Work (Option Bytes × Int) := do
  if !isCommand && (name == ['-'] || name == "/dev/stdin".toList) then
    let left ← givenLeft
    match Seek.record? (← get).stop left with
    | some (record, rest) =>
      modify fun m => { m with given := m.given.map fun g => { g with left := rest } }
      return (some record, 1)
    | none =>
      modify fun m => { m with given := m.given.map fun g => { g with isOver := true } }
      return (none, 0)
  else
    let key := (isCommand, name)
    let known := (← get).inlets.lookup key
    let opened ← match known with
      | some inlet => pure (some inlet)
      | none => openInlet? m isCommand name
    match opened with
    | none => return (none, -1)
    | some (left, status) =>
      match Seek.record? (← get).stop left with
      | some (record, rest) =>
        modify fun m => { m with inlets := (key, rest, status) :: m.inlets.filter (·.1 != key) }
        return (some record, 1)
      | none =>
        modify fun m => { m with inlets := (key, [], status) :: m.inlets.filter (·.1 != key) }
        return (none, 0)

end Work

end ScriptDeps.Shell.Awk
