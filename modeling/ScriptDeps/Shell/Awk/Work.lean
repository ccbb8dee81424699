/-
The work of a program of the record language.

What comes at the start is done, then the rules are tried on each record in turn, and then comes what
is done at the end.  Each step spends fuel, and a program that is not done when all is spent is taken
for one that never ends.
-/
import ScriptDeps.Shell.Awk.Machine
import ScriptDeps.Shell.Awk.Reading

namespace ScriptDeps.Shell.Awk

namespace Work

/-- How much is done before the work is taken for one without end. -/
def maxEffort : Nat :=
  30000000

/-- How deep functions may be in one another. -/
def maxDepth : Nat :=
  3000

/-- Counts what is done. -/
def strain (n : Nat) : Work Unit := do
  modify fun m => { m with effort := m.effort + n }
  if maxEffort < (← get).effort then throw .endless

/-- The name is one of a table. -/
def isTable (m : Manners) (n : Name) : Work Bool := do
  match n with
  | .shared n => return m.script.tables.contains n
  | .own n =>
    match (← get).frame[n]? with
    | some (.table _) => return true
    | _ => return false

/-- The value of a name. -/
def named (n : Name) : Work Value := do
  match n with
  | .shared n => sharedValue n
  | .own n =>
    match (← get).frame[n]? with
    | some (.value v) => return v
    | _ => return .unset

def setNamed (n : Name) (v : Value) : Work Unit := do
  match n with
  | .shared n => setShared n v
  | .own n => modify fun m => { m with frame := m.frame.setIfInBounds n (.value v) }

/-- A place whose index has been found. -/
inductive Spot where
  | named (n : Name)
  | field (n : Int)
  | element (table : Nat) (key : Key)

def load (s : Spot) : Work Value := do
  match s with
  | .named n => named n
  | .field n => field n
  | .element table key => withTable table fun t => t.fetch key

def save (s : Spot) (v : Value) : Work Unit := do
  match s with
  | .named n => setNamed n v
  | .field n => setField n v
  | .element table key => withTable table fun t => ((), t.put key v)

/-- The part of a text from a place on, of a length. -/
def partOf (b : Bytes) (start : Float) (length : Option Float) : Bytes :=
  let first := Number.small start
  match length with
  | none => b.drop (first - 1).toNat
  | some n =>
    let last := first + Number.small n
    (b.take (last - 1).toNat).drop (first - 1).toNat

/-- Where a text begins in another one, from one on. -/
def indexOf (part : Bytes) : Nat → Bytes → Nat
  | n, s =>
    if part.isPrefixOf s then n
    else
      match s with
      | [] => 0
      | _ :: rest => indexOf part (n + 1) rest

/-- The moment of some seconds. -/
def momentAt (seconds : Int) (isUniversal : Bool) : Work Moment := do
  return ⟨seconds, 0, Utility.zoneOf (← get).state isUniversal⟩

/-- The seconds of the clock. -/
def seconds : Work Int := do
  return (Utility.now (← get).state .universal).seconds

/-- The seconds of a moment that is told by six numbers. -/
def secondsOf (b : Bytes) : Work Int := do
  let numbers := (Seek.words (b.length + 1) b).map fun w => Number.small (Number.ofText w)
  match numbers with
  | year :: month :: day :: hour :: minute :: second :: _ =>
    let first : Day := ⟨year + (month - 1) / 12, ((month - 1) % 12).toNat + 1, 1⟩
    let days := first.number + day - 1
    let zone := Utility.zoneOf (← get).state false
    return ((days * 24 + hour) * 60 + minute) * 60 + second - zone.ahead
  | _ => return -1

/-- A function that every program has, of values. -/
def known (m : Manners) (builtin : Builtin) (args : List Value) : Work Value := do
  let number := fun (i : Nat) => (args.getD i .unset).toNumber
  let text := fun (i : Nat) => textOf (args.getD i .unset)
  match builtin with
  | .length => return .ofNat (← text 0).length
  | .part =>
    let b ← text 0
    return .text (partOf b (number 1) (if 2 < args.length then some (number 2) else none))
  | .index => return .ofNat (indexOf (← text 1) 1 (← text 0))
  | .search => return .unset
  | .format =>
    let format ← text 0
    let numberFormat ← storedText numberFormat
    let (shown, trouble) := Value.formatted numberFormat
      (FormatPiece.ofFormat (format.length + 1) 1 format) args.tail
    match trouble with
    | none => return .text shown.flatten
    | some .tooFew =>
      stumble ("not enough arguments passed to sprintf(\"".toList ++ format ++ "\")".toList)
    | some (.badField n) =>
      stumble ("improper conversion(number ".toList ++ Bytes.ofNat n ++ ") in sprintf(\"".toList ++ format ++
        "\")".toList)
  | .sine => return .number (number 0).sin
  | .cosine => return .number (number 0).cos
  | .arcTangent => return .number (Float.atan2 (number 0) (number 1))
  | .exponential => return .number (number 0).exp
  | .logarithm => return .number (number 0).log
  | .root => return .number (number 0).sqrt
  | .whole => return .number (Number.cut (number 0))
  | .random =>
    let (n, window) := Random.next (← get).random.window
    modify fun m => { m with random := { m.random with window } }
    return .number (Number.ofNat n / 2147483647)
  | .seed =>
    let old := (← get).random.seed
    let seed ← match args with
      | v :: _ => pure v
      | [] => pure (.number (Float.ofInt (← seconds)))
    modify fun m => { m with random := .ofSeed seed }
    return old
  | .lower => return .text ((← text 0).map Char.toLower)
  | .upper => return .text ((← text 0).map Char.toUpper)
  | .system => return .ofNat (← system m (← text 0))
  | .close => return .number (Float.ofInt (← close m (← text 0)))
  | .flush =>
    settle
    return .number 0
  | .now => return .number (Float.ofInt (← seconds))
  | .time =>
    let format ← if args.isEmpty then pure "%c".toList else text 0
    let moment ← match args[1]? with
      | some v => pure (Number.small v.toNumber)
      | none => seconds
    let moment ← momentAt moment (args[2]?.any Value.holds)
    return .text (moment.format (format.length + 8) format)
  | .moment => return .number (Float.ofInt (← secondsOf (← text 0)))

/-- Sets what tells of the last search. -/
def setFound (start : Int) (length : Int) : Work Unit := do
  store matchStart (.number (Float.ofInt start))
  store matchLength (.number (Float.ofInt length))

/-- What is printed of a value. -/
def shown (v : Value) : Work Bytes := do
  match v with
  | .number x => return Number.text (← storedText outNumberFormat) x
  | v => textOf v

mutual

/-- The value of an expression. -/
def eval (m : Manners) : Nat → Expression → Work Value
  | 0, _ => throw .endless
  | fuel + 1, e => do
    strain 1
    match e with
    | .number x => return .number x
    | .text b => return .text b
    | .pattern found => return .truth (found.isFound (← textOf (← recordValue)))
    | .place (.named n) => named n
    | .place p => load (← spot m fuel p)
    | .assign p operation e =>
      match operation with
      | none =>
        let v ← eval m fuel e
        let s ← spot m fuel p
        save s v
        return v
      | some operation =>
        let y := (← eval m fuel e).toNumber
        let s ← spot m fuel p
        let v := Value.number (Value.combine operation (← load s).toNumber y)
        save s v
        return v
    | .step isFirst isUp p =>
      let s ← spot m fuel p
      let old := (← load s).toNumber
      let new := if isUp then old + 1 else old - 1
      save s (.number new)
      return .number (if isFirst then new else old)
    | .minus e => return .number (-(← eval m fuel e).toNumber)
    | .plus e => return .number (← eval m fuel e).toNumber
    | .not e => return .truth (!(← eval m fuel e).holds)
    | .combine operation a b =>
      let x := (← eval m fuel a).toNumber
      let y := (← eval m fuel b).toNumber
      return .number (Value.combine operation x y)
    | .compare comparison a b =>
      let a ← eval m fuel a
      let b ← eval m fuel b
      return .truth (Value.compare (← storedText numberFormat) comparison a b)
    | .join a b =>
      let a ← textOf (← eval m fuel a)
      let b ← textOf (← eval m fuel b)
      strain (b.length / 4)
      return .text (a ++ b)
    | .both a b =>
      if !(← eval m fuel a).holds then return .truth false
      return .truth (← eval m fuel b).holds
    | .either a b =>
      if (← eval m fuel a).holds then return .truth true
      return .truth (← eval m fuel b).holds
    | .choice condition a b =>
      if (← eval m fuel condition).holds then eval m fuel a else eval m fuel b
    | .isFound isWanted e pattern =>
      let b ← textOf (← eval m fuel e)
      let found ← matcher m fuel pattern
      strain b.length
      return .truth (found.isFound b == isWanted)
    | .isIn index table =>
      let key ← keyOf (← evalAll m fuel index)
      let number ← tableOf table
      return .truth (← withTable number fun t => t.contains key)
    | .call number args => call m fuel number args
    | .known .length [.place (.named n)] =>
      if ← isTable m n then
        let number ← tableOf n
        return .ofNat ((← get).tables.getD number Table.empty).size
      else return .ofNat (← textOf (← named n)).length
    | .known .length [] => return .ofNat (← textOf (← recordValue)).length
    | .known .search [e, pattern] =>
      let b ← textOf (← eval m fuel e)
      let found ← matcher m fuel pattern
      strain b.length
      match found.find? b with
      | some (start, stop) =>
        setFound (start.position + 1) ((stop.position : Int) - start.position)
        return .ofNat (start.position + 1)
      | none =>
        setFound 0 (-1)
        return .number 0
    | .known builtin args =>
      let values ← evalAll m fuel args
      known m builtin values
    | .split e table separator =>
      let b ← textOf (← eval m fuel e)
      let separator ← match separator with
        | none => pure (← get).separator
        | some (.pattern found) => pure (.pattern found)
        | some e => separatorOf (← textOf (← eval m fuel e))
      let number ← tableOf table
      let fields := Seek.fields separator b
      strain b.length
      withTable number fun _ => (Value.ofNat fields.length, .ofValues (fields.map .input))
    | .replace isGlobal pattern new target =>
      let found ← matcher m fuel pattern
      let new ← textOf (← eval m fuel new)
      let s ← spot m fuel target
      let old ← textOf (← load s)
      strain old.length
      let (text, count) := Seek.replace found isGlobal new old
      if 0 < count then save s (.text text)
      return .ofNat count
    | .read isCommand source target => read m fuel isCommand source target

/-- The values of expressions. -/
def evalAll (m : Manners) : Nat → List Expression → Work (List Value)
  | 0, _ => throw .endless
  | _, [] => return []
  | fuel + 1, e :: rest => do
    let v ← eval m fuel e
    return v :: (← evalAll m fuel rest)

/-- The matcher that an expression stands for. -/
def matcher (m : Manners) : Nat → Expression → Work Matcher
  | 0, _ => throw .endless
  | fuel + 1, e => do
    match e with
    | .pattern found => return found
    | e => matcherOf (← textOf (← eval m fuel e))

/-- A place with its index found. -/
def spot (m : Manners) : Nat → Place → Work Spot
  | 0, _ => throw .endless
  | fuel + 1, p => do
    match p with
    | .named n => return .named n
    | .field index => return .field (Number.small (← eval m fuel index).toNumber)
    | .element table index =>
      let key ← keyOf (← evalAll m fuel index)
      return .element (← tableOf table) key

/-- Reads a record, of the input or of something else, and puts it where it belongs. -/
def read (m : Manners) : Nat → Bool → Option Expression → Option Place → Work Value
  | 0, _, _, _ => throw .endless
  | fuel + 1, isCommand, source, target => do
    let (record, status) ← match source with
      | none =>
        let record ← mainRecord? m ((← get).tables.size + 100000)
        pure (record, if record.isSome then (1 : Int) else 0)
      | some e => otherRecord? m isCommand (← textOf (← eval m fuel e))
    match record with
    | none => return .number (Float.ofInt status)
    | some record =>
      strain record.length
      -- What a command prints counts among the records.
      if isCommand then count false
      match target with
      | none => setRecord (.input record)
      | some p => save (← spot m fuel p) (.input record)
      return .number 1

/-- The slots of arguments: tables are handed over as they are. -/
def slots (m : Manners) (f : Function) : Nat → Nat → List Expression → Work (List Slot)
  | 0, _, _ => throw .endless
  | _, _, [] => return []
  | fuel + 1, position, e :: rest => do
    let here ← match e with
      | .place (.named n) =>
        if f.tables.contains position || (← isTable m n) then pure (.table (← tableOf n))
        else pure (.value (← named n))
      | e => pure (.value (← eval m fuel e))
    return here :: (← slots m f fuel (position + 1) rest)

/-- The value of a function for arguments. -/
def call (m : Manners) : Nat → Nat → List Expression → Work Value
  | 0, _, _ => throw .endless
  | fuel + 1, number, args => do
    match m.script.functions[number]? with
    | none => return .unset
    | some f =>
      let given ← slots m f fuel 0 args
      let outer := (← get).frame
      let count := (← get).tables.size
      if maxDepth < (← get).depth then throw .endless
      let frame := (given ++ List.replicate (f.params - given.length) (Slot.value .unset)).toArray
      modify fun m => { m with frame, depth := m.depth + 1 }
      let result : Value ← tryCatch (do
          perform m fuel f.body
          return .unset)
        fun
          | .back v => return v
          | leap => throw leap
      modify fun m =>
        { m with frame := outer, depth := m.depth - 1, tables := m.tables.extract 0 count }
      return result

/-- Does statements one after the other. -/
def perform (m : Manners) : Nat → List Statement → Work Unit
  | 0, _ => throw .endless
  | _, [] => return
  | fuel + 1, s :: rest => do
    exec m fuel s
    perform m fuel rest

/-- Does a statement. -/
def exec (m : Manners) : Nat → Statement → Work Unit
  | 0, _ => throw .endless
  | fuel + 1, s => do
    match s with
    | .evaluate e => discard (eval m fuel e)
    | .print isFormat args target => print m fuel isFormat args target
    | .block body => perform m fuel body
    | .choice condition a b =>
      if (← eval m fuel condition).holds then exec m fuel a
      else
        match b with
        | some b => exec m fuel b
        | none => return
    | .loop condition behind body => loop m fuel condition behind body
    | .until_ body condition =>
      if ← round m fuel body then loop m fuel (some condition) none body
    | .each name table body =>
      let number ← tableOf table
      let keys ← withTable number fun t => t.keys
      elements m fuel name body keys
    | .delete table index =>
      let number ← tableOf table
      match index with
      | none => withTable number fun _ => ((), Table.empty)
      | some index =>
        let key ← keyOf (← evalAll m fuel index)
        withTable number fun t => ((), t.erase key)
    | .leave => throw .leave
    | .again => throw .again
    | .next => throw .next
    | .nextFile => throw .nextFile
    | .finish status =>
      match status with
      | none => return (← throw .exit)
      | some e =>
        let status := Number.small (← eval m fuel e).toNumber
        modify fun m => { m with status := (status % 256).toNat }
        throw .exit
    | .back value =>
      match value with
      | none => throw (.back .unset)
      | some e => throw (.back (← eval m fuel e))

/-- Does the body of a loop once, and tells whether the loop goes on. -/
def round (m : Manners) : Nat → Statement → Work Bool
  | 0, _ => throw .endless
  | fuel + 1, body =>
    tryCatch (do
      exec m fuel body
      return true) fun
      | .leave => return false
      | .again => return true
      | leap => throw leap

/-- Does the body of a loop as long as a condition holds. -/
def loop (m : Manners) : Nat → Option Expression → Option Expression → Statement → Work Unit
  | 0, _, _, _ => throw .endless
  | fuel + 1, condition, behind, body => do
    strain 1
    let holds ← match condition with
      | some e => do pure (← eval m fuel e).holds
      | none => pure true
    if holds then
      if ← round m fuel body then
        match behind with
        | some e => discard (eval m fuel e)
        | none => pure ()
        loop m fuel condition behind body

/-- Does the body of a loop for each key. -/
def elements (m : Manners) : Nat → Name → Statement → List Bytes → Work Unit
  | 0, _, _, _ => throw .endless
  | _, _, _, [] => return
  | fuel + 1, name, body, key :: rest => do
    setNamed name (.text key)
    if ← round m fuel body then elements m fuel name body rest

/-- Prints the record or values. -/
def print (m : Manners) : Nat → Bool → List Expression → Option (Output × Expression) → Work Unit
  | 0, _, _, _ => throw .endless
  | fuel + 1, isFormat, args, target => do
    let values ← if args.isEmpty then do pure [← recordValue] else evalAll m fuel args
    let target ← match target with
      | none => pure none
      | some (output, e) => do pure (some (output, ← textOf (← eval m fuel e)))
    let put := fun (b : Bytes) => do
      strain (16 + b.length / 4)
      match target with
      | none => say b
      | some (output, name) => sayTo output name b
    if isFormat then
      let format ← textOf (values.headD .unset)
      let (shown, trouble) := Value.formatted (← storedText numberFormat)
        (FormatPiece.ofFormat (format.length + 1) 1 format) values.tail
      put shown.flatten
      match trouble with
      | none => return
      | some .tooFew =>
        stumble ("not enough arguments passed to printf(\"".toList ++ format ++ "\")".toList)
      | some (.badField n) =>
        stumble ("improper conversion(number ".toList ++ Bytes.ofNat n ++ ") in printf(\"".toList ++ format ++
          "\")".toList)
    else
      let texts ← values.mapM shown
      let between ← storedText outFieldSeparator
      let behind ← storedText outRecordSeparator
      put (Bytes.joinedBy between texts ++ behind)

end

/-! ### Rules -/

/-- The rule of a number is for the record. -/
def applies (m : Manners) (fuel number : Nat) (p : Pattern) : Work Bool := do
  match p with
  | .always => return true
  | .start | .finish => return false
  | .holds e => return (← eval m fuel e).holds
  | .range first last =>
    let isOpen := (← get).ranges.contains number
    let starts ← if isOpen then pure true else do pure (← eval m fuel first).holds
    if starts then
      let ends := (← eval m fuel last).holds
      modify fun m =>
        let others := m.ranges.filter (· != number)
        { m with ranges := if ends then others else number :: others }
    return starts

/-- Tries the rules from a number on. -/
def applyRules (m : Manners) (fuel : Nat) : Nat → List Rule → Work Unit
  | _, [] => return
  | number, r :: rest => do
    if ← applies m fuel number r.pattern then
      match r.action with
      | some body => perform m fuel body
      | none => print m fuel false [] none
    applyRules m fuel (number + 1) rest

/-- Takes one record after the other. -/
def eachRecord (m : Manners) (fuel : Nat) : Nat → Work Unit
  | 0 => throw .endless
  | more + 1 => do
    match ← mainRecord? m fuel with
    | none => return
    | some record =>
      strain (10 + record.length)
      setRecord (.input record)
      tryCatch (applyRules m fuel 0 m.script.rules) fun
        | .next => return
        | .nextFile =>
          modify fun m =>
            { m with
              main := .closed
              given := match m.main with
                | .given => m.given.map fun g => { g with left := [] }
                | _ => m.given }
        | leap => throw leap
      eachRecord m fuel more

/-- Does what comes at the start or at the end. -/
def atEdge (m : Manners) (fuel : Nat) (isEdge : Pattern → Bool) : Work Unit := do
  for r in m.script.rules do
    if isEdge r.pattern then perform m fuel (r.action.getD [])

def isStart : Pattern → Bool
  | .start => true
  | _ => false

def isFinish : Pattern → Bool
  | .finish => true
  | _ => false

/-- Does all that comes before the end. -/
def beforeEnd (m : Manners) : Work Unit := do
  atEdge m maxEffort isStart
  if m.script.rules.any fun r => !isStart r.pattern then eachRecord m maxEffort maxEffort

/-- Runs the commands that wait for what is printed to them. -/
def endCommands (m : Manners) : Nat → Work Unit
  | 0 => return
  | fuel + 1 => do
    match (← get).outlets.find? (·.sink.isNone) with
    | none => return
    | some o =>
      modify fun m => { m with outlets := m.outlets.filter fun other => !(other.sink.isNone && other.name == o.name) }
      let s := (← get).state
      adopt (m.call (words o.name) (s.feed 0 o.pending.reverse.flatten))
      endCommands m fuel

/-- Does all that a program tells to do. -/
def all (m : Manners) : Work Unit := do
  tryCatch (beforeEnd m) fun
    | .exit => return
    | leap => throw leap
  tryCatch (atEdge m maxEffort isFinish) fun
    | .exit => return
    | leap => throw leap

end Work

end ScriptDeps.Shell.Awk
