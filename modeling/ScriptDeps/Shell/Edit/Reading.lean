/-
How scripts of the stream editor are written.

A script comes in pieces, each an expression of its own or a file.  Complaints tell the piece and how
far it has been read, or its line if it is a file.
-/
import ScriptDeps.Shell.Arithmetic
import ScriptDeps.Shell.Edit.Script
import ScriptDeps.Shell.Regex.Reading
import ScriptDeps.Shell.Utility.Order

namespace ScriptDeps.Shell.Edit

/-- Where a piece of a script comes from. -/
inductive Origin where
  | expression (number : Nat)
  | file (name : Bytes)

/-- A complaint, and the status of the editor behind it. -/
structure Complaint where
  status : Nat
  text : Bytes

/-- What is read, and what has been read. -/
structure Desk where
  origin : Origin
  rest : Bytes
  /-- The number of characters that have been read of the piece. -/
  count : Nat
  line : Nat
  others : List (Origin × Bytes)
  instructions : Array Instruction
  /-- The blocks that are open, each with its complaint if it stays so. -/
  blocks : List (Nat × Bytes)
  labels : List (Bytes × Nat)
  /-- The labels that are jumped to, the last one first. -/
  goals : List Bytes
  form : Regex.Form
  /-- Lines of a text have starts and ends where that is asked for. -/
  linewise : Bool
  isConfined : Bool

abbrev Reading := StateT Desk (Except Complaint)

/-! ### Complaints -/

/-- Where a complaint is from. -/
def Origin.mark (origin : Origin) (count line : Nat) : Bytes :=
  match origin with
  | .expression n =>
    "-e expression #".toList ++ Bytes.ofNat n ++ ", char ".toList ++ Bytes.ofNat count ++ ": ".toList
  | .file name => "file ".toList ++ name ++ " line ".toList ++ Bytes.ofNat line ++ ": ".toList

/-- Complains about what has been read last. -/
def refuse {α : Type} (text : Bytes) : Reading α := do
  let d ← get
  throw ⟨1, d.origin.mark d.count d.line ++ text⟩

def refuseWith {α : Type} (text : String) : Reading α :=
  refuse text.toList

/-! ### Characters -/

def peek : Reading (Option Char) := do
  return (← get).rest.head?

def take : Reading (Option Char) := do
  let d ← get
  match d.rest with
  | [] => return none
  | c :: rest =>
    set { d with rest, count := d.count + 1, line := if c == '\n' then d.line + 1 else d.line }
    return some c

/-- Reads the characters at the front that are wanted. -/
def takeWhile (wanted : Char → Bool) : Reading Bytes := do
  let d ← get
  let (run, rest) := d.rest.span wanted
  let lines := (run.filter (· == '\n')).length
  set { d with rest, count := d.count + run.length, line := d.line + lines }
  return run

def isGap (c : Char) : Bool :=
  c == ' ' || c == '\t'

def skipGaps : Reading Unit := do
  let _ ← takeWhile isGap

/-- Reads the digits at the front as a number. -/
def takeNumber : Reading Nat := do
  return (Bytes.natural? (← takeWhile Char.isDigit)).getD 0

/-- Goes on with the next piece, if there is one. -/
def nextPiece : Reading Bool := do
  let d ← get
  match d.others with
  | [] => return false
  | (origin, text) :: others =>
    set { d with origin, rest := text, count := 0, line := 1, others }
    return true

/-! ### Escapes -/

/-- What escapes are read for. -/
inductive Use where
  | pattern
  | replacement
  | plain
  deriving DecidableEq

/-- The character of a number that is written behind a letter, and what is behind it. -/
def numbered (letter : Char) (base most : Nat) (s : Bytes) : Char × Bytes :=
  let isDigit := fun (c : Char) =>
    if base == 16 then c.isDigit || ('a' ≤ c.toLower && c.toLower ≤ 'f')
    else '0' ≤ c && c.toNat < '0'.toNat + base
  let digits := (s.take most).takeWhile isDigit
  if digits.isEmpty then (letter, s)
  else (Char.ofNat (Arithmetic.inBase base digits % 256), s.drop digits.length)

/-- A character as it stands for itself. -/
def Use.literal (use : Use) (c : Char) : Bytes :=
  if use == .replacement && (c == '&' || c == '\\') then ['\\', c] else [c]

/-- A text with the characters in the place of the escapes that stand for them; all other escapes
stay.  Nothing comes of a control that is an escape itself. -/
def unescaped (use : Use) : Nat → Bytes → Option Bytes
  | 0, _ => some []
  | _, [] => some []
  | fuel + 1, '\\' :: c :: s =>
    let plain := fun (d : Char) => (unescaped use fuel s).map (d :: ·)
    let number := fun (base most : Nat) =>
      let (d, rest) := numbered c base most s
      (unescaped use fuel rest).map (use.literal d ++ ·)
    match c with
    | 'a' => plain '\x07'
    | 'f' => plain '\x0c'
    | 'n' => plain '\n'
    | 'r' => plain '\r'
    | 't' => plain '\t'
    | 'v' => plain '\x0b'
    | 'd' => number 10 3
    | 'o' => number 8 3
    | 'x' => number 16 2
    | 'c' =>
      match s with
      | [] => some (if use == .replacement then ['\\', '\\'] else [])
      | '\\' :: '\\' :: rest => (unescaped use fuel rest).map ('\x1c' :: ·)
      | '\\' :: _ => none
      | d :: rest =>
        let control := Char.ofNat (d.toUpper.toNat ^^^ 64)
        (unescaped use fuel rest).map (use.literal control ++ ·)
    | c => (unescaped use fuel s).map fun rest => '\\' :: c :: rest
  | fuel + 1, c :: s => (unescaped use fuel s).map (c :: ·)

/-- The text with its escapes read, or a complaint. -/
def withoutEscapes (use : Use) (s : Bytes) : Reading Bytes :=
  match unescaped use (s.length + 1) s with
  | some s => return s
  | none => refuseWith "recursive escaping after \\c not allowed"

/-- The text without backslashes, except for those behind others. -/
def bare : Bytes → Bytes
  | ['\\'] => []
  | '\\' :: c :: s => c :: bare s
  | c :: s => c :: bare s
  | [] => []

/-! ### Texts between delimiters -/

/-- Where a list in brackets is being read. -/
inductive ListPlace where
  | outside
  /-- Behind the opening bracket, where another bracket would close nothing. -/
  | opened
  | inside
  /-- In a class, which this character and a bracket close. -/
  | named (mark : Char)
  deriving DecidableEq

/-- Reads up to a delimiter.  In a pattern, a list in brackets may have the delimiter in it. -/
def upToDelimiter (delimiter : Char) (use : Use) : Nat → ListPlace → Reading (Option Bytes)
  | 0, _ => return none
  | fuel + 1, place => do
    let goOn := fun (front : Bytes) (place : ListPlace) => do
      let rest ← upToDelimiter delimiter use fuel place
      return rest.map (front ++ ·)
    match ← peek with
    | none | some '\n' => return none
    | some c =>
      let _ ← take
      if place == .outside then
        if c == delimiter then return some []
        else if c == '\\' then
          match ← take with
          | none => return none
          | some d =>
            if d == delimiter then
              goOn (if use == .replacement && d == '&' then ['\\', d] else [d]) .outside
            else if d == '\n' then goOn [d] .outside
            else if d == 'n' && use == .pattern then goOn ['\n'] .outside
            else goOn ['\\', d] .outside
        else if c == '[' && use == .pattern then
          match ← peek with
          | some '^' =>
            let _ ← take
            goOn ['[', '^'] .opened
          | _ => goOn ['['] .opened
        else goOn [c] .outside
      else
        match place with
        | .named mark =>
          if c == mark && (← peek) == some ']' then
            let _ ← take
            goOn [c, ']'] .inside
          else goOn [c] place
        | _ =>
          if c == ']' && place == .inside then goOn [c] .outside
          else if c == '\\' && (← peek) == some 'n' then
            let _ ← take
            goOn ['\n'] .inside
          else if c == '[' then
            match ← peek with
            | some d =>
              if d == ':' || d == '.' || d == '=' then
                let _ ← take
                goOn [c, d] (.named d)
              else goOn [c] .inside
            | none => goOn [c] .inside
          else goOn [c] .inside

/-- Reads the text up to a delimiter, or complains that there is none. -/
def delimited (delimiter : Option Char) (use : Use) (complaint : String) : Reading Bytes := do
  match delimiter with
  | none => refuseWith complaint
  | some c =>
    if 128 ≤ c.toNat then refuseWith "delimiter character is not a single-byte character"
    match ← upToDelimiter c use ((← get).rest.length + 1) .outside with
    | some s => return s
    | none => refuseWith complaint

/-- The expression of a pattern. -/
def searchOf (pattern : Bytes) (anyCase lines : Bool) : Reading Search := do
  let pattern ← withoutEscapes .pattern pattern
  let d ← get
  if pattern.isEmpty then
    if anyCase || lines then refuseWith "cannot specify modifiers on empty regexp"
    else return none
  else
    match Regex.read d.form (Wide.ofBytes pattern) with
    | .ok r => return some (.wide r anyCase (lines && d.linewise))
    | .error .bareClass => throw ⟨4, Regex.Flaw.bareClass.wording⟩
    | .error flaw => refuse flaw.wording

/-! ### Addresses -/

/-- Reads the letters behind a pattern: whether case is of no matter, and whether lines count. -/
def patternLetters : Nat → Bool → Bool → Reading (Bool × Bool)
  | 0, anyCase, lines => return (anyCase, lines)
  | fuel + 1, anyCase, lines => do
    skipGaps
    match ← peek with
    | some 'I' =>
      let _ ← take
      patternLetters fuel true lines
    | some 'M' =>
      let _ ← take
      patternLetters fuel anyCase true
    | _ => return (anyCase, lines)

/-- Reads an address, or what can only end a range. -/
def address? : Reading (Option Finish) := do
  match ← peek with
  | none => return none
  | some c =>
    if c == '/' || c == '\\' then
      let _ ← take
      let delimiter ← if c == '\\' then take else pure (some c)
      let pattern ← delimited delimiter .pattern "unterminated address regex"
      let (anyCase, lines) ← patternLetters ((← get).rest.length + 1) false false
      return some (.address (.found (← searchOf pattern anyCase lines)))
    else if c.isDigit then
      let n ← takeNumber
      skipGaps
      if (← peek) == some '~' then
        let _ ← take
        skipGaps
        let step ← takeNumber
        return some (.address (if step == 0 then .line n else .every n step))
      else return some (.address (.line n))
    else if c == '+' || c == '~' then
      let _ ← take
      skipGaps
      let n ← takeNumber
      return some (if c == '+' || n == 0 then .behind n else .multiple n)
    else if c == '$' then
      let _ ← take
      return some (.address .last)
    else return none

/-- Reads which lines an instruction is for, and the letter of the instruction. -/
def selection : Reading (Selection × Option Char) := do
  let first ← match ← address? with
    | none => pure none
    | some (.address a) => pure (some a)
    | some (.behind 0) => pure none
    | some _ =>
      refuseWith "invalid usage of +N or ~N as first address"
  skipGaps
  let finish ← if first.isSome && (← peek) == some ',' then do
      let _ ← take
      skipGaps
      match ← address? with
      | some f =>
        skipGaps
        pure (some f)
      | none =>
        let _ ← take
        refuseWith "unexpected `,'"
    else pure none
  let c ← take
  let endsAtPattern := match finish with
    | some (.address (.found _)) => true
    | _ => false
  match first with
  | some (.line 0) =>
    if !endsAtPattern && !(c == some 'r' && finish.isNone) then
      refuseWith "invalid usage of line address 0"
  | _ => pure ()
  if c == some '!' then
    skipGaps
    let c ← take
    if c == some '!' then refuseWith "multiple `!'s"
    return (⟨first, finish, true⟩, c)
  else return (⟨first, finish, false⟩, c)

/-! ### What stands behind instructions -/

/-- Reads the end of an instruction. -/
def finished : Reading Unit := do
  skipGaps
  match ← peek with
  | none | some '\x7d' | some '#' => return
  | some c =>
    let _ ← take
    if c != '\n' && c != ';' then refuseWith "extra characters after command"

/-- Reads a label. -/
def label : Reading Bytes := do
  skipGaps
  takeWhile fun c => !(Bytes.isSpace c || c == ';' || c == '\x7d' || c == '#')

/-- Reads the name of a file up to the end of the line. -/
def fileName : Reading Bytes := do
  skipGaps
  let name ← takeWhile (· != '\n')
  if name.isEmpty then refuseWith "missing filename in r/R/w/W commands"
  let _ ← take
  return name

/-- Reads a text up to the end of a line in front of which there is no backslash, and tells whether
the script ends behind a backslash. -/
def rawText : Nat → Reading (Bytes × Bool)
  | 0 => return ([], false)
  | fuel + 1 => do
    match ← take with
    | none | some '\n' => return ([], false)
    | some '\\' =>
      match ← take with
      | some c =>
        let (rest, open_) ← rawText fuel
        return ('\\' :: c :: rest, open_)
      | none =>
        if ← nextPiece then
          let (rest, open_) ← rawText fuel
          return ('\n' :: rest, open_)
        else return ([], true)
    | some c =>
      let (rest, open_) ← rawText fuel
      return (c :: rest, open_)

/-- The number of characters that are left in all pieces. -/
def remaining : Reading Nat := do
  let d ← get
  return d.others.foldl (fun n p => n + p.2.length + 1) (d.rest.length + 1)

/-- Reads a text behind some characters, with a line end behind it. -/
def textBlock (front : Bytes) : Reading Bytes := do
  let (raw, isOpen) ← rawText (← remaining)
  let raw := front ++ raw
  if isOpen then return raw ++ ['\n']
  else return bare (← withoutEscapes .plain raw) ++ ['\n']

/-- Reads the text that is put into the output. -/
def outputText : Reading Bytes := do
  skipGaps
  match ← peek with
  | none => refuseWith "expected \\ after `a', `c' or `i'"
  | some '\\' =>
    let _ ← take
    match ← peek with
    | none => if ← nextPiece then textBlock [] else return []
    | some '\n' =>
      let _ ← take
      textBlock []
    | some c =>
      -- The first character is no escape, even if it is a backslash.
      let _ ← take
      textBlock [c]
  | some _ => textBlock []

/-! ### Substitutions -/

/-- The parts of a replacement; `before` is the text that has been read of the next one. -/
def partsOf (casing : Casing) (first : Option Casing) : Nat → Bytes → Bytes → List Part
  | 0, _, _ => []
  | _, before, [] => [⟨before.reverse, none, casing, first⟩]
  | fuel + 1, before, '&' :: s =>
    ⟨before.reverse, some 0, casing, first⟩ :: partsOf casing none fuel [] s
  | fuel + 1, before, '\\' :: c :: s =>
    let here : Part := ⟨before.reverse, none, casing, first⟩
    match c with
    | 'L' => here :: partsOf .lower none fuel [] s
    | 'U' => here :: partsOf .upper none fuel [] s
    | 'E' => here :: partsOf .same none fuel [] s
    | 'l' => here :: partsOf casing (some .lower) fuel [] s
    | 'u' => here :: partsOf casing (some .upper) fuel [] s
    | c =>
      if c.isDigit then
        ⟨before.reverse, some (c.toNat - '0'.toNat), casing, first⟩ :: partsOf casing none fuel [] s
      else partsOf casing first fuel (c :: before) s
  | fuel + 1, before, c :: s => partsOf casing first fuel (c :: before) s

/-- What the letters behind a substitution ask for. -/
structure Manner where
  anyCase : Bool
  lines : Bool
  runs : Bool
  printsFirst : Bool
  prints : Bool
  isGlobal : Bool
  start : Option Nat
  file : Option Bytes

/-- Reads the letters behind a substitution. -/
def manner : Nat → Manner → Reading Manner
  | 0, m => return m
  | fuel + 1, m => do
    skipGaps
    match ← peek with
    | none | some '\x7d' | some '#' => return m
    | some c =>
      let _ ← take
      match c with
      | '\n' | ';' => return m
      | 'i' | 'I' => manner fuel { m with anyCase := true }
      | 'm' | 'M' => manner fuel { m with lines := true }
      | 'e' => manner fuel { m with runs := true, printsFirst := m.prints, prints := false }
      | 'p' =>
        if m.prints || m.printsFirst then refuseWith "multiple `p' options to `s' command"
        manner fuel { m with prints := true }
      | 'g' =>
        if m.isGlobal then refuseWith "multiple `g' options to `s' command"
        manner fuel { m with isGlobal := true }
      | 'w' => return { m with file := some (← fileName) }
      | '\r' =>
        if (← take) == some '\n' then return m else refuseWith "unknown option to `s'"
      | c =>
        if c.isDigit then
          let more ← takeWhile Char.isDigit
          if m.start.isSome then refuseWith "multiple number options to `s' command"
          let n := (Bytes.natural? (c :: more)).getD 0
          if n == 0 then refuseWith "number option to `s' command may not be zero"
          manner fuel { m with start := some n }
        else refuseWith "unknown option to `s'"

/-- The complaint about a group that there is none of. -/
def badReference (n : Nat) : Bytes :=
  "invalid reference \\".toList ++ Bytes.ofNat n ++ " on `s' command's RHS".toList

/-- Complains where the editor must not touch anything. -/
def unconfined : Reading Unit := do
  if (← get).isConfined then refuseWith "e/r/w commands disabled in sandbox mode"

/-- Reads a substitution. -/
def substitution : Reading Action := do
  let complaint := "unterminated `s' command"
  let delimiter ← take
  let pattern ← delimited delimiter .pattern complaint
  let replacement ← delimited delimiter .replacement complaint
  let replacement := Wide.ofBytes (← withoutEscapes .replacement replacement)
  let parts := partsOf .same none (replacement.length + 1) [] replacement
  let m ← manner ((← get).rest.length + 1) ⟨false, false, false, false, false, false, none, none⟩
  let search ← searchOf pattern m.anyCase m.lines
  let groups := search.map fun s => s.regex.groupCount
  match groups, (parts.filterMap Part.group).find? fun n => groups.any (· < n) with
  | some _, some n => refuse (badReference n)
  | _, _ => pure ()
  if m.runs || m.file.isSome then unconfined
  return .substitute
    ⟨search, parts, m.start.getD 1, m.isGlobal, m.printsFirst, m.prints, m.runs, m.file⟩

/-- Reads an exchange of characters. -/
def characterExchange : Reading Action := do
  let complaint := "unterminated `y' command"
  let delimiter ← take
  let source ← delimited delimiter .plain complaint
  let source := bare (Wide.ofBytes (← withoutEscapes .plain source))
  let goal ← delimited delimiter .plain complaint
  let goal := bare (Wide.ofBytes (← withoutEscapes .plain goal))
  if source.length != goal.length then
    refuseWith "strings for `y' command are different lengths"
  finished
  return .exchange (source.zip goal)

/-! ### Instructions -/

/-- An instruction without anything behind it. -/
def simpleAction? (c : Char) : Option Action :=
  match c with
  | '=' => some .printNumber
  | 'd' => some .delete
  | 'D' => some .deleteLine
  | 'F' => some .printName
  | 'g' => some .fetch
  | 'G' => some .fetchMore
  | 'h' => some .keep
  | 'H' => some .keepMore
  | 'n' => some .next
  | 'N' => some .nextMore
  | 'p' => some .print
  | 'P' => some .printLine
  | 'x' => some .swap
  | 'z' => some .empty
  | _ => none

/-- Reads a number that may stand behind an instruction. -/
def optionalNumber : Reading (Option Nat) := do
  skipGaps
  let isThere := (← peek).any Char.isDigit
  let n ← if isThere then some <$> takeNumber else pure none
  finished
  return n

/-- Reads what stands behind the letter of an instruction. -/
def actionOf (c : Char) (hasSecond : Bool) : Reading Action := do
  match simpleAction? c with
  | some action =>
    finished
    return action
  | none =>
    match c with
    | 'a' => return .append (← outputText)
    | 'i' => return .insert (← outputText)
    | 'c' => return .change (← outputText)
    | 'e' =>
      unconfined
      skipGaps
      match ← peek with
      | none | some '\n' => return .run []
      | some _ => return .run (← textBlock [])
    | 'b' | 't' | 'T' =>
      let goal ← label
      if !goal.isEmpty then modify fun d => { d with goals := goal :: d.goals }
      return .jump (if c == 'b' then .always else if c == 't' then .replaced else .unreplaced) goal
    | 'q' | 'Q' =>
      if hasSecond then refuseWith "command only uses one address"
      let status ← optionalNumber
      return .quit (c == 'q') (status.getD 0)
    | 'l' => return .list (← optionalNumber)
    | 'r' =>
      unconfined
      return .readFile (← fileName)
    | 'R' =>
      unconfined
      return .readLine (← fileName)
    | 'w' =>
      unconfined
      return .writeFile (← fileName)
    | 'W' =>
      unconfined
      return .writeLine (← fileName)
    | 's' => substitution
    | 'y' => characterExchange
    | c => refuse ("unknown command: `".toList ++ [c, '\x27'])

/-- Adds an instruction. -/
def push (i : Instruction) : Reading Unit :=
  modify fun d => { d with instructions := d.instructions.push i }

/-- The version of the editor, which scripts may ask for. -/
def version : String :=
  "4.9"

/-- Reads an instruction. -/
def instruction : Reading Unit := do
  let (s, c) ← selection
  match c with
  | none => refuseWith "missing command"
  | some '#' =>
    if s.first.isSome then refuseWith "comments don't accept any addresses"
    let _ ← takeWhile (· != '\n')
  | some ':' =>
    if s.first.isSome then refuseWith ": doesn't want any addresses"
    let name ← label
    if name.isEmpty then refuseWith "\":\" lacks a label"
    modify fun d => { d with labels := (name, d.instructions.size) :: d.labels }
  | some '\x7b' =>
    let d ← get
    let complaint := d.origin.mark 0 d.line ++ "unmatched `\x7b'".toList
    set { d with blocks := (d.instructions.size, complaint) :: d.blocks }
    push ⟨s, .block 0⟩
  | some '\x7d' =>
    match (← get).blocks with
    | [] => refuseWith "unexpected `\x7d'"
    | (start, _) :: blocks =>
      if s.first.isSome then refuseWith "`\x7d' doesn't want any addresses"
      finished
      modify fun d =>
        { d with
          blocks
          instructions := d.instructions.modify start fun i =>
            { i with action := .block d.instructions.size } }
  | some 'v' =>
    let asked ← label
    let isNewer := !asked.isEmpty &&
      Utility.compareVersions (asked.length + 8) version.toList asked == .lt
    if isNewer then refuseWith "expected newer version of sed"
  | some c =>
    let action ← actionOf c s.finish.isSome
    push ⟨s, action⟩

/-- Reads all instructions. -/
def allInstructions : Nat → Reading Unit
  | 0 => return
  | fuel + 1 => do
    let _ ← takeWhile fun c => c == ';' || Bytes.isSpace c
    if (← peek).isSome then
      instruction
      allInstructions fuel
    else if ← nextPiece then allInstructions fuel

/-- The script of some pieces. -/
def Script.read (pieces : List (Origin × Bytes)) (form : Regex.Form) (isQuiet linewise isConfined : Bool) :
    Except Complaint Script := do
  match pieces with
  | [] => return ⟨#[], [], isQuiet⟩
  | (origin, text) :: others =>
    let fuel := pieces.foldl (fun n p => n + p.2.length + 2) 1
    let (_, d) ← (allInstructions fuel).run
      ⟨origin, text, 0, 1, others, #[], [], [], [], form, linewise, isConfined⟩
    match d.blocks, d.goals.find? fun goal => (d.labels.lookup goal).isNone with
    | (_, complaint) :: _, _ => throw ⟨1, complaint⟩
    | _, some goal => throw ⟨4, "can't find label for jump to `".toList ++ goal ++ ['\x27']⟩
    | _, _ => return ⟨d.instructions, d.labels, isQuiet || "#n".toList.isPrefixOf text⟩

end ScriptDeps.Shell.Edit
