/-
The utility that looks for lines in files.

A line is selected if one of the patterns matches in it.  Lines around a selected one are shown
with it where that is asked for; a mark stands between lines that do not follow each other.
-/
import ScriptDeps.Shell.Pattern
import ScriptDeps.Shell.Regex.Reading
import ScriptDeps.Shell.Utility

namespace ScriptDeps.Shell.Utility

/-! ### Patterns -/

/-- How lines are found. -/
structure Finder where
  patterns : List Matcher
  /-- All of the line must match. -/
  whole : Bool
  /-- Words must match. -/
  words : Bool

namespace Finder

/-- The places where a match from a place on can end, the farthest first. -/
def ends (f : Finder) (p : Regex.Place) : List Regex.Place :=
  let found := f.patterns.flatMap fun m =>
    (m.ends p).filter fun q =>
      (!f.whole || q.behind.isEmpty) &&
        (!f.words || (!p.before.head?.any m.mode.isWordChar && !q.behind.head?.any m.mode.isWordChar))
  found.mergeSort fun a b => b.position ≤ a.position

/-- The first match from a place on. -/
def first? (f : Finder) : Nat → Regex.Place → Option (Regex.Place × Regex.Place)
  | 0, _ => none
  | fuel + 1, p =>
    match f.ends p with
    | q :: _ => some (p, q)
    | [] => if f.whole then none else p.next?.bind (f.first? fuel)

def isFound (f : Finder) (line : Bytes) : Bool :=
  (f.first? (line.length + 1) (Regex.Place.ofText line)).isSome

/-- The texts in a line that match and are not empty, each with its place. -/
def all (f : Finder) : Nat → Regex.Place → List (Nat × Bytes)
  | 0, _ => []
  | fuel + 1, p =>
    match f.first? (p.behind.length + 1) p with
    | none => []
    | some (a, b) =>
      if a.position == b.position then b.next?.elim [] (f.all fuel)
      else (a.position, a.until_ b) :: f.all fuel b.fresh

end Finder

/-- The forms that patterns are written in. -/
inductive Writing where
  | basic
  | extended
  | fixed
  deriving DecidableEq

/-- The matcher of a pattern, and the repetitions in it that were skipped. -/
def Writing.read (w : Writing) (anyCase : Bool) (pattern : Bytes) :
    Except Regex.Flaw (Matcher × List Char) :=
  let text := Wide.ofBytes pattern
  let made := fun r => Matcher.wide r anyCase false
  match w with
  | .fixed => .ok (made (Regex.ofBytes text), [])
  | .basic => (Regex.readWith .searched text).map fun (r, skipped) => (made r, skipped)
  | .extended => (Regex.readWith .searchedExtended text).map fun (r, skipped) => (made r, skipped)

/-- The warning that a repetition has nothing in front of it. -/
def skippedWarning (c : Char) : Bytes :=
  "grep: warning: ".toList ++ (if c == '\x7b' then "\x7b...\x7d".toList else [c]) ++
    " at start of expression".toList

/-! ### Lines -/

/-- What is shown of the lines of a file. -/
structure Display where
  /-- The lines that match are left out, and the others are shown. -/
  inverted : Bool
  /-- Only what matches is shown. -/
  matchOnly : Bool
  name : Option Bytes
  nameEnd : Option Char
  numbered : Bool
  offsets : Bool
  tabbed : Bool
  lineEnd : Char
  limit : Option Nat
  before : Nat
  after : Nat
  /-- What stands between lines that do not follow each other, where lines around are shown. -/
  separator : Option Bytes
  /-- Lines are shown even if they are no text. -/
  anyBytes : Bool

/-- A line of a file. -/
structure FoundLine where
  text : Bytes
  number : Nat
  offset : Nat
  selected : Bool

/-- A number filled up to a width, if columns are to be in line. -/
def Display.numeral (d : Display) (n width : Nat) : Bytes :=
  let digits := Bytes.ofNat n
  if d.tabbed then List.replicate (width - digits.length) ' ' ++ digits else digits

/-- What stands in front of a line, with a mark behind each part. -/
def Display.front (d : Display) (mark : Char) (number offset : Nat) : Bytes :=
  let name := d.name.elim [] fun n => n ++ [d.nameEnd.getD mark]
  let number := if d.numbered then d.numeral number 4 ++ [mark] else []
  let offset := if d.offsets then d.numeral offset 6 ++ [mark] else []
  let front := name ++ number ++ offset
  if d.tabbed && !front.isEmpty then front ++ ['\t'] else front

/-- The lines of a file with what the finder says of them. -/
def foundLines (d : Display) (f : Finder) (content : Bytes) : List FoundLine :=
  let pieces := Text.splitOn d.lineEnd content
  let pieces := if pieces.getLast? == some [] then pieces.dropLast else pieces
  (pieces.foldl
    (fun (acc : List FoundLine × Nat × Nat) text =>
      let (lines, number, offset) := acc
      (⟨text, number, offset, f.isFound (Wide.ofBytes text) != d.inverted⟩ :: lines, number + 1,
        offset + text.length + 1)) ([], 1, 0)).1.reverse

/-- A line as it is shown. -/
def Display.line (d : Display) (f : Finder) (l : FoundLine) : Bytes :=
  if d.matchOnly then
    if !l.selected || d.inverted then []
    else
      let text := Wide.ofBytes l.text
      (f.all (text.length + 1) (Regex.Place.ofText text)).flatMap fun (at_, found) =>
        d.front ':' l.number (l.offset + (Wide.toBytes (text.take at_)).length) ++
          Wide.toBytes found ++ [d.lineEnd]
  else d.front (if l.selected then ':' else '-') l.number l.offset ++ l.text ++ [d.lineEnd]

/-- What showing lines has come to. -/
structure Showing where
  shown : Bytes
  count : Nat
  /-- The number of the last line that was shown in this file, or zero. -/
  last : Nat
  /-- The number of lines behind a selected one that are still to be shown. -/
  pending : Nat
  /-- Something was shown, in this file or in one before. -/
  used : Bool
  /-- A line was no text. -/
  hidden : Bool
  /-- No line is looked at any more. -/
  done : Bool
  /-- The lines that were read. -/
  taken : Nat

/-- A line is no text. -/
def isNoText (line : Bytes) : Bool :=
  (Wide.ofBytes line).any Wide.isStray

/-- The showing with a line, unless that is no text. -/
def Showing.with (w : Showing) (d : Display) (f : Finder) (l : FoundLine) : Showing :=
  if !d.anyBytes && isNoText l.text then { w with hidden := true, last := l.number, used := true }
  else { w with shown := w.shown ++ d.line f l, last := l.number, used := true }

/-- The showing behind a line; `earlier` are the lines before it, the nearest first. -/
def Showing.next (w : Showing) (d : Display) (f : Finder) (earlier : List FoundLine) (l : FoundLine) :
    Showing :=
  if w.done then w
  else if d.limit.any (· ≤ w.count) then
    -- Behind the last line that is wanted only those around it are shown.
    if l.selected || w.pending == 0 then { w with done := true }
    else { w.with d f l with pending := w.pending - 1 }
  else if l.selected then
    let around := ((earlier.take d.before).takeWhile fun e => w.last < e.number).reverse
    let first := around.head?.elim l.number FoundLine.number
    let w := match d.separator with
      | some text =>
        if w.used && (w.last == 0 || w.last + 1 != first) then { w with shown := w.shown ++ text ++ ['\n'] }
        else w
      | none => w
    let w := around.foldl (fun w e => w.with d f e) w
    { w.with d f l with count := w.count + 1, pending := d.after, taken := l.number }
  else if 0 < w.pending then { w.with d f l with pending := w.pending - 1 }
  else w

/-- The lines of a file as they are shown. -/
def showLines (d : Display) (f : Finder) (used : Bool) (lines : List FoundLine) : Showing :=
  (lines.foldl
    (fun (acc : Showing × List FoundLine) l => (acc.1.next d f acc.2 l, l :: acc.2))
    (⟨[], 0, 0, 0, used, false, false, 0⟩, [])).1

/-! ### Files -/

/-- The files at and below a place. -/
def filesAt (store : Store) (arg : Bytes) : List Bytes :=
  match store.locate arg.path with
  | .ok loc =>
    let names := (store.filesBelow loc).mergeSort fun a b => !decide (b < a)
    let front := if arg.getLast? == some '/' then arg else arg ++ ['/']
    names.map fun below => front ++ Bytes.ofText (Path.ofNames below).text
  | .error _ => [arg]

/-- The name of a file, without the directories it is in. -/
def bareName (file : Bytes) : Bytes :=
  (file.reverse.takeWhile (· != '/')).reverse

/-- The file has a name that one of some patterns accepts. -/
def isNamedBy (patterns : List Bytes) (file : Bytes) : Bool :=
  patterns.any fun p =>
    Pattern.accepts (Pattern.ofPieces [(p, false)]) (bareName file) ||
      Pattern.accepts (Pattern.ofPieces [(p, false)]) file

/-- The options of the search. -/
def searchOptions : Known :=
  .of "EFGPivcnoqslLhHwxryzaIbTUZu!e:f:m:A:B:C:d:D:X:R0:1:2:3:4::5:67:8:9"
    ("extended-regexp=E fixed-strings=F fixed-regexp=F basic-regexp=G perl-regexp=P regexp=e file=f " ++
      "ignore-case=i no-ignore-case=9 word-regexp=w line-regexp=x null-data=z no-messages=s " ++
      "invert-match=v version=! help=! max-count=m byte-offset=b line-number=n line-buffered=u " ++
      "with-filename=H no-filename=h label=0 only-matching=o quiet=q silent=q binary-files=1 " ++
      "text=a directories=d devices=D recursive=r dereference-recursive=R include=2 exclude=3 " ++
      "exclude-from=5 exclude-dir=7 files-without-match=L files-with-matches=l count=c " ++
      "initial-tab=T null=Z before-context=B after-context=A context=C group-separator=8 " ++
      "no-group-separator=6 color=4 colour=4 binary=U")

/-- The arguments with a number of lines as the value of an option. -/
def numbersAsContext (args : List Bytes) : List Bytes :=
  let front := args.takeWhile (· != ['-', '-'])
  (front.map fun
    | '-' :: c :: digits => if (c :: digits).all Char.isDigit then '-' :: 'C' :: c :: digits
        else '-' :: c :: digits
    | arg => arg) ++ args.drop front.length

/-- The patterns of the search and the other arguments, or the state after a complaint. -/
def searchPatterns (o : Options) (s : State) : Except State (List Bytes × List Bytes × State) :=
  let split := Text.splitOn '\n'
  let step := fun (acc : Except State (List Bytes × State)) (c, v) =>
    acc.bind fun (patterns, s) =>
      if c == 'e' then .ok (patterns ++ split v, s)
      else if c == 'f' then
        match contentOf "grep" s v with
        | (s, some content) => .ok (patterns ++ (Bytes.lines content).map bare, s)
        | (s, none) => .error s
      else .ok (patterns, s)
  if o.has 'e' || o.has 'f' then
    (o.given.foldl step (.ok ([], s))).map fun (patterns, s) => (patterns, o.args, s)
  else
    match o.args with
    | p :: files => .ok (split p, files, s)
    | [] => .error (s.failed 2 ((advice "grep").drop 1))

/-- How much is read at once. -/
def searchBlock : Nat :=
  98304

/-- What the search does with one file. -/
structure Searching where
  finder : Finder
  display : Display
  options : Options
  inputName : Bytes

/-- The search of the content of a file: the state behind it, whether something was shown before, and
the number of lines that were found. -/
def Searching.content (q : Searching) (several : Bool) (used : Bool) (arg b : Bytes) (s : State) :
    State × Bool × Nat :=
  let o := q.options
  let name := if arg == ['-'] then q.inputName else arg
  let d := { q.display with name := if several then some name else none }
  let isBinary := b.contains '\x00' && !o.has 'a' && !o.has 'z'
  if isBinary && o.has 'I' then (if arg == ['-'] then s.drained else s, used, 0)
  else
    let isQuiet := o.has 'q' || o.has 'l' || o.has 'L' || o.has 'c'
    let isBrief := o.has 'q' || o.has 'l' || o.has 'L'
    let d := if isBrief then { d with limit := some (d.limit.elim 1 (min 1)) } else d
    let d := if isQuiet then { d with before := 0, after := 0, separator := none } else d
    let w := showLines d q.finder used (foundLines d q.finder b)
    -- What is not read is left to others.
    let s := if arg != ['-'] then s
      else if d.limit.any (· ≤ w.count) then
        let taken := ((Text.splitOn d.lineEnd b).take w.taken).map fun line => line.length + 1
        s.readAt 0 (taken.foldl (· + ·) 0) searchBlock (!isBrief)
      else s.drained
    let ending := [d.nameEnd.getD '\n']
    let s := if o.has 'q' then s
      else
        let counted := if !o.has 'c' then []
          else d.name.elim [] (fun n => n ++ [d.nameEnd.getD ':']) ++ Bytes.ofNat w.count ++ ['\n']
        let listed := if (o.has 'l' && 0 < w.count) || (o.has 'L' && !o.has 'l' && w.count == 0) then
            name ++ ending
          else []
        if isQuiet then s.say (counted ++ listed)
        else if isBinary then s
        else s.say w.shown
    let s := if !isQuiet && ((isBinary && 0 < w.count && !o.has 'o') || (isBinary && 0 < w.count) || w.hidden)
      then s.complain ("grep: ".toList ++ name ++ ": binary file matches".toList)
      else s
    (s, if isQuiet || isBinary then used else w.used, w.count)

/-- The search of files, as far as it has come. -/
structure Searched where
  state : State
  used : Bool
  found : Bool
  failed : Bool

/-- The search of one more file. -/
def Searching.file (q : Searching) (several : Bool) (w : Searched) (arg : Bytes) : Searched :=
  let o := q.options
  if o.has 'q' && w.found then w
  else if o.value? 'd' == some "skip".toList && arg != ['-'] && w.state.isDir arg.path then w
  else
    match contentUpTo "grep" searchBlock (fun _ => some 0) w.state arg with
    | (s, none) => { w with state := if o.has 's' then w.state else s, failed := true }
    | (s, some b) =>
      let (s, used, count) := q.content several w.used arg b s
      { w with state := s, used, found := w.found || 0 < count }

/-- The search of a file or of all files below a directory. -/
def Searching.tree (q : Searching) (several : Option Bool) (isNamed : Bool) (w : Searched) (arg : Bytes) :
    Searched :=
  let o := q.options
  let s := w.state
  if arg != ['-'] && s.isDir arg.path then
    let files := filesAt (s.copied false) arg
    let files := if isNamed then files else files.map fun f => f.drop 2
    let below := fun (f : Bytes) => f.drop (if isNamed then arg.length else 0)
    let kept := files.filter fun f =>
      let dirs := (Text.splitOn '/' (below f)).dropLast
      (!o.has '2' || isNamedBy (o.values '2') f) && !isNamedBy (o.values '3') f &&
        !dirs.any fun dir => isNamedBy (o.values '7') dir
    kept.foldl (q.file (several.getD true)) w
  else q.file (several.getD false) w arg

/-- The writing of patterns that the options ask for, or nothing if they ask for several. -/
def writing? (o : Options) : Option Writing :=
  let asked := (o.given.map Prod.fst).filter ['E', 'F', 'G', 'P'].contains
  match asked.head? with
  | none => some .basic
  | some c =>
    if asked.any (· != c) then none
    else some (if c == 'F' then .fixed else if c == 'E' || c == 'P' then .extended else .basic)

/-- The first complaint about the values of options. -/
def searchMisuse? (o : Options) : Option Bytes :=
  let around := o.given.find? fun (c, v) =>
    ['A', 'B', 'C'].contains c && (Bytes.natural? v).isNone
  let isNumber := fun (v : Bytes) =>
    (Bytes.natural? v).isSome || (v.head? == some '-' && (Bytes.natural? v.tail).isSome)
  if let some (_, v) := around then some (v ++ ": invalid context length argument".toList)
  else if (o.values 'm').any (!isNumber ·) then some "invalid max count".toList
  else if (o.values '1').any fun v => !(["binary", "text", "without-match"].contains (String.ofList v)) then
    some "unknown binary-files type".toList
  else if (writing? o).isNone then some "conflicting matchers specified".toList
  else none

/-- The options in their plainest form. -/
def plainSearch (o : Options) : Options :=
  { o with given := o.given.map fun (c, v) =>
      if c == '1' then (if v == "text".toList then 'a' else if v == "without-match".toList then 'I' else 'U', v)
      else if c == 'y' then ('i', v)
      else if c == 'R' || (c == 'd' && v == "recurse".toList) then ('r', v)
      else (c, v) }

/-- What is shown under the options. -/
def searchDisplay (o : Options) : Display :=
  let number := fun c => (o.value? c).bind Bytes.natural?
  let around := number 'C'
  let hasContext := o.has 'A' || o.has 'B' || o.has 'C'
  { inverted := o.has 'v'
    matchOnly := o.has 'o'
    name := none
    nameEnd := if o.has 'Z' then some '\x00' else none
    numbered := o.has 'n'
    offsets := o.has 'b'
    tabbed := o.has 'T'
    lineEnd := if o.has 'z' then '\x00' else '\n'
    limit := (o.value? 'm').bind Bytes.natural?
    before := ((number 'B').or around).getD 0
    after := ((number 'A').or around).getD 0
    separator := if hasContext && !o.has '6' then some ((o.value? '8').getD ['-', '-']) else none
    anyBytes := o.has 'a' || o.has 'z' }

/-- Looks for lines in files. -/
def search (args : List Bytes) (s : State) : State :=
  withOptions "grep" searchOptions (numbersAsContext args) s fun o =>
    let o := plainSearch o
    match searchMisuse? o, searchPatterns o (s.done 0) with
    | some text, _ => s.failed 2 ("grep: ".toList ++ text)
    | none, .error s => s
    | none, .ok (patterns, files, s) =>
      let anyCase := o.last? ['i', '9'] == some 'i'
      match patterns.mapM ((writing? o).getD .basic |>.read anyCase) with
      | .error flaw => s.failed 2 ("grep: ".toList ++ flaw.wording)
      | .ok read =>
        let s := (read.flatMap Prod.snd).foldl (fun s c => s.complain (skippedWarning c)) s
        let q : Searching :=
          ⟨⟨read.map Prod.fst, o.has 'x', o.has 'w'⟩, searchDisplay o, o,
            (o.value? '0').getD "(standard input)".toList⟩
        let isNamed := !files.isEmpty
        let files := if isNamed then files else if o.has 'r' then [['.']] else [['-']]
        let several := match o.last? ['h', 'H'] with
          | some 'h' => some false
          | some _ => some true
          | none => if 1 < files.length then some true else if o.has 'r' then none else some false
        if q.display.limit == some 0 && !o.has 'L' then s.done 1
        else
          let step := if o.has 'r' then q.tree several isNamed else q.file (several.getD false)
          let w := files.foldl step ⟨s.done 0, false, false, false⟩
          if w.failed && !(o.has 'q' && w.found) then w.state.done 2
          else w.state.done (if w.found then 0 else 1)

end ScriptDeps.Shell.Utility
