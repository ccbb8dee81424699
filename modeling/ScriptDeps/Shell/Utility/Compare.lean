/-
The utilities that compare files.
-/
import ScriptDeps.Shell.Difference
import ScriptDeps.Shell.Pattern
import ScriptDeps.Shell.Utility

namespace ScriptDeps.Shell.Utility

/-! ### Byte by byte -/

/-- The first place where two texts differ, and the line it is on; nothing but the place and the line
if one of them ends there. -/
def difference : Nat → Nat → Bytes → Bytes → Option (Nat × Nat × Option (Char × Char))
  | _, _, [], [] => none
  | n, line, a :: s, b :: t =>
    if a == b then difference (n + 1) (if a == '\n' then line + 1 else line) s t
    else some (n, line, some (a, b))
  | n, line, _, _ => some (n, line, none)

/-- All places where two texts differ. -/
def differences : Nat → Bytes → Bytes → List (Nat × Char × Char)
  | n, a :: s, b :: t =>
    if a == b then differences (n + 1) s t else (n, a, b) :: differences (n + 1) s t
  | _, _, _ => []

/-- A byte in octal digits, filled up to three places. -/
def octalByte (c : Char) : Bytes :=
  let digits := Nat.toDigits 8 c.toNat
  List.replicate (3 - digits.length) ' ' ++ digits

/-- A byte as it can be seen. -/
def visibleByte (c : Char) : Bytes :=
  let n := c.toNat
  let (mark, n) := if 128 ≤ n then ("M-".toList, n - 128) else ([], n)
  mark ++ (if n < 32 then ['^', Char.ofNat (n + 64)] else if n == 127 then ['^', '?'] else [Char.ofNat n])

/-- A number of bytes with the letters of its unit. -/
def byteCount? (b : Bytes) : Option Nat :=
  let (digits, letters) := b.span Char.isDigit
  (Bytes.natural? digits).bind fun n =>
    match String.ofList letters with
    | "" => some n
    | "kB" => some (n * 1000)
    | "K" | "k" | "KiB" => some (n * 1024)
    | "MB" => some (n * 1000000)
    | "M" | "MiB" => some (n * 1048576)
    | "GB" => some (n * 1000000000)
    | "G" | "GiB" => some (n * 1073741824)
    | _ => none

/-- The numbers of bytes that are passed over in two files. -/
def skips? (value : Bytes) : Option (Nat × Nat) :=
  match Text.splitOn ':' value with
  | [n] => (byteCount? n).map fun n => (n, n)
  | [m, n] => (byteCount? m).bind fun m => (byteCount? n).map fun n => (m, n)
  | _ => none

/-- The state after a complaint about how files were to be compared. -/
def miscompared (name : String) (text : Bytes) (s : State) : State :=
  s.failed 2 (name.toList ++ ": ".toList ++ text ++ advice name)

/-- The complaint that a file to compare is missing, behind the last argument. -/
def lacking (name : String) (args operands : List Bytes) (s : State) : State :=
  let last := (operands.getLast?.orElse fun _ => args.getLast?).getD (s.nameOf name)
  miscompared name ("missing operand after '".toList ++ last ++ ['\x27']) s

/-- What is told of two texts that differ. -/
def unlike (o : Options) (a b : Bytes) (x y : Bytes) (s : State) : State :=
  let ended := fun (withLine : Bool) =>
    let (short, text) := if x.length < y.length then (a, x) else (b, y)
    let place := " after byte ".toList ++ Bytes.ofNat text.length
    let lines := text.count '\n'
    let line := if !withLine then []
      else if text.getLast? == some '\n' then ", line ".toList ++ Bytes.ofNat lines
      else ", in line ".toList ++ Bytes.ofNat (lines + 1)
    s.complainPlainly ("cmp: EOF on ".toList ++ short ++
      (if text.isEmpty then " which is empty".toList else place ++ line))
  if o.has 's' then s.done 1
  else if o.has 'l' then
    let width := (Bytes.ofNat (max x.length y.length)).length
    let rows := (differences 1 x y).flatMap fun (n, c, d) =>
      let digits := Bytes.ofNat n
      let seen := fun (c : Char) (fill : Nat) =>
        if !o.has 'b' then []
        else ' ' :: visibleByte c ++ List.replicate (fill - (visibleByte c).length) ' '
      List.replicate (width - digits.length) ' ' ++ digits ++ ' ' :: octalByte c ++ seen c 4 ++
        ' ' :: octalByte d ++ seen d 0 ++ ['\n']
    let s := s.say rows
    if x.length != y.length then
      let (short, text) := if x.length < y.length then (a, x) else (b, y)
      (s.complainPlainly ("cmp: EOF on ".toList ++ short ++
        (if text.isEmpty then " which is empty".toList
          else " after byte ".toList ++ Bytes.ofNat text.length))).done 1
    else s.done 1
  else
    match difference 1 1 x y with
    | some (n, line, some (c, d)) =>
      let bytes := if !o.has 'b' then []
        else " is ".toList ++ octalByte c ++ ' ' :: visibleByte c ++ ' ' :: octalByte d ++
          ' ' :: visibleByte d
      (s.say (a ++ ' ' :: b ++ " differ: byte ".toList ++ Bytes.ofNat n ++ ", line ".toList ++
        Bytes.ofNat line ++ bytes ++ ['\n'])).done 1
    | _ => (ended true).done 1

/-- Compares two files byte by byte. -/
def compareFiles (args : List Bytes) (s : State) : State :=
  let known : Known := .of "bi:ln:sv"
    "print-bytes=b ignore-initial=i verbose=l bytes=n quiet=s silent=s version=! help=!"
  withOptions "cmp" known args s fun o =>
    let badSkip := (o.values 'i').find? fun v => (skips? v).isNone
    let badLimit := (o.values 'n').find? fun v => (byteCount? v).isNone
    match badSkip, badLimit, o.args with
    | some v, _, _ => miscompared "cmp" ("invalid --ignore-initial value '".toList ++ v ++ ['\x27']) s
    | none, some v, _ => miscompared "cmp" ("invalid --bytes value '".toList ++ v ++ ['\x27']) s
    | none, none, [] => lacking "cmp" args o.args s
    | none, none, _ :: _ :: _ :: _ :: extra :: _ =>
      miscompared "cmp" ("extra operand '".toList ++ extra ++ ['\x27']) s
    | none, none, a :: rest =>
      let b := rest.headD ['-']
      let skips := rest.drop 1
      match skips.find? fun v => (byteCount? v).isNone with
      | some v => miscompared "cmp" ("invalid --ignore-initial value '".toList ++ v ++ ['\x27']) s
      | none =>
        let (i, j) := ((o.value? 'i').bind skips?).getD (0, 0)
        let i := ((skips[0]?).bind byteCount?).getD i
        let j := ((skips[1]?).bind byteCount?).getD j
        let refused := fun (s s' : State) => if o.has 's' then s.done 2 else s'
        if a == b then s.done 0
        else
          match contentOf "cmp" s a with
          | (s', none) => refused s s'
          | (s, some x) =>
            match contentOf "cmp" s b with
            | (s', none) => refused s s'
            | (s, some y) =>
              let cut := fun (text : Bytes) => ((o.value? 'n').bind byteCount?).elim text text.take
              let x := cut (x.drop i)
              let y := cut (y.drop j)
              if x == y then s.done 0 else unlike o a b x y s

/-! ### Line by line -/

/-- How the lines of two files are compared, and how their differences are shown. -/
inductive Layout where
  | normal
  | unified (around : Nat)
  | context (around : Nat)
  | script
  | forwardScript
  | counted
  | brief
  | columns
  deriving DecidableEq

/-- A line without what the options say to pass over. -/
def comparedLine (o : Options) (line : Bytes) : Bytes :=
  let isBlank := fun (c : Char) => Bytes.isSpace c
  let ignoresEnd := o.has 'w' || o.has 'b' || o.has 'Z'
  let text := if ignoresEnd then bare line else line
  let text := if o.has '0' then
      if text.reverse.take 2 == ['\n', '\r'] then text.dropLast.dropLast ++ ['\n'] else text
    else text
  let text := if o.has 'i' then text.map Char.toLower else text
  if o.has 'w' then text.filter (!isBlank ·)
  else if o.has 'b' then
    let rec squeezed : Bytes → Bytes
      | [] => []
      | c :: rest =>
        if isBlank c then
          match squeezed rest with
          | ' ' :: more => ' ' :: more
          | more => ' ' :: more
        else c :: squeezed rest
    ((squeezed text).reverse.dropWhile (· == ' ')).reverse
  else if o.has 'Z' then (text.reverse.dropWhile isBlank).reverse
  else text

/-- The changes between two lists of lines. -/
def lineChanges (o : Options) (xs ys : List Bytes) : List Difference.Change :=
  let keysX := xs.map (comparedLine o)
  let keysY := ys.map (comparedLine o)
  let all := (keysX ++ keysY).eraseDups
  let number := fun (key : Bytes) => (all.idxOf? key).getD 0
  let found := Difference.changes (keysX.map number) (keysY.map number)
  if o.has 'B' then
    found.filter fun c =>
      !(((xs.drop c.from_).take c.dropped).all (bare · == []) &&
        ((ys.drop c.to_).take c.added).all (bare · == []))
  else found

/-- A line behind a mark; one without an end is told to have none. -/
def markedLine (mark : Bytes) (line : Bytes) : Bytes :=
  if line.getLast? == some '\n' then mark ++ line
  else mark ++ line ++ "\n\\ No newline at end of file\n".toList

/-- A range of lines as two numbers, or as one if it has only one line. -/
def numberRange (from_ count : Nat) : Bytes :=
  if count ≤ 1 then Bytes.ofNat (from_ + count)
  else Bytes.ofNat (from_ + 1) ++ ',' :: Bytes.ofNat (from_ + count)

def normalChange (xs ys : List Bytes) (c : Difference.Change) : Bytes :=
  let letter := if c.dropped == 0 then 'a' else if c.added == 0 then 'd' else 'c'
  numberRange c.from_ c.dropped ++ letter :: numberRange c.to_ c.added ++ ['\n'] ++
    (((xs.drop c.from_).take c.dropped).flatMap (markedLine ['<', ' '])) ++
    (if letter == 'c' then "---\n".toList else []) ++
    (((ys.drop c.to_).take c.added).flatMap (markedLine ['>', ' ']))

/-- The changes in groups that have few lines between them. -/
def hunks (around : Nat) : List Difference.Change → List (List Difference.Change)
  | [] => []
  | c :: rest =>
    match hunks around rest with
    | (next :: more) :: others =>
      if next.from_ - (c.from_ + c.dropped) ≤ 2 * around then (c :: next :: more) :: others
      else [c] :: (next :: more) :: others
    | others => [c] :: others

/-- The lines that a group of changes and those around it have in both files: from where on, and how
many. -/
def hunkRange (around total : Nat) (first last : Nat × Nat) : Nat × Nat :=
  let start := first.1 - around
  (start, min total (last.1 + last.2 + around) - start)

/-- A range in the head of a group in the unified form. -/
def unifiedRange (start count : Nat) : Bytes :=
  if count == 0 then Bytes.ofNat start ++ ",0".toList
  else if count == 1 then Bytes.ofNat (start + 1)
  else Bytes.ofNat (start + 1) ++ ',' :: Bytes.ofNat count

/-- The lines of a group in the unified form from a place in the first file on. -/
def unifiedLines (xs ys : List Bytes) (stop : Nat) : Nat → List Difference.Change → Bytes
  | i, [] => ((xs.drop i).take (stop - i)).flatMap (markedLine [' '])
  | i, c :: rest =>
    ((xs.drop i).take (c.from_ - i)).flatMap (markedLine [' ']) ++
      ((xs.drop c.from_).take c.dropped).flatMap (markedLine ['-']) ++
      ((ys.drop c.to_).take c.added).flatMap (markedLine ['+']) ++
      unifiedLines xs ys stop (c.from_ + c.dropped) rest

/-- The first and the last change of a group as ranges of the first file, and those of the second. -/
def hunkEnds (h : List Difference.Change) : ((Nat × Nat) × (Nat × Nat)) × (Nat × Nat) × (Nat × Nat) :=
  let none_ : Difference.Change := ⟨0, 0, 0, 0⟩
  let a := h.head?.getD none_
  let b := h.getLast?.getD none_
  (((a.from_, a.dropped), (b.from_, b.dropped)), ((a.to_, a.added), (b.to_, b.added)))

def unifiedHunk (around : Nat) (xs ys : List Bytes) (h : List Difference.Change) : Bytes :=
  let ((fx, lx), (fy, ly)) := hunkEnds h
  let (i, m) := hunkRange around xs.length fx lx
  let (j, n) := hunkRange around ys.length fy ly
  "@@ -".toList ++ unifiedRange i m ++ " +".toList ++ unifiedRange j n ++ " @@\n".toList ++
    unifiedLines xs ys (i + m) i h

/-- A range in the head of one half of a group in the form with context. -/
def contextRange (start count : Nat) : Bytes :=
  if count ≤ 1 then Bytes.ofNat (start + count)
  else Bytes.ofNat (start + 1) ++ ',' :: Bytes.ofNat (start + count)

/-- One half of a group in the form with context. -/
def contextHalf (lines : List Bytes) (mark : Char) (stop : Nat) :
    Nat → List (Nat × Nat × Nat) → Bytes
  | i, [] => ((lines.drop i).take (stop - i)).flatMap (markedLine [' ', ' '])
  | i, (from_, count, other) :: rest =>
    ((lines.drop i).take (from_ - i)).flatMap (markedLine [' ', ' ']) ++
      ((lines.drop from_).take count).flatMap
        (markedLine [if 0 < count && 0 < other then '!' else mark, ' ']) ++
      contextHalf lines mark stop (from_ + count) rest

def contextHunk (around : Nat) (xs ys : List Bytes) (h : List Difference.Change) : Bytes :=
  let ((fx, lx), (fy, ly)) := hunkEnds h
  let (i, m) := hunkRange around xs.length fx lx
  let (j, n) := hunkRange around ys.length fy ly
  "***************\n*** ".toList ++ contextRange i m ++ " ****\n".toList ++
    (if h.all (·.dropped == 0) then []
      else contextHalf xs '-' (i + m) i (h.map fun c => (c.from_, c.dropped, c.added))) ++
    "--- ".toList ++ contextRange j n ++ " ----\n".toList ++
    (if h.all (·.added == 0) then []
      else contextHalf ys '+' (j + n) j (h.map fun c => (c.to_, c.added, c.dropped)))

/-- The lines of a change as an editor takes them. -/
def insertedLines (ys : List Bytes) (c : Difference.Change) : Bytes :=
  ((ys.drop c.to_).take c.added).flatMap fun line => ended line

def scriptChange (ys : List Bytes) (c : Difference.Change) : Bytes :=
  let letter := if c.dropped == 0 then 'a' else if c.added == 0 then 'd' else 'c'
  numberRange c.from_ c.dropped ++ letter :: '\n' ::
    (if letter == 'd' then [] else insertedLines ys c ++ ".\n".toList)

def forwardChange (ys : List Bytes) (c : Difference.Change) : Bytes :=
  let letter := if c.dropped == 0 then 'a' else if c.added == 0 then 'd' else 'c'
  let range := if c.dropped ≤ 1 then Bytes.ofNat (c.from_ + c.dropped)
    else Bytes.ofNat (c.from_ + 1) ++ ' ' :: Bytes.ofNat (c.from_ + c.dropped)
  letter :: range ++ '\n' :: (if letter == 'd' then [] else insertedLines ys c ++ ".\n".toList)

def countedChange (ys : List Bytes) (c : Difference.Change) : Bytes :=
  (if c.dropped == 0 then []
    else 'd' :: Bytes.ofNat (c.from_ + 1) ++ ' ' :: Bytes.ofNat c.dropped ++ ['\n']) ++
  (if c.added == 0 then []
    else 'a' :: Bytes.ofNat (c.from_ + c.dropped) ++ ' ' :: Bytes.ofNat c.added ++ '\n' ::
      ((ys.drop c.to_).take c.added).flatten)

/-! ### Side by side -/

/-- The text of a cell, with tabs filled up, cut to a width, and the width that it takes. -/
def cell (width : Nat) (line : Bytes) : Bytes × Nat :=
  let (shown, column) := (bare line).foldl
    (fun (acc : Bytes × Nat) c =>
      if width ≤ acc.2 then acc
      else if c == '\t' then
        let fill := 8 - acc.2 % 8
        if width < acc.2 + fill then (acc.1, width) else (acc.1 ++ List.replicate fill ' ', acc.2 + fill)
      else (acc.1 ++ [c], acc.2 + (if c.toNat / 64 == 2 then 0 else 1))) ([], 0)
  (shown, column)

/-- The tabs and spaces from one column to another. -/
def tabbed : Nat → Nat → Nat → Bytes
  | 0, _, _ => []
  | fuel + 1, start, stop =>
    let next := start + 8 - start % 8
    if stop ≤ start then []
    else if next ≤ stop then '\t' :: tabbed fuel next stop
    else List.replicate (stop - start) ' '

/-- One row of two columns. -/
def row (width : Nat) (mark : Char) (x y : Option Bytes) : Bytes :=
  let second := ((width + 11) / 2) / 8 * 8
  let half := min (second - 3) (width - second)
  let second := if half == 0 then width else second
  let isEnded := fun (line : Option Bytes) => line.any fun line => line.getLast? == some '\n'
  let (left, column) := x.elim ([], 0) (cell half)
  let mark := if mark == '|' && isEnded x != isEnded y then if isEnded x then '/' else '\\' else mark
  let stop := (half + second - 1) / 2
  let (marked, column) := if mark == ' ' then (left, column)
    else (left ++ tabbed width column stop ++ [mark], max column stop + 1)
  let text := match y with
    | some line =>
      if bare line == [] then marked else marked ++ tabbed width column second ++ (cell half line).1
    | none => marked
  text ++ (if isEnded x || isEnded y then ['\n'] else [])

/-- The rows of two files side by side. -/
def rows (o : Options) (xs ys : List Bytes) : Nat → Nat → List Difference.Change → Bytes
  | i, j, changes =>
    let width := ((o.value? 'W').bind Bytes.natural?).getD 130
    let same := fun (i j n : Nat) =>
      if o.has '3' then []
      else (List.range n).flatMap fun k => row width ' ' (xs[i + k]?) (ys[j + k]?)
    match changes with
    | [] => same i j (xs.length - i)
    | c :: rest =>
      let both := min c.dropped c.added
      same i j (c.from_ - i) ++
        ((List.range both).flatMap fun k => row width '|' (xs[c.from_ + k]?) (ys[c.to_ + k]?)) ++
        ((List.range (c.dropped - both)).flatMap fun k =>
          row width '<' (xs[c.from_ + both + k]?) none) ++
        ((List.range (c.added - both)).flatMap fun k =>
          row width '>' none (ys[c.to_ + both + k]?)) ++
        rows o xs ys (c.from_ + c.dropped) (c.to_ + c.added) rest

/-! ### Files and directories -/

/-- The layout that the options ask for, or nothing if they ask for two. -/
def layout? (o : Options) : Option Layout :=
  let around := fun (v : Bytes) => (Bytes.natural? v).getD 3
  let asked := o.given.filterMap fun (c, v) =>
    match c with
    | 'u' => some (Layout.unified 3)
    | 'U' => some (.unified (around v))
    | 'c' => some (.context 3)
    | 'C' => some (.context (around v))
    | 'e' => some .script
    | 'f' => some .forwardScript
    | 'n' => some .counted
    | 'y' => some .columns
    | '1' => some .normal
    | _ => none
  let kind : Layout → Nat
    | .unified _ => 1
    | .context _ => 2
    | .script => 3
    | .forwardScript => 4
    | .counted => 5
    | .columns => 6
    | _ => 0
  match asked with
  | [] => some .normal
  | l :: rest => if rest.any (kind · != kind l) then none else some ((rest.getLast?).getD l)

/-- The time that files are shown with. -/
def shownTime : Bytes :=
  "\t1970-01-01 00:00:00.000000000 +0000".toList

/-- The two lines in front of groups with lines around them. -/
def heads (o : Options) (first second : Bytes) (a b : Bytes) : Bytes :=
  let labels := o.values 'L'
  first ++ ' ' :: (labels[0]?).getD (a ++ shownTime) ++ '\n' ::
    second ++ ' ' :: (labels[1]?).getD (b ++ shownTime) ++ ['\n']

/-- What is shown of two texts that differ, and the files whose last line has no end where that
cannot be told. -/
def shownChanges (o : Options) (layout : Layout) (a b : Bytes) (xs ys : List Bytes)
    (found : List Difference.Change) : Bytes :=
  match layout with
  | .normal | .brief => found.flatMap (normalChange xs ys)
  | .unified n => heads o "---".toList "+++".toList a b ++ (hunks n found).flatMap (unifiedHunk n xs ys)
  | .context n => heads o "***".toList "---".toList a b ++ (hunks n found).flatMap (contextHunk n xs ys)
  | .script => found.reverse.flatMap (scriptChange ys)
  | .forwardScript => found.flatMap (forwardChange ys)
  | .counted => found.flatMap (countedChange ys)
  | .columns => rows o xs ys 0 0 found

/-- The comparison of files as far as it has come: the state and the worst status. -/
structure Compared where
  state : State
  status : Nat

def Compared.worse (w : Compared) (status : Nat) : Compared :=
  { w with status := max w.status status }

/-- The comparison of two texts. -/
def compareTexts (o : Options) (layout : Layout) (head : Bytes) (a b x y : Bytes) (w : Compared) :
    Compared :=
  let same := if o.has 's' then
      { w with state := w.state.say ("Files ".toList ++ a ++ " and ".toList ++ b ++
        " are identical\n".toList) }
    else w
  let isBinary := (x.contains '\x00' || y.contains '\x00') && !o.has 'a'
  if x == y && layout != .columns then same
  else if isBinary then
    { w with state := w.state.say ((if o.has 'q' then "Files ".toList else "Binary files ".toList) ++
      a ++ " and ".toList ++ b ++ " differ\n".toList) }.worse 1
  else
    let xs := Bytes.lines x
    let ys := Bytes.lines y
    let found := lineChanges o xs ys
    if found.isEmpty && layout != .columns then same
    else if o.has 'q' && !found.isEmpty then
      { w with state := w.state.say ("Files ".toList ++ a ++ " and ".toList ++ b ++
        " differ\n".toList) }.worse 1
    else
      let s := w.state.say ((if found.isEmpty then [] else head) ++ shownChanges o layout a b xs ys found)
      let unended := if layout == .script || layout == .forwardScript then
          (if x.getLast?.any (· != '\n') then [a] else []) ++
            (if y.getLast?.any (· != '\n') then [b] else [])
        else []
      let s := unended.foldl
        (fun s file => s.complain ("diff: ".toList ++ file ++ ": No newline at end of file\n".toList)) s
      ({ w with state := s }.worse (if found.isEmpty then 0 else 1)).worse
        (if unended.isEmpty then 0 else 2)

/-- The path of a name in a directory. -/
def below (dir name : Bytes) : Bytes :=
  if dir.getLast? == some '/' then dir ++ name else dir ++ '/' :: name

/-- The content of a file, or nothing where there is none and that counts as an empty one. -/
def comparedContent (mayLack : Bool) (arg : Bytes) (w : Compared) : Compared × Option Bytes :=
  let s := w.state
  if arg != ['-'] && mayLack && (s.lookup arg.path).toOption.isNone then (w, some [])
  else
    match contentOf "diff" s arg with
    | (s, some b) => ({ w with state := s }, some b)
    | (s, none) => ({ w with state := s }.worse 2, none)

/-- The names in a directory. -/
def namesBelow (s : State) (dir : Bytes) : List Bytes :=
  match s.locate true dir.path with
  | .ok loc => (s.copied true).namesIn loc |>.map Bytes.ofText
  | .error _ => []

/-- The comparison of two files or directories. -/
def compareItems (o : Options) (layout : Layout) (head : Bytes) (isTop : Bool) :
    Nat → Bytes → Bytes → Compared → Compared
  | 0, _, _, w => w
  | fuel + 1, a, b, w =>
    let s := w.state
    let isDir := fun (arg : Bytes) => arg != ['-'] && s.isDir arg.path
    if isDir a && isDir b then
      if !isTop && !o.has 'r' then
        { w with state := s.say ("Common subdirectories: ".toList ++ a ++ " and ".toList ++ b ++ ['\n']) }
      else
        let inA := namesBelow s a
        let inB := namesBelow s b
        let names := ((inA ++ inB.filter (!inA.contains ·)).mergeSort fun x y => !Bytes.isBefore y x)
        let names := names.filter fun name =>
          !(o.values 'x').any fun p => Pattern.accepts (Pattern.ofPieces [(p, false)]) name
        names.foldl
          (fun w name =>
            let only := fun (dir : Bytes) =>
              { w with state := w.state.say ("Only in ".toList ++ dir ++ ": ".toList ++ name ++ ['\n']) }.worse 1
            if !inB.contains name && !o.has 'N' then only a
            else if !inA.contains name && !o.has 'N' && !o.has '5' then only b
            else compareItems o layout head false fuel (below a name) (below b name) w) w
    else if isDir a && isTop && b != ['-'] then
      compareItems o layout head false fuel (below a ((b.reverse.takeWhile (· != '/')).reverse)) b w
    else if isDir b && isTop && a != ['-'] then
      compareItems o layout head false fuel a (below b ((a.reverse.takeWhile (· != '/')).reverse)) w
    else if isDir a || isDir b then
      let kind := fun (arg : Bytes) => if isDir arg then "directory".toList
        else if (contentOf "diff" s arg).2 == some [] then "regular empty file".toList
        else "regular file".toList
      { w with state := s.say ("File ".toList ++ a ++ " is a ".toList ++ kind a ++ " while file ".toList ++
          b ++ " is a ".toList ++ kind b ++ ['\n']) }.worse 1
    else
      let isLacking := fun (arg : Bytes) =>
        arg != ['-'] && (s.lookup arg.path).toOption.isNone
      let (w, x) := comparedContent (o.has 'N' && !isLacking b) a w
      let (w, y) := comparedContent ((o.has 'N' || o.has '5') && !isLacking a) b w
      match x, y with
      | some x, some y =>
        let y := if a == b then x else y
        let title := if isTop || o.has 'q' then []
          else head ++ ' ' :: a ++ ' ' :: b ++ ['\n']
        compareTexts o layout title a b x y w
      | _, _ => w

/-- Compares two files line by line. -/
def diff (args : List Bytes) (s : State) : State :=
  let known : Known := .of
    ("abBcC:dD:eEfF:hHiI:lL:nNpPqrsS:tTuU:vwW:x:X:yZ012:345" ++ "6:7:8::9")
    ("text=a ignore-space-change=b ignore-blank-lines=B context=C minimal=d ifdef=D ed=e " ++
      "ignore-tab-expansion=E forward-ed=f show-function-line=F speed-large-files=H ignore-case=i " ++
      "ignore-matching-lines=I paginate=l label=L rcs=n new-file=N show-c-function=p " ++
      "unidirectional-new-file=5 brief=q recursive=r report-identical-files=s starting-file=S " ++
      "expand-tabs=t initial-tab=T unified=U version=! ignore-all-space=w width=W exclude=x " ++
      "exclude-from=X side-by-side=y ignore-trailing-space=Z strip-trailing-cr=0 normal=1 " ++
      "horizon-lines=2 suppress-common-lines=3 left-column=4 color=8 palette=6 tabsize=7 " ++
      "no-dereference=9 help=!")
  let args' := args.map fun a => if a == "--unified".toList then "-u".toList
    else if a == "--context".toList then "-c".toList else a
  withOptions "diff" known args' s fun o =>
    let o := { o with given := o.given.map fun (c, v) => (if c == 'P' then '5' else c, v) }
    let badCount := (o.given.find? fun (c, v) =>
      (c == 'U' || c == 'C') && (Bytes.natural? v).isNone).map Prod.snd
    match badCount, layout? o, o.args with
    | some v, _, _ => miscompared "diff" ("invalid context length '".toList ++ v ++ ['\x27']) s
    | none, none, _ => miscompared "diff" "conflicting output style options".toList s
    | none, some layout, [a, b] =>
      let options := args.filter fun a => a.head? == some '-' && a != ['-']
      let head := Bytes.joined ("diff".toList :: options)
      let w := compareItems o layout head true 64 a b ⟨s.done 0, 0⟩
      w.state.done w.status
    | none, some _, [] => lacking "diff" args o.args s
    | none, some _, [_] => lacking "diff" args o.args s
    | none, some _, _ :: _ :: extra :: _ =>
      miscompared "diff" ("extra operand '".toList ++ extra ++ ['\x27']) s

end ScriptDeps.Shell.Utility
