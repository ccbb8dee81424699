/-
How regular expressions are written.

The basic form marks groups and bounds with a backslash, the extended one without.  The forms
also differ in what they forgive: a repetition with nothing in front of it, one right behind
another, a bound that is none, or a closing parenthesis of no group.
-/
import ScriptDeps.Shell.Regex

namespace ScriptDeps.Shell.Regex

/-- How bounds of a repetition are written. -/
inductive Braces where
  | bare
  | marked
  | none
  deriving DecidableEq

/-- What becomes of a repetition with nothing in front of it. -/
inductive Leading where
  | refused
  | skipped
  /-- It stands for itself. -/
  | literal
  deriving DecidableEq

/-- A way to write expressions. -/
structure Form where
  /-- Parentheses and bars have their meaning without a backslash. -/
  bareGroups : Bool
  /-- So do plus and question marks. -/
  barePlus : Bool
  braces : Braces
  leading : Leading
  /-- A bound with nothing in front of it is refused, and so is one behind a repetition. -/
  strictBounds : Bool
  /-- A bound that is none stands for itself. -/
  looseBounds : Bool
  /-- A closing parenthesis of no group stands for itself. -/
  looseClosing : Bool
  /-- A range that ends before its start is refused. -/
  ordered : Bool
  /-- A class that stands outside of a list is refused. -/
  guarded : Bool
  /-- Lists can name classes. -/
  classes : Bool

namespace Form

/-- The basic form of an editor. -/
def basic : Form :=
  ⟨false, false, .marked, .literal, true, false, false, true, true, true⟩

/-- The extended form of an editor. -/
def extended : Form :=
  ⟨true, true, .bare, .refused, false, false, false, true, true, true⟩

/-- The basic form of a search. -/
def searched : Form :=
  { basic with strictBounds := false }

/-- The extended form of a search. -/
def searchedExtended : Form :=
  { extended with leading := .skipped, looseBounds := true, looseClosing := true }

/-- The form of a comparison in an expression. -/
def compared : Form :=
  { basic with strictBounds := false, ordered := false, guarded := false }

/-- The extended form of a script. -/
def scripted : Form :=
  { extended with looseClosing := true, guarded := false }

/-- The form of the names of files. -/
def named : Form :=
  ⟨false, true, .none, .literal, false, false, true, true, false, false⟩

end Form

/-- What is wrong with an expression. -/
inductive Flaw where
  | openList
  | openGroup
  | closedGroup
  | openBound
  | badBound
  | tooBig
  | nothingRepeated
  | endsInBackslash
  | badReference
  | badRange
  | badClass
  | badElement
  | malformed
  | bareClass
  deriving DecidableEq, Repr

/-- How a flaw is told. -/
def Flaw.wording : Flaw → Bytes
  | .openList => "Unmatched [, [^, [:, [., or [=".toList
  | .openGroup => "Unmatched ( or \\(".toList
  | .closedGroup => "Unmatched ) or \\)".toList
  | .openBound => "Unmatched \\\x7b".toList
  | .badBound => "Invalid content of \\\x7b\\\x7d".toList
  | .tooBig => "Regular expression too big".toList
  | .nothingRepeated => "Invalid preceding regular expression".toList
  | .endsInBackslash => "Trailing backslash".toList
  | .badReference => "Invalid back reference".toList
  | .badRange => "Invalid range end".toList
  | .badClass => "Invalid character class name".toList
  | .badElement => "Invalid collation character".toList
  | .malformed => "Invalid regular expression".toList
  | .bareClass => "character class syntax is [[:space:]], not [:space:]".toList

/-! ### Lists in brackets -/

/-- The length that the name of a class stays below. -/
def nameLimit : Nat :=
  32

/-- The name up to a mark that a closing bracket follows, and what is behind it. -/
def nameUpTo? (mark : Char) (s : Bytes) : Option (Bytes × Bytes) :=
  let rec go (n : Nat) (s : Bytes) : Option (Bytes × Bytes) :=
    match n, s with
    | 0, _ => none
    | _, [] => none
    | n + 1, c :: rest =>
      if c == mark && rest.head? == some ']' then some ([], rest.tail)
      else (go n rest).map fun (name, rest) => (c :: name, rest)
  go nameLimit s

/-- An element of a list, and what is behind it. -/
def element (form : Form) (s : Bytes) : Except Flaw (ByteSet × Bytes) :=
  match s with
  | [] => .error .openList
  | '[' :: mark :: rest =>
    if (mark == ':' && form.classes) || mark == '.' || mark == '=' then
      match nameUpTo? mark rest with
      | none => .error .openList
      | some (name, rest) =>
        if mark == ':' then
          (ByteClass.ofName? name).elim (.error .badClass) fun k => .ok (.kind k, rest)
        else
          match name with
          | [c] => .ok (.range c c, rest)
          | _ => .error .badElement
    else .ok (.range '[' '[', mark :: rest)
  | c :: rest => .ok (.range c c, rest)

/-- The range between two elements. -/
def rangeOf (form : Form) (a b : ByteSet) : Except Flaw ByteSet :=
  match a, b with
  | .range first _, .range _ last =>
    if last < first && form.ordered then .error .badRange else .ok (.range first last)
  | _, _ => .error .badRange

/-- The elements of a list up to the bracket that closes it. -/
def elements (form : Form) : Nat → Bool → Bytes → Except Flaw (List ByteSet × Bytes)
  | 0, _, _ => .error .openList
  | _, _, [] => .error .openList
  | fuel + 1, isFirst, s => do
    match s with
    | ']' :: rest =>
      if !isFirst then return ([], rest)
    | '-' :: next =>
      if !isFirst && next.head? != some ']' then
        throw (if next.isEmpty then .openList else .badRange)
    | _ => pure ()
    let (a, rest) ← element form s
    let isKind := match a with
      | .kind _ => true
      | _ => false
    match rest with
    | '-' :: more =>
      if isKind || more.head? == some ']' then
        let (sets, rest) ← elements form fuel false rest
        return (a :: sets, rest)
      else
        let (b, rest) ← element form more
        let set ← rangeOf form a b
        let (sets, rest) ← elements form fuel false rest
        return (set :: sets, rest)
    | rest =>
      let (sets, rest) ← elements form fuel false rest
      return (a :: sets, rest)

/-- A list looks like a class that was meant to stand in one. -/
def looksLikeClass (s : Bytes) : Bool :=
  let text := s.takeWhile (· != ']')
  3 ≤ text.length && text.head? == some ':' && text.getLast? == some ':' && !text.contains '['

/-- A list behind its opening bracket, and what is behind that. -/
def listAt (form : Form) (s : Bytes) : Except Flaw (Regex × Bytes) := do
  let (inside, rest) := match s with
    | '^' :: rest => (false, rest)
    | rest => (true, rest)
  if rest.isEmpty then throw .malformed
  let (sets, behind) ← elements form (rest.length + 1) true rest
  if form.guarded && looksLikeClass s then throw .bareClass
  return (.within inside sets, behind)

/-! ### Marks -/

/-- What stands at the front of an expression. -/
inductive Mark where
  | finish
  /-- An expression that is done. -/
  | plain (r : Regex)
  /-- What is nothing that can be repeated. -/
  | anchor (r : Regex)
  | list
  | opening
  | closing
  | bar
  /-- A repetition, and the character that it is written with. -/
  | repeated (c : Char) (least : Nat) (most : Option Nat)
  | bound
  | reference (number : Nat)
  | backslash

/-- The characters of words. -/
def wordSets : List ByteSet :=
  [.kind .letterOrDigit, .range '_' '_']

/-- The mark of a character behind a backslash. -/
def Form.escaped (form : Form) (c : Char) : Mark :=
  match c with
  | '(' => if form.bareGroups then .plain (.one c) else .opening
  | ')' => if form.bareGroups then .plain (.one c) else .closing
  | '|' => if form.bareGroups then .plain (.one c) else .bar
  | '+' => if form.barePlus then .plain (.one c) else .repeated c 1 none
  | '?' => if form.barePlus then .plain (.one c) else .repeated c 0 (some 1)
  | '\x7b' => if form.braces == .marked then .bound else .plain (.one c)
  | 'w' => .plain (.within true wordSets)
  | 'W' => .plain (.within false wordSets)
  | 's' => .plain (.within true [.kind .space])
  | 'S' => .plain (.within false [.kind .space])
  | 'b' => .anchor (.edge true true)
  | 'B' => .anchor .notEdge
  | '<' => .anchor (.edge true false)
  | '>' => .anchor (.edge false true)
  | '\x60' => .anchor .textStart
  | '\x27' => .anchor .textEnd
  | c => if '1' ≤ c && c ≤ '9' then .reference (c.toNat - '0'.toNat) else .plain (.one c)

/-- A dollar sign in front of this ends a line. -/
def Form.endsBefore (form : Form) (s : Bytes) : Bool :=
  form.bareGroups ||
    match s with
    | [] => true
    | '\\' :: c :: _ => c == ')' || c == '|'
    | _ => false

/-- The mark at the front, and what is behind it; `atStart` tells that a caret starts a line. -/
def Form.mark (form : Form) (atStart : Bool) (s : Bytes) : Mark × Bytes :=
  match s with
  | [] => (.finish, [])
  | ['\\'] => (.backslash, [])
  | '\\' :: c :: rest => (form.escaped c, rest)
  | c :: rest =>
    let meant := match c with
      | '.' => .plain .any
      | '[' => .list
      | '*' => .repeated c 0 none
      | '^' => if atStart || form.bareGroups then .anchor .lineStart else .plain (.one c)
      | '$' => if form.endsBefore rest then .anchor .lineEnd else .plain (.one c)
      | '(' => if form.bareGroups then .opening else .plain (.one c)
      | ')' => if form.bareGroups then .closing else .plain (.one c)
      | '|' => if form.bareGroups then .bar else .plain (.one c)
      | '+' => if form.barePlus then .repeated c 1 none else .plain (.one c)
      | '?' => if form.barePlus then .repeated c 0 (some 1) else .plain (.one c)
      | '\x7b' => if form.braces == .bare then .bound else .plain (.one c)
      | c => .plain (.one c)
    (meant, rest)

/-! ### Bounds -/

/-- The number of times that none is above. -/
def boundLimit : Nat :=
  32767

/-- The bounds of a repetition behind the brace that opens them, and what is behind the one that
closes them. -/
def Form.bounds (form : Form) (s : Bytes) : Except Flaw (Nat × Option Nat × Bytes) := do
  let closing := if form.braces == .bare then ['\x7d'] else ['\\', '\x7d']
  let isClosed := fun (s : Bytes) => closing.isPrefixOf s
  -- What is neither a digit nor the end of a number is no number.
  let rec garbage (s : Bytes) : Flaw :=
    match s with
    | [] => .openBound
    | c :: rest => if c == ',' || isClosed s then .badBound else garbage rest
  let (low, rest) := s.span Char.isDigit
  if rest.isEmpty then throw .openBound
  if isClosed rest then
    match Bytes.natural? low with
    | none => throw .badBound
    | some n =>
      if boundLimit < n then throw .tooBig
      return (n, some n, rest.drop closing.length)
  match rest with
  | ',' :: rest =>
    let (high, rest) := rest.span Char.isDigit
    if rest.isEmpty then throw .openBound
    if isClosed rest then
      let least := (Bytes.natural? low).getD 0
      let most := Bytes.natural? high
      if most.any (· < least) then throw .badBound
      if boundLimit < most.getD least then throw .tooBig
      return (least, most, rest.drop closing.length)
    else throw (if rest.head? == some ',' then .badBound else garbage rest)
  | rest => throw (garbage rest)

/-- The bounds are none that could be loose. -/
def Flaw.isLoose (flaw : Flaw) (s : Bytes) : Bool :=
  flaw == .openBound ||
    (flaw == .badBound &&
      -- Two numbers in the wrong order are never taken for anything else.
      let (low, rest) := s.span Char.isDigit
      let (high, rest) := (rest.drop 1).span Char.isDigit
      !(rest.head? == some '\x7d' && !high.isEmpty && !low.isEmpty))

/-! ### Expressions -/

/-- What is left to read, the number of groups so far, and the groups that are closed. -/
structure Rest where
  chars : Bytes
  groups : Nat
  closed : List Nat
  /-- A caret here starts a line. -/
  atStart : Bool
  /-- The repetitions that were skipped. -/
  skipped : List Char

abbrev Reading := StateT Rest (Except Flaw)

/-- Goes on behind a mark. -/
def goOn (s : Bytes) (atStart : Bool) : Reading Unit :=
  modify fun r => { r with chars := s, atStart }

/-- The mark at the front, and what is behind it. -/
def front (form : Form) : Reading (Mark × Bytes) := do
  let r ← get
  return form.mark r.atStart r.chars

/-- An expression with the repetitions behind it. -/
def repetitions (form : Form) : Nat → Bool → Regex → Reading Regex
  | 0, _, r => pure r
  | fuel + 1, isSecond, r => do
    let (mark, rest) ← front form
    match mark with
    | .repeated c least most =>
      if isSecond && form.strictBounds && c == '*' then throw .nothingRepeated
      goOn rest false
      repetitions form fuel true (.times r least most)
    | .bound =>
      if isSecond && form.strictBounds then throw .nothingRepeated
      match form.bounds rest with
      | .ok (least, most, rest) =>
        goOn rest false
        repetitions form fuel true (.times r least most)
      | .error flaw =>
        if form.looseBounds && flaw.isLoose rest then
          goOn rest false
          -- The brace stands for itself, and what follows is repeated with it.
          return .both r (← repetitions form fuel false (.one '\x7b'))
        else throw flaw
    | _ => return r

mutual

/-- Expressions of which one matches; `depth` is the number of groups around them. -/
def alternatives (form : Form) : Nat → Nat → Reading Regex
  | 0, _ => throw .malformed
  | fuel + 1, depth => do
    let a ← sequence form fuel depth .nothing
    match ← front form with
    | (.bar, rest) =>
      goOn rest true
      return .either a (← alternatives form fuel depth)
    | _ => return a

/-- Expressions of which each matches behind the one before. -/
def sequence (form : Form) : Nat → Nat → Regex → Reading Regex
  | 0, _, _ => throw .malformed
  | fuel + 1, depth, before => do
    let (mark, _) ← front form
    let isEnd := match mark with
      | .finish | .bar => true
      | .closing => 0 < depth
      | _ => false
    if isEnd then return before
    else
      let r ← atom form fuel depth
      sequence form fuel depth (match before with
        | .nothing => r
        | before => .both before r)

/-- One expression. -/
def atom (form : Form) : Nat → Nat → Reading Regex
  | 0, _ => throw .malformed
  | fuel + 1, depth => do
    let (mark, rest) ← front form
    match mark with
    | .finish | .bar => return .nothing
    | .backslash => throw .endsInBackslash
    | .plain r =>
      goOn rest false
      repetitions form fuel false r
    | .anchor r =>
      goOn rest true
      return r
    | .list =>
      let (r, rest) ← listAt form rest
      goOn rest false
      repetitions form fuel false r
    | .reference number =>
      if !(← get).closed.contains number then throw .badReference
      goOn rest false
      repetitions form fuel false (.again number)
    | .opening =>
      goOn rest true
      let number := (← get).groups + 1
      modify fun r => { r with groups := number }
      let inner ← alternatives form fuel (depth + 1)
      match ← front form with
      | (.closing, rest) =>
        goOn rest false
        modify fun r => { r with closed := number :: r.closed }
        repetitions form fuel false (.group number inner)
      | _ => throw .openGroup
    | .closing =>
      if !form.looseClosing then throw .closedGroup
      goOn rest false
      repetitions form fuel false (.one ')')
    | .repeated c .. =>
      match form.leading with
      | .refused => throw .nothingRepeated
      | .skipped =>
        goOn rest false
        modify fun r => { r with skipped := r.skipped ++ [c] }
        atom form fuel depth
      | .literal =>
        goOn rest false
        repetitions form fuel false (.one c)
    | .bound =>
      if form.strictBounds then throw .nothingRepeated
      match form.leading with
      | .refused => throw .nothingRepeated
      | .skipped =>
        goOn rest false
        modify fun r => { r with skipped := r.skipped ++ ['\x7b'] }
        atom form fuel depth
      | .literal =>
        goOn rest false
        repetitions form fuel false (.one '\x7b')

end

/-- The expression that a text is, and the repetitions in it that were skipped. -/
def readWith (form : Form) (s : Bytes) : Except Flaw (Regex × List Char) := do
  let (r, rest) ← (alternatives form (4 * s.length + 8) 0).run ⟨s, 0, [], true, []⟩
  return (r, rest.skipped)

/-- The expression that a text is. -/
def read (form : Form) (s : Bytes) : Except Flaw Regex :=
  (readWith form s).map Prod.fst

end ScriptDeps.Shell.Regex
