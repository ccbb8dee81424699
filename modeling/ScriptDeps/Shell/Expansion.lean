/-
What braces make of the values of variables and lists in the extended dialect.

A value is changed as a whole, and a list element by element.  What is cut out of a value is counted
in characters, and what is cut out of a list in elements.
-/
import ScriptDeps.Shell.Declaration

namespace ScriptDeps.Shell

/-- The values that stand in braces. -/
structure Elements where
  /-- What complaints call them. -/
  name : Bytes
  values : List Bytes
  /-- They are the elements of a list, and each counts for itself. -/
  isList : Bool
  isEach : Bool
  /-- The keys of the elements. -/
  keys : List Bytes
  deriving Inhabited

namespace Elements

/-- One value, if there is one. -/
def single (name : Bytes) (value : Option Bytes) : Elements :=
  ⟨name, value.toList, false, false, []⟩

/-- Nothing is there. -/
def isUnset (e : Elements) : Bool :=
  e.values.isEmpty

/-- There is nothing but the empty text. -/
def isBlank (e : Elements) : Bool :=
  e.values.all List.isEmpty && (e.values.length ≤ 1)

/-- The pieces that values give; `apart` tells that they are taken apart to fields. -/
def pieces (e : Elements) (separators : Bytes) (apart quoted : Bool) (values : List Bytes) : List Piece :=
  if !e.isList then
    match values with
    | value :: _ => [if quoted then .whole value true else .loose value]
    | [] => if quoted then [.whole [] true] else []
  else if e.isEach && !apart then [.whole (Bytes.joined values) true]
  else if !quoted then [.spread values]
  else if e.isEach then [.each values]
  else [.whole (Bytes.joinedBy (Piece.between separators) values) true]

/-- The values, each changed as a text of characters. -/
def mapWide (e : Elements) (f : Bytes → Bytes) : List Bytes :=
  e.values.map fun value => Wide.toBytes (f (Wide.ofBytes value))

/-! ### Slices -/

/-- The elements from a place on, so many at most. -/
def slicedItems {α : Type} (items : List α) (start : Int) (count : Option Int) : Option (List α) :=
  let n : Int := items.length
  let first := if start < 0 then start + n else start
  if first < 0 || n < first then some []
  else
    match count with
    | none => some (items.drop first.toNat)
    | some c =>
      let last := if c < 0 then n + c else min n (first + c)
      if last < first then none else some ((items.drop first.toNat).take (last - first).toNat)

/-- The values cut out of these, or nothing where they would end before they start. -/
def sliced (e : Elements) (own : Bytes) (start : Int) (count : Option Int) : Option (List Bytes) :=
  if !e.isList then
    match e.values with
    | value :: _ =>
      (slicedItems (Wide.ofBytes value) start count).map fun part => [Wide.toBytes part]
    | [] => some []
  else if e.name == ['@'] || e.name == ['*'] then
    if count.any (· < 0) then none
    else slicedItems (own :: e.values) start count |>.map fun values =>
      if start == 0 then values else values
  else
    match count with
    | some c =>
      if c < 0 then none else some ((fromKey start).take c.toNat)
    | none => some (fromKey start)
where
  /-- The values from the element of a number on. -/
  fromKey (start : Int) : List Bytes :=
    let numbers := e.keys.map fun key => key.natural?
    let isIndexed := numbers.all Option.isSome
    if isIndexed then
      let next : Int := ((numbers.getLast?.bind id).map fun n => (n : Int) + 1).getD 0
      let first := if start < 0 then start + next else start
      if first < 0 then []
      else ((numbers.zip e.values).filter fun (n, _) => n.all fun n => first ≤ n).map Prod.snd
    else
      let first := if start < 0 then start + (e.values.length : Int) else start - 1
      e.values.drop first.toNat

/-! ### Transformations -/

/-- The value with the escapes of quotes behind a dollar sign in their meanings. -/
def unescaped (value : Bytes) : Bytes :=
  ((Enclosed.namedBytes (value.length + 2)
    ((value.flatMap fun c => if c == '\x27' then ['\\', c] else [c]) ++ ['\x27'])).map Prod.fst).getD value

/-- The values as a letter tells. -/
def transformed (e : Elements) (s : State) (target : Bytes) (letter : Char) : List Bytes :=
  match letter with
  | 'Q' => e.values.map Quoting.reusable
  | 'E' => e.values.map unescaped
  | 'U' => e.mapWide fun w => w.map Wide.upper
  | 'L' => e.mapWide fun w => w.map Wide.lower
  | 'u' => e.mapWide fun w => w.take 1 |>.map Wide.upper |> (· ++ w.drop 1)
  | 'a' => if e.isUnset && (s.shownTraits target).isEmpty then []
    else if e.isList then e.values.map fun _ => s.shownTraits target else [s.shownTraits target]
  | 'A' =>
    let letters := s.shownTraits target
    if e.isUnset && letters.isEmpty then []
    else
      let front := if letters.isEmpty then [] else "declare -".toList ++ letters ++ [' ']
      if e.isList then
        if (s.list? target).isSome then [s.declaration target] else [front ++ target ++ '=' :: shown]
      else [front ++ target ++ '=' :: shown]
  | 'K' =>
    if e.isList then
      let items := (e.keys.zip e.values).map fun (key, value) =>
        (if key.natural?.isSome then key else State.shownKey key) ++ ' ' :: Quoting.declared value
      [Bytes.joined items]
    else e.values.map Quoting.reusable
  | 'k' => if e.isList then (e.keys.zip e.values).flatMap fun (key, value) => [key, value]
    else e.values.map Quoting.reusable
  | _ => e.values
where
  shown : Bytes := Quoting.reusable ((e.values.head?).getD [])

end Elements

/-- The replacement that pieces with their quotes are; an unquoted ampersand stands for what was
matched. -/
def replacement (pieces : List (Bytes × Bool)) : GlobMatcher.Replacement :=
  pieces.flatMap fun (bytes, quoted) =>
    let wide := Wide.ofBytes bytes
    if quoted then [some wide] else parts wide
where
  parts : Bytes → GlobMatcher.Replacement
    | '\\' :: '&' :: s => some ['&'] :: parts s
    | '\\' :: '\\' :: s => some ['\\'] :: parts s
    | '&' :: s => none :: parts s
    | c :: s => some [c] :: parts s
    | [] => []

/-! ### What is meant -/

namespace Subject

/-- What the text of a variable names: a parameter, or elements of a list. -/
def named? (text : Bytes) : Option (Bytes × Key) :=
  let (name, rest) := text.span Bytes.isNameChar
  if text.length == 1 && "@*#?-$!".toList.contains (text.headD ' ') then some (text, .none)
  else if text.natural?.isSome then some (text, .none)
  else if !Bytes.isName name then none
  else
    match rest with
    | [] => some (name, .none)
    | ['[', '@', ']'] => some (name, .each)
    | ['[', '*', ']'] => some (name, .joined)
    | '[' :: inside =>
      match Enclosed.closedBy? '[' ']' inside with
      | some (key, []) => some (name, .one [.text key true])
      | _ => none
    | _ => none

end Subject

namespace State

/-- The length of a value, in characters in the extended dialect. -/
def lengthOf (s : State) (value : Bytes) : Nat :=
  if s.isExtended then (Wide.ofBytes value).length else value.length

/-- The state after a complaint about a variable that is not there but must be. -/
def missing (s : State) (name : Bytes) : State :=
  if !s.isExtended then s.breaking (name ++ ": parameter not set".toList)
  else
    let isSpecial := name == ['!'] || name.natural?.isSome
    s.breaking ((if isSpecial then '$' :: name else name) ++ ": unbound variable".toList)

/-- What a name means: a variable, or all the arguments. -/
def named (s : State) (name : Bytes) : Elements :=
  if name == ['@'] then ⟨name, s.args, true, true, []⟩
  else if name == ['*'] then ⟨name, s.args, true, false, []⟩
  else .single name (s.known? name)

/-- The directory that a tilde stands for. -/
def homeOf (s : State) (sign : Bytes) : Bytes :=
  let value := match sign with
    | [] => (s.value? "HOME".toList).orElse fun _ => if s.isExtended then some Word.rootHome else none
    | ['+'] => if s.isExtended then s.value? "PWD".toList else none
    | _ => if s.isExtended then s.value? "OLDPWD".toList else none
  value.getD ('~' :: sign)

/-- All elements of a list. -/
def allOf (s : State) (name : Bytes) (isEach : Bool) : Elements :=
  ⟨name, s.elements name, true, isEach, s.keysOf name⟩

/-- The element of a list that a text names. -/
def elementOf (s : State) (name text : Bytes) : Elements × State :=
  let target := s.meant name
  let shown := name ++ '[' :: text ++ [']']
  match Calculation.keyIn s target text with
  | .error (.badKey ..) => (.single shown none, s.object (name ++ ": bad array subscript".toList))
  | .error t => (.single shown none, s.miscalculated t)
  | .ok (key, s) =>
    let value := match s.list? target with
      | some l => l.get? key
      | none => if key == Series.mainKey then s.known? target else none
    (.single shown value, s)

end State

/-! ### Names of files -/

namespace Glob

/-- The patterns between the slashes. -/
def levels (ms : List Pattern.Mark) : List (List Pattern.Mark) :=
  match ms with
  | [] => [[]]
  | m :: rest =>
    if m.1 == '/' then [] :: levels rest
    else
      match levels rest with
      | first :: others => (m :: first) :: others
      | [] => [[m]]

/-- How names of files are matched. -/
structure Manner where
  groups : Bool
  anyCase : Bool
  /-- A dot at the start of a name is matched like any other character. -/
  hidden : Bool
  /-- Two stars reach into directories. -/
  deep : Bool

/-- The names in a directory that a pattern matches. -/
def namesIn (store : Store) (m : Manner) (dir : Bytes) (ms : List Pattern.Mark) : List Bytes :=
  match store.locate (if dir.isEmpty then ⟨"."⟩ else dir.path) with
  | .error _ => []
  | .ok loc =>
    let matcher : GlobMatcher := ⟨ofMarks m.groups (ms.length + 1) ms, m.anyCase⟩
    ((store.namesIn loc).map Bytes.ofText).filter fun name =>
      (name.head? != some '.' || m.hidden || (ms.head?.map Prod.fst) == some '.') &&
        matcher.accepts (Wide.ofBytes name)

/-- The directories below one, itself first. -/
def directoriesBelow (store : Store) (m : Manner) : Nat → Bytes → List Bytes
  | 0, front => [front]
  | fuel + 1, front =>
    let names := (namesIn store m front [('*', false)]).filter fun name => store.isDir (front ++ name).path
    front :: names.flatMap fun name => directoriesBelow store m fuel (front ++ name ++ ['/'])

/-- The paths that match level by level, where `front` is what stands before them. -/
def pathsFrom (store : Store) (m : Manner) (front : Bytes) : List (List Pattern.Mark) → List Bytes
  | [] => []
  | [last] =>
    let isWild := isWild (ofMarks m.groups (last.length + 1) last)
    if last.isEmpty then if store.isDir front.path then [front] else []
    else if m.deep && last == [('*', false), ('*', false)] then
      (directoriesBelow store m 20 front).flatMap fun dir =>
        (if dir == front && !front.isEmpty then [front] else []) ++
          (namesIn store m dir [('*', false)]).map (dir ++ ·)
    else if isWild then (namesIn store m front last).map (front ++ ·)
    else
      let p := front ++ Wide.toBytes (last.map Prod.fst)
      if store.exists? p.path then [p] else []
  | level :: rest =>
    if m.deep && level == [('*', false), ('*', false)] then
      (directoriesBelow store m 20 front).flatMap fun dir => pathsFrom store m dir rest
    else
      let isWild := isWild (ofMarks m.groups (level.length + 1) level)
      let names := if isWild then namesIn store m front level else [Wide.toBytes (level.map Prod.fst)]
      names.flatMap fun name => pathsFrom store m (front ++ name ++ ['/']) rest

end Glob

namespace Field

/-- How names of files are matched in a state. -/
def manner (s : State) : Glob.Manner :=
  let on := fun (name : String) => s.extension.settings.contains name
  ⟨on "extglob", on "nocaseglob", on "dotglob", on "globstar"⟩

/-- The field matches more than its own characters. -/
def isGlob (s : State) (f : Field) : Bool :=
  (f.any fun (b, quoted) => !quoted && b.any fun c => "*?[+@!".toList.contains c) &&
    Glob.isWild (Glob.ofPieces (manner s).groups f)

/-- The paths that a field matches. -/
def matches_ (s : State) (store : Store) (f : Field) : List Bytes :=
  let found := Glob.pathsFrom store (manner s) [] (Glob.levels (Glob.marks f))
  if (manner s).deep then (found.eraseDups).mergeSort fun a b => !Bytes.isBefore b a else found

end Field

namespace State

/-- The fields with the names of files that they match in their places. -/
def globbed (s : State) (fields : List Field) : List Bytes × State :=
  let on := fun (name : String) => s.extension.settings.contains name
  if s.has 'f' then (fields.map Field.bytes, s)
  else
    let store := if fields.any (Field.isGlob s) then s.copied true else s.store
    fields.foldl
      (fun (done, s) f =>
        if !s.goesOn then (done, s)
        else if !Field.isGlob s f then (done ++ [f.bytes], s)
        else
          match Field.matches_ s store f with
          | [] =>
            if on "failglob" then ([], s.dropping ("no match: ".toList ++ f.bytes))
            else (if on "nullglob" then done else done ++ [f.bytes], s)
          | found => (done ++ found, s))
      ([], s)

end State

/-! ### Lists to choose from -/

namespace Menu

/-- How wide lists are. -/
def width : Nat :=
  80

/-- The number of digits of a number. -/
def digits (n : Nat) : Nat :=
  (toString n).length

/-- A number with its word. -/
def entry (width n : Nat) (word : Bytes) : Bytes :=
  let number := Bytes.ofNat n
  List.replicate (width - number.length) ' ' ++ number ++ ") ".toList ++ word

/-- Tabs and spaces from one column to another. -/
def gap : Nat → Nat → Nat → Bytes
  | 0, _, _ => []
  | fuel + 1, from_, to_ =>
    if to_ ≤ from_ then []
    else if from_ / 8 < to_ / 8 then '\t' :: gap fuel (from_ + 8 - from_ % 8) to_
    else ' ' :: gap fuel (from_ + 1) to_

/-- The words as a list with numbers, in columns that are read downwards. -/
def shown (words : List Bytes) : Bytes :=
  let count := words.length
  let size := fun (w : Bytes) => (Wide.ofBytes w).length
  let cell := (words.map size).foldr max 0 + digits count + 4
  let columns := max 1 (width / cell)
  let rows := count / columns + (if count % columns == 0 then 0 else 1)
  let columns := count / (max 1 rows) + (if count % (max 1 rows) == 0 then 0 else 1)
  let rows := if rows == 1 then columns else rows
  (List.range rows).flatMap fun row =>
    let cells := (List.range count).filter fun i => i % rows == row
    let line := cells.zipIdx.flatMap fun (i, column) =>
      let word := (words[i]?).getD []
      let text := entry (if column == 0 then digits rows else digits count) (i + 1) word
      let place := column * cell
      text ++ (if column + 1 < cells.length then gap (cell + 8) (place + size text) (place + cell) else [])
    line ++ ['\n']

end Menu

end ScriptDeps.Shell
