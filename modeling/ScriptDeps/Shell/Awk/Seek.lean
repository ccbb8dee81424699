/-
Patterns of the record language, and how texts are taken apart by them.

A pattern is an extended expression without bounds, in which a backslash takes the meaning from the
character behind it or names one that cannot be written.
-/
import ScriptDeps.Shell.Awk.Token
import ScriptDeps.Shell.Regex.Reading

namespace ScriptDeps.Shell.Awk.Seek

/-- How patterns are written. -/
def form : Regex.Form :=
  { Regex.Form.extended with
    braces := .none, looseClosing := true, ordered := false, guarded := false }

/-- Characters that mean something in a pattern. -/
def isMark (c : Char) : Bool :=
  "^$.[]|()*+?\\".toList.contains c

/-- The character that a backslash with what follows it names, and what is behind that. -/
def escaped (s : Bytes) : Char × Bytes :=
  match s with
  | [] => ('\\', [])
  | c :: rest =>
    if Printing.isOctal c then Printing.octalByte s
    else if c == 'x' then (Scan.hexByte? rest).getD (c, rest)
    else if c == '\\' || c == 'e' then (c, rest)
    else ((Printing.letter? c).getD c, rest)

/-- A character that stands for itself in an expression. -/
def literal (c : Char) : Bytes :=
  if isMark c then ['\\', c] else [c]

/-- A pattern with all escapes as an expression has them. -/
def plain : Nat → Bool → Bytes → Bytes
  | 0, _, s => s
  | _, _, [] => []
  | fuel + 1, inList, '\\' :: rest =>
    let (c, rest) := escaped rest
    (if inList then "[.".toList ++ c :: ".]".toList else literal c) ++ plain fuel inList rest
  | fuel + 1, false, '[' :: '^' :: ']' :: rest => "[^]".toList ++ plain fuel true rest
  | fuel + 1, false, '[' :: ']' :: rest => "[]".toList ++ plain fuel true rest
  | fuel + 1, false, '[' :: '^' :: rest => "[^".toList ++ plain fuel true rest
  | fuel + 1, false, '[' :: rest => '[' :: plain fuel true rest
  | fuel + 1, true, '[' :: ':' :: rest =>
    let (name, behind) := rest.span Char.isAlpha
    match behind with
    | ':' :: ']' :: behind => "[:".toList ++ name ++ ":]".toList ++ plain fuel true behind
    | _ => '[' :: plain fuel true (':' :: rest)
  | fuel + 1, true, '[' :: rest => "[.[.]".toList ++ plain fuel true rest
  | fuel + 1, true, ']' :: rest => ']' :: plain fuel false rest
  | fuel + 1, inList, c :: rest => c :: plain fuel inList rest

/-- A part of the expression is empty. -/
def hasGap : Regex → Bool
  | .nothing => true
  | .both a b | .either a b => hasGap a || hasGap b
  | .times r .. | .group _ r => hasGap r
  | _ => false

/-- How a flaw of a pattern is told. -/
def wording : Regex.Flaw → String
  | .openGroup => "missing ')'"
  | .nothingRepeated => "missing operand"
  | _ => "bad class -- [], [^] or ["

/-- The matcher of a pattern, or the complaint about it. -/
def matcher? (pattern : Bytes) : Except Bytes Matcher :=
  let complaint := fun (text : String) =>
    ("regular expression compile failed (" ++ text ++ ")\n").toList ++ pattern
  match Regex.read form (plain (pattern.length + 1) false pattern) with
  | .error flaw => .error (complaint (wording flaw))
  | .ok r => if !pattern.isEmpty && hasGap r then .error (complaint "missing operand") else .ok (.bytes r)

/-! ### Fields -/

/-- What stands between fields. -/
inductive Separator where
  /-- Blanks, of which those at the ends of a text do not count. -/
  | blanks
  /-- Nothing: each character is a field. -/
  | none
  | char (c : Char)
  | pattern (m : Matcher)

namespace Separator

/-- The separator that a text stands for. -/
def ofText? : Bytes → Except Bytes Separator
  | [] => .ok .none
  | [' '] => .ok .blanks
  | [c] => .ok (.char c)
  | s => (matcher? s).map .pattern

end Separator

/-- The first match from a place on that is not empty. -/
def firstProper? (m : Matcher) : Nat → Regex.Place → Option (Regex.Place × Regex.Place)
  | 0, _ => .none
  | fuel + 1, p =>
    match m.first? p with
    | .none => .none
    | some (start, stop) =>
      if start.position == stop.position then start.next?.bind (firstProper? m fuel)
      else some (start, stop)

/-- The pieces of a text between the matches of a pattern. -/
def pieces (m : Matcher) : Nat → Bytes → List Bytes
  | 0, s => [s]
  | fuel + 1, s =>
    match firstProper? m (s.length + 1) (.ofText s) with
    | .none => [s]
    | some (start, stop) => start.before.reverse :: pieces m fuel stop.behind

/-- The words between blanks. -/
def words : Nat → Bytes → List Bytes
  | 0, _ => []
  | fuel + 1, s =>
    let s := s.dropWhile Bytes.isSpace
    if s.isEmpty then []
    else
      let (word, rest) := s.span (!Bytes.isSpace ·)
      word :: words fuel rest

/-- The fields of a text. -/
def fields (separator : Separator) (s : Bytes) : List Bytes :=
  if s.isEmpty then []
  else
    match separator with
    | .blanks => words (s.length + 1) s
    | .none => s.map fun c => [c]
    | .char c => Text.splitOn c s
    | .pattern m => pieces m (s.length + 1) s

/-! ### Records -/

/-- What ends a record. -/
inductive Stop where
  | char (c : Char)
  /-- Empty lines. -/
  | gap
  | pattern (m : Matcher)

namespace Stop

/-- The end of records that a text stands for. -/
def ofText? : Bytes → Except Bytes Stop
  | [] => .ok .gap
  | [c] => .ok (.char c)
  | s => (matcher? s).map .pattern

end Stop

/-- The text up to an empty line, and what is behind all empty lines. -/
def paragraph : Bytes → Bytes × Bytes
  | '\n' :: '\n' :: rest => ([], rest.dropWhile (· == '\n'))
  | ['\n'] => ([], [])
  | c :: rest =>
    let (text, rest) := paragraph rest
    (c :: text, rest)
  | [] => ([], [])

/-- The record at the front of a text, and what is behind it. -/
def record? (stop : Stop) (s : Bytes) : Option (Bytes × Bytes) :=
  match stop with
  | .char c =>
    if s.isEmpty then .none
    else
      let (line, rest) := s.span (· != c)
      some (line, rest.drop 1)
  | .gap =>
    let s := s.dropWhile (· == '\n')
    if s.isEmpty then .none else some (paragraph s)
  | .pattern m =>
    if s.isEmpty then .none
    else
      match firstProper? m (s.length + 1) (.ofText s) with
      | .none => some (s, [])
      | some (start, stop) => some (start.before.reverse, stop.behind)

/-! ### Replacements -/

/-- What stands in the place of a match: an ampersand is the match, unless the number of backslashes in
front of it is odd.  Of those backslashes half stay. -/
def replacement (found : Bytes) : Nat → Bytes → Bytes
  | 0, _ => []
  | _, [] => []
  | fuel + 1, '\\' :: s =>
    let (run, rest) := ('\\' :: s).span (· == '\\')
    match rest with
    | '&' :: rest =>
      List.replicate (run.length / 2) '\\' ++ (if run.length % 2 == 1 then ['&'] else found) ++
        replacement found fuel rest
    | rest => run ++ replacement found fuel rest
  | fuel + 1, '&' :: rest => found ++ replacement found fuel rest
  | fuel + 1, c :: rest => c :: replacement found fuel rest

/-- The text behind a place with its matches replaced, in pieces, and their number.  `last` is where
the match before ended. -/
def replaced (m : Matcher) (isGlobal : Bool) (new : Bytes) :
    Nat → Regex.Place → Option Nat → List Bytes × Nat
  | 0, p, _ => ([p.behind], 0)
  | fuel + 1, p, last =>
    match m.first? p with
    | .none => ([p.behind], 0)
    | some (start, stop) =>
      let front := p.until_ start
      let isEmpty := start.position == stop.position
      let isSkipped := isEmpty && last == some start.position
      let here := if isSkipped then [] else replacement (start.until_ stop) (new.length + 1) new
      let count := if isSkipped then 0 else 1
      if !isGlobal then ([front, here, stop.behind], 1)
      else if !isEmpty then
        let (rest, more) := replaced m isGlobal new fuel stop (some stop.position)
        (front :: here :: rest, count + more)
      else
        match stop.next? with
        | .none => ([front, here], count)
        | some next =>
          let (rest, more) := replaced m isGlobal new fuel next (some stop.position)
          (front :: here :: stop.behind.take 1 :: rest, count + more)

/-- A text with its matches replaced, or the first of them, and their number. -/
def replace (m : Matcher) (isGlobal : Bool) (new s : Bytes) : Bytes × Nat :=
  let (pieces, count) := replaced m isGlobal new (2 * s.length + 2) (.ofText s) .none
  (pieces.flatten, count)

end ScriptDeps.Shell.Awk.Seek
