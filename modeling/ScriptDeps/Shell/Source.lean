/-
The text that the commands of a script are read from, and its tokens: words, operators and line
ends.

A reader takes a source and gives what it has read and the rest of the source, or the
mistake that keeps it from reading on.  A backslash at the end of a line joins the line to the
next one.
-/
import ScriptDeps.Shell.Command

namespace ScriptDeps.Shell

/-! ### Tokens -/

/-- A token. -/
inductive Token where
  | endOfText
  | lineEnd
  /-- An operator between commands. -/
  | mark (text : String)
  /-- An operator of a redirection, with the descriptor in front of it. -/
  | redirect (descriptor : Option Nat) (operator : String)
  /-- The same, for a descriptor that a variable tells. -/
  | redirectNamed (name : Bytes) (operator : String)
  | word (w : Word)
  /-- A word that belongs to the grammar. -/
  | keyword (name : String)
  deriving Inhabited

namespace Token

/-- What a complaint calls a token. -/
def name : Token → String
  | .endOfText => "end of file"
  | .lineEnd => "newline"
  | .mark text | .keyword text => "\"" ++ text ++ "\""
  | .redirect .. | .redirectNamed .. => "redirection"
  | .word _ => "word"

/-- The words that belong to the grammar where a command can begin. -/
def keywords : List String :=
  ["!", "case", "do", "done", "elif", "else", "esac", "fi", "for", "if", "in", "then", "until",
    "while", "\x7b", "\x7d"]

/-- The further words that belong to the grammar of the extended dialect. -/
def extendedKeywords : List String :=
  ["[[", "]]", "function", "select", "time"]

/-- The words that belong to the grammar of a dialect. -/
def keywordsOf : Dialect → List String
  | .plain => keywords
  | .extended => keywords ++ extendedKeywords

/-- The keyword that a word is. -/
def keyword? (dialect : Dialect) (w : Word) : Option String :=
  w.plain?.bind fun bytes =>
    let name := String.ofList bytes
    if (keywordsOf dialect).contains name then some name else none

/-- The token is this mark. -/
def isMark (text : String) : Token → Bool
  | .mark t => t == text
  | _ => false

/-- The token is this keyword. -/
def isKeyword (name : String) : Token → Bool
  | .keyword k => k == name
  | _ => false

/-- The token ends a list of commands. -/
def endsList : Token → Bool
  | .endOfText => true
  | .mark t => t == ")" || t == ";;" || t == ";&" || t == ";;&"
  | .keyword k => ["do", "done", "elif", "else", "esac", "fi", "then", "\x7d"].contains k
  | _ => false

/-- An operator of the extended dialect that a text begins with, and its length. -/
def extendedMark? : Bytes → Option (String × Nat)
  | ';' :: ';' :: '&' :: _ => some (";;&", 3)
  | ';' :: '&' :: _ => some (";&", 2)
  | '|' :: '&' :: _ => some ("|&", 2)
  | _ => none

/-- The operator between commands that a text begins with, and its length. -/
def mark? : Bytes → Option (String × Nat)
  | '&' :: '&' :: _ => some ("&&", 2)
  | '|' :: '|' :: _ => some ("||", 2)
  | ';' :: ';' :: _ => some (";;", 2)
  | '&' :: _ => some ("&", 1)
  | '|' :: _ => some ("|", 1)
  | ';' :: _ => some (";", 1)
  | '(' :: _ => some ("(", 1)
  | ')' :: _ => some (")", 1)
  | _ => none

/-- The operator of a redirection that a text begins with, and its length. -/
def redirect? : Bytes → Option (String × Nat)
  | '<' :: '<' :: '-' :: _ => some ("<<-", 3)
  | '<' :: '<' :: _ => some ("<<", 2)
  | '<' :: '&' :: _ => some ("<&", 2)
  | '<' :: '>' :: _ => some ("<>", 2)
  | '>' :: '>' :: _ => some (">>", 2)
  | '>' :: '&' :: _ => some (">&", 2)
  | '>' :: '|' :: _ => some (">|", 2)
  | '<' :: _ => some ("<", 1)
  | '>' :: _ => some (">", 1)
  | _ => none

/-- A redirection of the extended dialect that a text begins with: the descriptor or the name of a
variable in front of it, the operator, and the length of all. -/
def extendedRedirect? (s : Bytes) : Option (Token × Nat) :=
  let operator? : Bytes → Option (String × Nat)
    | '<' :: '<' :: '<' :: _ => some ("<<<", 3)
    | '<' :: '(' :: _ | '>' :: '(' :: _ => none
    | s => redirect? s
  match s with
  | '&' :: '>' :: '>' :: _ => some (.redirect none "&>>", 3)
  | '&' :: '>' :: _ => some (.redirect none "&>", 2)
  | '\x7b' :: s =>
    let (name, rest) := s.span Bytes.isNameChar
    match rest with
    | '\x7d' :: rest =>
      if !Bytes.isName name then none
      else (operator? rest).map fun (operator, n) => (.redirectNamed name operator, name.length + 2 + n)
    | _ => none
  | s =>
    let (digits, rest) := s.span Char.isDigit
    (operator? rest).map fun (operator, n) => (.redirect (Bytes.natural? digits) operator, digits.length + n)

/-- The operator of a redirection with the one digit that may stand in front of it, and the
length of both. -/
def numbered? : Bytes → Option (Option Nat × String × Nat)
  | c :: s =>
    if c.isDigit then
      (redirect? s).map fun (operator, n) => (some (c.toNat - '0'.toNat), operator, n + 1)
    else (redirect? (c :: s)).map fun (operator, n) => (none, operator, n)
  | [] => none

end Token

/-! ### Sources -/

/-- A word whose text is being read in its place. -/
structure Replaced where
  name : Bytes
  /-- The length of what follows the text. -/
  left : Nat
  /-- The text ends in a blank, so that the word behind it may stand for a text as well. -/
  reaches : Bool

/-- The rest of a script. -/
structure Source where
  rest : Bytes
  /-- The line that the rest begins on. -/
  line : Nat
  /-- The lines below this one that have been read already. -/
  owed : Nat
  /-- A token that was read and put back. -/
  ahead : Option Token
  /-- The words that stand for other texts. -/
  aliases : List (Bytes × Bytes)
  replacing : List Replaced
  dialect : Dialect
  /-- Lists of patterns in parentheses are read. -/
  groups : Bool
  /-- The rest from the start of its line. -/
  lineStart : Bytes
  /-- The rest from the token that was read last, its line, and the rest from the start of that. -/
  tokenStart : Bytes
  tokenLine : Nat
  tokenLineStart : Bytes
  /-- Texts that were not ended by what should end them: the line of the last one, the line that asks
  for it, and what should end it. -/
  unended : List (Nat × Nat × Bytes)
  /-- How many lines the commands do not count. -/
  base : Nat
  deriving Inhabited

/-- Why a script cannot be read on, and on which line.  There may be more to tell of that line or of
another one. -/
structure Mistake where
  line : Nat
  wording : String
  more : List (Nat × String)
  deriving DecidableEq, Repr

abbrev Reading := StateT Source (Except Mistake)

namespace Source

/-- A script from a line on. -/
def ofText (dialect : Dialect) (aliases : List (Bytes × Bytes)) (line : Nat) (text : Bytes) : Source :=
  ⟨text, line, 0, none, aliases, [], dialect, false, text, text, line, text, [], 0⟩

/-- The script is of the extended dialect. -/
def isExtended (s : Source) : Bool :=
  s.dialect == .extended

/-- The line of a command that begins here. -/
def commandLine (s : Source) : Nat :=
  s.line - s.base

/-- The source without so many bytes, none of which ends a line. -/
def drop (s : Source) (n : Nat) : Source :=
  { s with rest := s.rest.drop n }

/-- The source behind the end of a line. -/
def afterLine (s : Source) (rest : Bytes) : Source :=
  { s with rest, line := s.line + 1 + s.owed, owed := 0, lineStart := rest }

/-- The source behind lines that are joined to the next. -/
def joined (s : Source) : Source :=
  skip s s.rest
where
  skip (s : Source) : Bytes → Source
    | '\\' :: '\n' :: rest => skip (s.afterLine rest) rest
    | rest => { s with rest }

/-- The source behind spaces and tabs. -/
def afterGaps (s : Source) : Source :=
  skip s s.rest
where
  skip (s : Source) : Bytes → Source
    | '\\' :: '\n' :: rest => skip (s.afterLine rest) rest
    | ' ' :: rest | '\t' :: rest => skip s rest
    | rest => { s with rest }

/-- The lines that a text has ended are counted. -/
def counting (s : Source) (text rest : Bytes) : Source :=
  let ended := text.count '\n'
  if ended == 0 then { s with rest }
  else
    let lineStart := ((text.reverse.takeWhile (· != '\n')).reverse) ++ rest
    { s with rest, line := s.line + ended + s.owed, owed := 0, lineStart }

/-- The bytes at the front of which all are of a kind, and the source behind them. -/
def span (s : Source) (kind : Char → Bool) : Bytes × Source :=
  let (run, rest) := s.rest.span kind
  (run, s.counting run rest)

/-- The lines up to one that is `last`, their number with that one, and the text behind. -/
def linesBefore (tabs : Bool) (last : Bytes) : Nat → Bytes → Bytes × Nat × Bytes
  | 0, s => ([], 0, s)
  | _, [] => ([], 0, [])
  | fuel + 1, s =>
    let (line, rest) := s.span (· != '\n')
    let line := if tabs then line.dropWhile (· == '\t') else line
    if line == last then ([], if rest.isEmpty then 0 else 1, rest.drop 1)
    else
      let (more, count, after) := linesBefore tabs last fuel (rest.drop 1)
      if rest.isEmpty then (line ++ more, count, after) else (line ++ '\n' :: more, count + 1, after)

/-- The text of the lines below this one up to a line that is `last`, and the source without
them. -/
def takeBelow (s : Source) (tabs : Bool) (last : Bytes) : Bytes × Source :=
  let (here, below) := s.rest.span (· != '\n')
  let (text, count, after) := linesBefore tabs last below.length (below.drop 1)
  let isEnded := (Bytes.lines (below.drop 1)).any fun line =>
    let line := if tabs then line.dropWhile (· == '\t') else line
    line == last || line == last ++ ['\n']
  let first := s.line + s.owed
  let unended := if isEnded then s.unended
    else (first + (Bytes.lines (below.drop 1)).length, first, last) :: s.unended
  (text, { s with rest := here ++ below.take 1 ++ after, owed := s.owed + count, unended })

/-- What has been read of a source went beyond the blank at the end of a text. -/
def crosses (before after : Source) : Bool :=
  before.replacing.any fun r =>
    r.reaches && r.left < before.rest.length && after.rest.length < r.left

/-- The source with a text in the place of a word that has just been read. -/
def withText (s : Source) (name text : Bytes) : Source :=
  let reaches := text.getLast?.any fun c => c == ' ' || c == '\t'
  { s with rest := text ++ s.rest, replacing := ⟨name, s.rest.length, reaches⟩ :: s.replacing }

/-- The source in which only the texts count that have not been read to their ends. -/
def settled (s : Source) : Source :=
  { s with replacing := s.replacing.filter fun r => r.left < s.rest.length }

/-- The line that the text ends on. -/
def lastLine (s : Source) : Nat :=
  (s.counting s.rest []).line

/-- The line behind the last one. -/
def endLine (s : Source) : Nat :=
  (s.counting s.rest []).line + (if s.rest.isEmpty && s.lineStart.isEmpty then 0 else
    if s.rest.getLast? == some '\n' then 0 else 1)

/-- The text of a token, where it is no other. -/
def tokenText (s : Source) (t : Token) : Bytes :=
  match t with
  | .mark text | .keyword text => text.toList
  | .redirect _ operator | .redirectNamed _ operator => operator.toList
  | .lineEnd => "newline".toList
  | .endOfText => []
  | .word w => w.plain?.getD (s.tokenStart.take (s.tokenStart.length - s.rest.length))

/-- The source in which the next token begins. -/
def atToken (s : Source) : Source :=
  { s with tokenStart := s.rest, tokenLine := s.line, tokenLineStart := s.lineStart }

/-- The line of the token that was read last. -/
def tokenLineText (s : Source) : Bytes :=
  s.tokenLineStart.takeWhile (· != '\n')

end Source

/-! ### Readers -/

namespace Reading

/-- Nothing can be read, for a reason. -/
def fail {α : Type} (wording : String) : Reading α :=
  fun s => .error ⟨s.line, wording, []⟩

/-- Nothing can be read, as the line shows. -/
def failAt {α : Type} (wordings : List String) : Reading α :=
  fun s =>
    let line := "\x60" ++ String.ofList s.tokenLineText ++ "'"
    match wordings ++ [line] with
    | wording :: more => .error ⟨s.tokenLine, wording, more.map fun text => (s.tokenLine, text)⟩
    | [] => .error ⟨s.tokenLine, line, []⟩

/-- Something else should stand where a token stands. -/
def unexpected {α : Type} (t : Token) (expected : Option String) : Reading α := fun s =>
  if s.isExtended then
    match t with
    | .endOfText => .error ⟨s.endLine, "syntax error: unexpected end of file", []⟩
    | t => failAt ["syntax error near unexpected token \x60" ++ String.ofList (s.tokenText t) ++ "'"] s
  else
    fail (t.name ++ " unexpected" ++ expected.elim "" fun e => " (expecting \"" ++ e ++ "\")") s

/-- Something else should stand where a token stands, also where that is the end of the last line. -/
def unexpectedHere {α : Type} (t : Token) (expected : Option String) : Reading α := fun s =>
  match t with
  | .endOfText => unexpected (if s.isExtended && !s.lineStart.isEmpty then .lineEnd else t) expected s
  | t => unexpected t expected s

/-- The text ends before what closes a part of it. -/
def unclosed {α : Type} (closing : Char) (wording : String) : Reading α := fun s =>
  if s.isExtended then
    .error ⟨s.tokenLine, "unexpected EOF while looking for matching \x60" ++ closing.toString ++ "'", []⟩
  else fail wording s

/-- Reads what a character must close: there is more to complain about than the end of the text. -/
def endedBy {α : Type} (closing : Char) (r : Reading α) : Reading α := fun s =>
  match r s with
  | .ok a => .ok a
  | .error m =>
    if s.isExtended && m.wording == "syntax error: unexpected end of file" then
      .error { m with wording := "unexpected EOF while looking for matching \x60" ++ closing.toString ++ "'" }
    else .error m

/-- Puts a token back. -/
def putBack (t : Token) : Reading Unit :=
  modify fun s => { s with ahead := some t }

/-- Applies a function to the source that also gives something. -/
def apply {α : Type} (f : Source → α × Source) : Reading α :=
  fun s => .ok (f s)

/-- Reads from another text whose first line has a number, and goes on in the source after that. -/
def within {α : Type} (line : Nat) (text : Bytes) (r : Reading α) : Reading α := fun s =>
  let inner := { s with rest := text, line, ahead := none, owed := 0, lineStart := text, base := 0 }
  match r inner.atToken with
  | .ok (a, _) => .ok (a, s)
  | .error m => .error m

end Reading

end ScriptDeps.Shell
