/-
The tokens of programs of the record language.

A slash divides behind what can be divided, and begins a pattern elsewhere.  In front of a closing
brace a semicolon is implied, and behind what cannot end a statement line ends count for nothing.
-/
import ScriptDeps.Shell.Awk.Script

namespace ScriptDeps.Shell.Awk

inductive Token where
  | newline
  | semicolon
  /-- The semicolon in front of a closing brace. -/
  | implied
  | sign (text : String)
  | keyword (text : String)
  | builtin (text : String)
  /-- A name, and whether a parenthesis follows at once. -/
  | name (b : Bytes) (isCalled : Bool)
  | number (x : Float) (text : Bytes)
  | text (b : Bytes)
  | pattern (b : Bytes)
  | finish
  /-- What is no token, and the complaint about it. -/
  | broken (complaint : Bytes)
  /-- What closes nothing. -/
  | stray (c : Char)

/-- A token and its line. -/
structure Placed where
  token : Token
  line : Nat

namespace Token

def keywords : List String :=
  ["BEGIN", "END", "break", "continue", "delete", "do", "else", "exit", "for", "function", "getline",
    "if", "in", "next", "nextfile", "print", "printf", "return", "while"]

/-- The signs, longer ones first. -/
def signs : List String :=
  ["+=", "++", "-=", "--", "*=", "/=", "%=", "^=", "==", "!=", "!~", "<=", ">=", ">>", "||", "&&", "+",
    "-", "*", "/", "%", "^", "!", "<", ">", "=", "|", "~", "?", ":", "$", ",", "(", ")", "[", "]", "\x7b",
    "\x7d"]

/-- What can be divided ends in this token. -/
def isDividend : Token → Bool
  | .number .. | .text _ | .pattern _ | .name .. => true
  | .keyword word => word == "getline"
  | .sign w => [")", "]", "++", "--"].contains w
  | _ => false

/-- Line ends behind this token count for nothing. -/
def isOpen : Token → Bool
  | .newline | .semicolon => true
  | .sign w => ["\x7b", "&&", "||", ","].contains w
  | .keyword word => word == "do" || word == "else"
  | _ => false

/-- A statement ends in this token. -/
def endsStatement : Token → Bool
  | .newline | .semicolon | .implied => true
  | .sign w => w == "\x7d"
  | _ => false

/-- How a complaint shows the token. -/
def shown : Token → Bytes
  | .newline => "end of line".toList
  | .semicolon => [';']
  | .implied => ['\x7d']
  | .sign w | .keyword w | .builtin w => w.toList
  | .name b _ | .text b | .pattern b => b
  | .number _ b => b
  | .finish => "end of file".toList
  | .broken complaint => complaint
  | .stray c => [c]

end Token

namespace Scan

/-- The value of hexadecimal digits, two at most, and what is behind them. -/
def hexByte? (s : Bytes) : Option (Char × Bytes) :=
  let digits := (s.take 2).takeWhile fun c => (Arithmetic.digit? 16 c).isSome
  if digits.isEmpty then none
  else some (Char.ofNat (Arithmetic.inBase 16 digits), s.drop digits.length)

/-- A text with its escapes in their meanings.  A backslash in front of any other character stays. -/
def unescaped : Nat → Bytes → Bytes
  | 0, s => s
  | _, [] => []
  | fuel + 1, '\\' :: c :: s =>
    let here : Bytes × Bytes :=
      if Printing.isOctal c then
        let (byte, rest) := Printing.octalByte (c :: s)
        ([byte], rest)
      else if c == 'x' then
        match hexByte? s with
        | some (byte, rest) => ([byte], rest)
        | none => (['\\', 'x'], s)
      else if c == '"' then (['"'], s)
      else if c == '\n' then ([], s)
      else if c == 'e' then (['\\', 'e'], s)
      else
        match Printing.letter? c with
        | some byte => ([byte], s)
        | none => (['\\', c], s)
    here.1 ++ unescaped fuel here.2
  | fuel + 1, c :: s => c :: unescaped fuel s

/-- The text up to a quote that no backslash is in front of, as it is written, and what is behind the
quote. -/
def quoted? : Bytes → Option (Bytes × Bytes)
  | [] | '\n' :: _ => none
  | '"' :: rest => some ([], rest)
  | '\\' :: c :: rest => (quoted? rest).map fun (b, rest) => ('\\' :: c :: b, rest)
  | c :: rest => (quoted? rest).map fun (b, rest) => (c :: b, rest)

/-- The pattern up to a slash that stands neither behind a backslash nor in a list, and what is behind
the slash. -/
def slashed? : Bool → Bytes → Option (Bytes × Bytes)
  | _, [] | _, '\n' :: _ => none
  | inList, '\\' :: c :: rest =>
    (slashed? inList rest).map fun (b, rest) => (if c == '/' then ('/' :: b, rest) else ('\\' :: c :: b, rest))
  | inList, c :: rest =>
    if c == '/' && !inList then some ([], rest)
    else if c == '[' && !inList then
      -- A bracket at the front of a list does not close it.
      match rest with
      | '^' :: ']' :: rest => (slashed? true rest).map fun (b, rest) => ('[' :: '^' :: ']' :: b, rest)
      | ']' :: rest => (slashed? true rest).map fun (b, rest) => ('[' :: ']' :: b, rest)
      | rest => (slashed? true rest).map fun (b, rest) => ('[' :: b, rest)
    else
      let still := inList && c != ']'
      (slashed? still rest).map fun (b, rest) => (c :: b, rest)

/-- What is left behind blanks, comments and line ends, with the number of those line ends.  Line ends
that no backslash is in front of count as blanks if they are to be skipped. -/
def skip (skipsLines : Bool) : Nat → Nat → Bytes → Nat × Bytes
  | 0, lines, s => (lines, s)
  | fuel + 1, lines, s =>
    match s with
    | '\\' :: '\n' :: rest => skip skipsLines fuel (lines + 1) rest
    | '\\' :: '\r' :: '\n' :: rest => skip skipsLines fuel (lines + 1) rest
    | '#' :: rest => skip skipsLines fuel lines (rest.dropWhile (· != '\n'))
    | '\n' :: rest => if skipsLines then skip skipsLines fuel (lines + 1) rest else (lines, s)
    | c :: rest => if Bytes.isSpace c then skip skipsLines fuel lines rest else (lines, s)
    | [] => (lines, [])

/-- A number at the front, and what is behind it. -/
def number? (s : Bytes) : Option (Token × Bytes) :=
  let (whole, part, rest) := Double.pointed Char.isDigit s
  if whole.isEmpty && part.isEmpty then none
  else
    let (exponent, rest) := Double.exponentBehind ['e', 'E'] rest
    let (d, _) := Double.ofDecimal false (whole ++ part) (exponent - part.length)
    some (.number (Number.ofParts d) (s.take (s.length - rest.length)), rest)

/-- A word at the front, and what is behind it. -/
def word (s : Bytes) : Token × Bytes :=
  let (b, rest) := s.span Bytes.isNameChar
  let text := String.ofList b
  let token := if Token.keywords.contains text then .keyword text
    else if (Builtin.table.lookup text).isSome || text == "split" || text == "sub" || text == "gsub" then
      .builtin text
    else .name b (rest.head? == some '(')
  (token, rest)

/-- The token at the front behind another one, and what is behind it. -/
def token (before : Token) (line : Nat) (s : Bytes) : Token × Bytes :=
  match s with
  | [] => (.finish, [])
  | '\n' :: rest => (.newline, rest)
  | ';' :: rest => (.semicolon, rest)
  | '"' :: rest =>
    match quoted? rest with
    | some (b, rest) => (.text (unescaped b.length b), rest)
    | none => (.broken ("runaway string constant \"".toList ++ (rest.takeWhile (· != '\n')).take 10 ++ " ...".toList), [])
  | c :: rest =>
    if c == '/' && !before.isDividend then
      match slashed? false rest with
      | some (b, rest) => (.pattern b, rest)
      | none => (.broken ("runaway regular expression /".toList ++ (rest.takeWhile (· != '\n')).take 10 ++
          " ...".toList), [])
    else if Bytes.isNameStart c then word s
    else
      match (if c.isDigit || c == '.' then number? s else none) with
      | some found => found
      | none =>
        match Token.signs.find? fun sign => sign.toList.isPrefixOf s with
        | some sign => (.sign sign, s.drop sign.length)
        | none => (.broken (Bytes.ofNat line ++ ": unexpected character '".toList ++ [c, '\x27']), rest)

/-- The tokens of a program behind one, with the numbers of braces and of parentheses that are open. -/
def tokens : Nat → Token → Nat → Nat → Nat → Bytes → List Placed
  | 0, _, line, _, _, _ => [⟨.finish, line⟩]
  | fuel + 1, before, line, braces, parens, s =>
    let (lines, s) := skip before.isOpen (s.length + 1) 0 s
    let line := line + lines
    let (here, rest) := token before line s
    let placed : Placed := ⟨here, line⟩
    match here with
    | .finish => [placed]
    | .broken _ => [placed]
    | .newline => placed :: tokens fuel here (line + 1) braces parens rest
    | .sign "\x7b" => placed :: tokens fuel here line (braces + 1) 0 rest
    | .sign "(" => placed :: tokens fuel here line braces (parens + 1) rest
    | .sign ")" =>
      if parens == 0 then ⟨.stray ')', line⟩ :: tokens fuel before line braces 0 rest
      else placed :: tokens fuel here line braces (parens - 1) rest
    | .sign "\x7d" =>
      if braces == 0 then ⟨.stray '\x7d', line⟩ :: tokens fuel here line 0 parens rest
      else
        -- Behind a rule a semicolon counts for nothing.
        let (lines, rest) := if braces == 1 then
            match skip false (rest.length + 1) 0 rest with
            | (lines, ';' :: rest) => (lines, rest)
            | _ => (0, rest)
          else (0, rest)
        let (more, rest) := skip true (rest.length + 1) 0 rest
        let behind := tokens fuel here (line + lines + more) (braces - 1) parens rest
        if before.endsStatement then placed :: behind else ⟨.implied, line⟩ :: placed :: behind
    | _ => placed :: tokens fuel here line braces parens rest

/-- The tokens of a program. -/
def all (s : Bytes) : List Placed :=
  let s := s ++ ['\n']
  tokens (2 * s.length + 2) .newline 1 0 0 s

end Scan

end ScriptDeps.Shell.Awk
