/-
Reading the commands of shell scripts.

A script is read command by command, where a command goes on to the end of its line, and the
lines of what is inside it.  Words are read together with the commands that may stand in
them.  The words of the grammar, such as `if` and `done`, count only where a command can
begin.

Every reader takes fuel, which each call hands on less one; it is enough that the fuel
exceeds the length of the text, as every step takes a byte or goes down one level.
-/
import ScriptDeps.Shell.Enclosed
import ScriptDeps.Shell.Source

namespace ScriptDeps.Shell.Parser

open Reading Enclosed

/-- What surrounds a text whose parts are read. -/
inductive Around where
  /-- Nothing: it is a word, up to where an unquoted word ends. -/
  | nothing
  /-- Double quotes. -/
  | quotes
  /-- Braces, inside double quotes or not. -/
  | braces (quoted : Bool)
  /-- The ends of a text that is all read. -/
  | ends
  /-- The brackets of a calculation, in which so many are open. -/
  | brackets (depth : Nat)
  /-- The ends of a calculation in which quotes are taken off. -/
  | calculation
  /-- The ends of what names an element of a list. -/
  | key
  /-- Alternatives of a pattern, in which so many parentheses are open. -/
  | group (depth : Nat)
  /-- The end of a pattern that something takes the place of. -/
  | pattern
  /-- Nothing: it is an expression, in which so many parentheses are open. -/
  | expression (depth : Nat)
  deriving DecidableEq

namespace Around

/-- What is read counts as quoted. -/
def isQuoted : Around → Bool
  | .nothing | .key | .group _ | .pattern | .expression _ => false
  | .braces quoted => quoted
  | _ => true

/-- A character that ends an unquoted word. -/
def endsWord (c : Char) : Bool :=
  [' ', '\t', '\n', ';', '&', '|', '<', '>', '(', ')'].contains c

/-- A character that is not just a part of the text. -/
def isSpecial (a : Around) (c : Char) : Bool :=
  c == '\\' || c == '$' || c == '\x60' ||
    match a with
    | .nothing => c == '"' || c == '\x27' || endsWord c
    | .quotes => c == '"'
    | .braces quoted => c == '"' || c == '\x7d' || (!quoted && c == '\x27')
    | .ends => false
    | .brackets _ => c == '(' || c == ')'
    | .calculation => c == '"'
    | .key => c == '"' || c == '\x27'
    | .group _ => c == '"' || c == '\x27' || c == '(' || c == ')'
    | .pattern => c == '"' || c == '\x27' || c == '/' || c == '\x7d'
    | .expression depth => c == '"' || c == '\x27' || c == '(' || c == ')' ||
        (depth == 0 && c != '|' && endsWord c)

/-- A backslash takes away the meaning of the character behind it. -/
def escapes (a : Around) (c : Char) : Bool :=
  !a.isQuoted || c == '$' || c == '\x60' || c == '\\' ||
    match a with
    | .braces _ => c == '"' || c == '\x7d'
    | .quotes | .brackets _ | .calculation => c == '"'
    | _ => false

/-- What is missing where the text ends, and the complaint about that, if it cannot end here. -/
def complaint? : Around → Option (Char × String)
  | .nothing | .ends | .calculation | .key => none
  | .quotes => some ('"', "Unterminated quoted string")
  | .braces true => some ('\x7d', "Unterminated quoted string")
  | .braces false | .pattern => some ('\x7d', "Missing '\x7d'")
  | .brackets _ => some (')', "Missing '))'")
  | .group _ => some (')', "Missing ')'")
  | .expression depth => if depth == 0 then none else some (')', "Missing ')'")

end Around

/-! ### Variables -/

/-- A name of one character that is neither a letter nor an underscore. -/
def isSpecialName (c : Char) : Bool :=
  c.isDigit || ['@', '*', '#', '?', '$', '!', '-'].contains c

/-- The name of a variable at the front.  In braces a number may have several digits. -/
def name? (braces : Bool) (s : Source) : Option (Bytes × Source) :=
  match s.rest with
  | c :: _ =>
    if Bytes.isNameStart c then some (s.span Bytes.isNameChar)
    else if c.isDigit && braces then some (s.span Char.isDigit)
    else if isSpecialName c then some ([c], s.drop 1)
    else none
  | [] => none

/-- What an operator in braces does with a variable. -/
inductive Operator where
  | choice (kind : Fallback) (colon : Bool)
  | cut (kind : Cut)
  /-- The brace is closed: nothing is done. -/
  | none
  | unknown

/-- What an operator in braces does in the extended dialect. -/
inductive ExtendedOperator where
  | plain (o : Operator)
  | slice
  | replace (scope : Scope)
  | recase (kind : Recasing) (all : Bool)
  | transform (letter : Char)

/-- The operator behind the name of a variable in braces, and its length. -/
def operator (s : Bytes) : Operator × Nat :=
  match s with
  | '\x7d' :: _ => (.none, 1)
  | '-' :: _ => (.choice .use false, 1)
  | '+' :: _ => (.choice .replace false, 1)
  | '?' :: _ => (.choice .refuse false, 1)
  | '=' :: _ => (.choice .assign false, 1)
  | ':' :: '-' :: _ => (.choice .use true, 2)
  | ':' :: '+' :: _ => (.choice .replace true, 2)
  | ':' :: '?' :: _ => (.choice .refuse true, 2)
  | ':' :: '=' :: _ => (.choice .assign true, 2)
  | '%' :: '%' :: _ => (.cut ⟨false, true⟩, 2)
  | '#' :: '#' :: _ => (.cut ⟨true, true⟩, 2)
  | '%' :: _ => (.cut ⟨false, false⟩, 1)
  | '#' :: _ => (.cut ⟨true, false⟩, 1)
  | ':' :: _ :: _ => (.unknown, 2)
  | _ :: _ => (.unknown, 1)
  | [] => (.unknown, 0)

/-- The operator of the extended dialect behind the name of a variable in braces, and its length. -/
def extendedOperator (s : Bytes) : ExtendedOperator × Nat :=
  match s with
  | '/' :: '/' :: _ => (.replace .all, 2)
  | '/' :: '#' :: _ => (.replace .start, 2)
  | '/' :: '%' :: _ => (.replace .finish, 2)
  | '/' :: _ => (.replace .first, 1)
  | '^' :: '^' :: _ => (.recase .upper true, 2)
  | '^' :: _ => (.recase .upper false, 1)
  | ',' :: ',' :: _ => (.recase .lower true, 2)
  | ',' :: _ => (.recase .lower false, 1)
  | '~' :: '~' :: _ => (.recase .turned true, 2)
  | '~' :: _ => (.recase .turned false, 1)
  | '@' :: letter :: '\x7d' :: _ =>
    if "QEPAKakUuL".toList.contains letter then (.transform letter, 3) else (.plain .unknown, 0)
  | s =>
    match operator s with
    | (.unknown, _) => if s.head? == some ':' then (.slice, 1) else (.plain .unknown, 0)
    | (o, n) => (.plain o, n)

/-- The word is the front of an assignment of a list. -/
def isListFront (w : Word) : Bool :=
  match w.plain? with
  | some bytes =>
    let (name, rest) := bytes.span Bytes.isNameChar
    Bytes.isName name && (rest == ['='] || rest == ['+', '='])
  | none => false

/-- A list of items stands in the word. -/
def hasItems (w : Word) : Bool :=
  w.any fun
    | .items _ => true
    | _ => false

/-- The commands whose arguments may be assignments of lists. -/
def declaring : List String :=
  ["declare", "typeset", "local", "export", "readonly"]

/-- The word with the text in the place of what is assigned to at its front. -/
def withoutPlace (w : Word) : Word :=
  match w with
  | .place (.mk name key adds) :: rest =>
    let sign := if adds then ['+', '='] else ['=']
    match key with
    | some key => .text (name ++ ['[']) false :: key ++ .text (']' :: sign) false :: rest
    | none => .text (name ++ sign) false :: rest
  | w => w

/-- A character in front of alternatives in parentheses. -/
def isGroupSign (c : Char) : Bool :=
  ['?', '*', '+', '@', '!'].contains c

/-- The variable in `s` whose length is meant, where `#` stands in front of `s` in braces. -/
def lengthName? (s : Source) : Option (Bytes × Source) :=
  match name? true s with
  | some (name, after) =>
    match after.joined.rest with
    | '\x7d' :: _ => some (name, after.joined.drop 1)
    | _ => none
  | none => none

/-- The length of an operator would be meant, which has none. -/
def isOperatorLength (s : Source) : Bool :=
  match s.rest with
  | '#' :: _ =>
    let s := (s.drop 1).joined
    match s.rest, (s.drop 1).joined.rest with
    | c :: _, '\x7d' :: _ => c != '\x7d' && (name? true s).isNone
    | _, _ => false
  | _ => false

/-! ### Texts in back quotes -/

/-- The commands between back quotes, and what is behind them. -/
def untilBackquote (quoted : Bool) : Bytes → Option (Bytes × Bytes)
  | [] => none
  | '\x60' :: s => some ([], s)
  | '\\' :: c :: s =>
    let kept := if c == '\x60' || c == '$' || c == '\\' || (quoted && c == '"') then [c]
      else ['\\', c]
    (untilBackquote quoted s).map fun (a, b) => (kept ++ a, b)
  | c :: s => (untilBackquote quoted s).map fun (a, b) => (c :: a, b)

/-- Reads the commands between back quotes as a text. -/
def backquoted (quoted : Bool) : Reading Bytes := fun s =>
  match untilBackquote quoted s.rest with
  | none => if s.isExtended then unclosed '\x60' "" s else .error ⟨s.lastLine, "EOF in backquote substitution", []⟩
  | some (inner, rest) =>
    .ok (inner, s.counting (s.rest.take (s.rest.length - rest.length)) rest)

/-- The commands that a function cannot be named after. -/
def reserved : List String :=
  [".", ":", "break", "continue", "eval", "exec", "exit", "export", "local", "readonly",
    "return", "set", "shift", "times", "trap", "unset"]

/-- The text behind `<<` that ends the lines of a text, in which only quotes mean something. -/
def lastLine : Nat → Source → Option (Bytes × Bool × Source)
  | 0, _ => none
  | fuel + 1, s =>
    let s := s.joined
    let (run, after) := s.span fun c =>
      !(c == '\\' || c == '"' || c == '\x27' || Around.endsWord c)
    let go := fun (bytes : Bytes) (s : Source) =>
      (lastLine fuel s).map fun (more, _, s) => (run ++ bytes ++ more, true, s)
    match after.rest with
    | '\\' :: c :: _ => if c == '\n' then lastLine fuel after else go [c] (after.drop 2)
    | '"' :: _ =>
      let (inside, after) := (after.drop 1).span (· != '"')
      if after.rest.isEmpty then none else go inside (after.drop 1)
    | '\x27' :: _ =>
      let (inside, after) := (after.drop 1).span (· != '\x27')
      if after.rest.isEmpty then none else go inside (after.drop 1)
    | _ => some (run, false, after)

/-- What is inside quotes is only the arguments, of which there may be none. -/
def isArgumentsAlone : Word → Bool
  | [.variable ['@'] _] => true
  | [.braced (.mk name key _) operation _] =>
    (name == ['@'] || (key matches .each)) && !(operation matches .length)
  | _ => false

/-- Commands after one that may be there already. -/
def sequenced (before : Option Command) (c : Command) : Command :=
  before.elim c fun b => .sequence b c

/-- What stands behind a dollar sign in the extended dialect and is neither a variable nor in braces: the
bytes of a text in quotes, or the text of a calculation, and what is behind it. -/
def extendedDollar (quoted : Bool) (s : Bytes) : Option (Except Bytes Bytes × Bytes) :=
  match s with
  | '\x27' :: rest =>
    if quoted then none else (namedBytes (rest.length + 1) rest).map fun (b, rest) => (.ok b, rest)
  | '"' :: _ => if quoted then none else some (.ok [], s)
  | '[' :: rest => (closedBy? '[' ']' rest).map fun (raw, rest) => (.error raw, rest)
  | _ => none

/-- A command whose complaints go where it prints. -/
def merged (line : Nat) (c : Command) : Command :=
  let r : Redirect := .mk 2 (.copy [.text ['1'] false])
  match c with
  | .simple l assigned words redirects => .simple l assigned words (redirects ++ [r])
  | c => .group line c [r]

/-- The part that braces are. -/
def bracedPart (name : Bytes) (key : Key) (indirect : Bool) (operation : Operation) (quoted : Bool) : Part :=
  match key, indirect, operation with
  | .none, false, .value => .variable name quoted
  | .none, false, .choice kind colon word => .choice name kind colon word quoted
  | key, indirect, operation => .braced (.mk name key indirect) operation quoted

/-- The operators in front of an operand of a condition. -/
def isAsking (operator : Bytes) : Bool :=
  match operator with
  | ['-', c] => "abcdefghkprstuwxGLNOSnozvR".toList.contains c
  | _ => false

/-- The operators between two operands of a condition. -/
def isComparing (operator : Bytes) : Bool :=
  ["=", "==", "!=", "=~", "-eq", "-ne", "-lt", "-le", "-gt", "-ge", "-nt", "-ot", "-ef"].contains
    (String.ofList operator)

/-- A command with redirections of its own. -/
def redirected (line : Nat) (c : Command) : List Redirect → Command
  | [] => c
  | rs =>
    match c with
    | .subshell l c [] => .subshell l c rs
    | c => .group line c rs

/-! ### Words and commands -/

mutual

/-- The parts of a text, up to its end. -/
def parts : Nat → Around → Reading Word
  | 0, _ => fail "Unterminated quoted string"
  | fuel + 1, around => do
    modify Source.joined
    let run ← apply fun s => s.span fun c => !around.isSpecial c
    let quoted := around.isQuoted
    let s ← get
    if around == .nothing && s.groups && s.rest.head? == some '(' && run.getLast?.any isGroupSign then do
      set (s.drop 1)
      pure (Word.consText (run ++ ['(']) false (← parts fuel (.group 0)))
    else do
      let rest ← tail fuel around
      pure (if run.isEmpty then rest else Word.consText run quoted rest)

/-- The parts from a character on that is not just a part of the text. -/
def tail : Nat → Around → Reading Word
  | 0, _ => fail "Unterminated quoted string"
  | fuel + 1, around => do
    let s ← get
    let quoted := around.isQuoted
    match s.rest with
    | [] => around.complaint?.elim (pure []) fun (closing, wording) => unclosed closing wording
    | ['\\'] => do
      set (s.drop 1)
      pure (Word.consText ['\\'] true (← tail fuel around))
    | '\\' :: c :: _ =>
      if c == '\n' then parts fuel around
      else do
        set (s.drop 2)
        let bytes := if around.escapes c then [c] else ['\\', c]
        pure (Word.consText bytes true (← parts fuel around))
    | '$' :: _ => do
      set (s.drop 1)
      let part ← dollar fuel quoted
      pure (part :: (← parts fuel around))
    | '\x60' :: _ => do
      set (s.drop 1)
      let text ← backquoted quoted
      let c ← within 1 text (list fuel false true)
      pure (.output c quoted :: (← parts fuel around))
    | '\x27' :: _ => do
      let (inside, after) := (s.drop 1).span (· != '\x27')
      if after.rest.isEmpty then do
        set after
        unclosed '\x27' "Unterminated quoted string"
      else do
        set (after.drop 1)
        pure (.text inside true :: (← parts fuel around))
    | '"' :: _ => do
      set (s.drop 1)
      match around with
      | .quotes => pure []
      | .calculation => parts fuel around
      | _ => do
        let inside ← parts fuel .quotes
        let inside := if isArgumentsAlone inside then inside else .text [] true :: inside
        pure (inside ++ (← parts fuel around))
    | '\x7d' :: _ => do
      set (if around == .pattern then s else s.drop 1)
      pure []
    | c :: behind =>
      match around with
      | .nothing =>
        if s.isExtended && (c == '<' || c == '>') && behind.head? == some '(' then do
          set (s.drop 2)
          let commands ← endedBy ')' (inner fuel)
          closingMark fuel
          pure (.fed (c == '<') commands :: (← parts fuel around))
        else pure []
      | .group depth => do
        set (s.drop 1)
        let around := if c == '(' then .group (depth + 1) else if depth == 0 then .nothing else .group (depth - 1)
        pure (Word.consText [c] false (← parts fuel around))
      | .expression depth =>
        if c == '(' || 0 < depth then do
          set (s.drop 1)
          let depth := if c == '(' then depth + 1 else if c == ')' then depth - 1 else depth
          pure (Word.consText [c] false (← parts fuel (.expression depth)))
        else pure []
      | .brackets depth =>
        if c == '(' then do
          set (s.drop 1)
          pure (Word.consText [c] true (← parts fuel (.brackets (depth + 1))))
        else
          match depth, (s.drop 1).joined.rest with
          | 0, ')' :: _ => do
            set ((s.drop 1).joined.drop 1)
            pure []
          | _, _ => do
            set (s.drop 1)
            pure (Word.consText [c] true (← parts fuel (.brackets (depth - 1))))
      | _ => pure []

/-- The part behind a dollar sign. -/
def dollar : Nat → Bool → Reading Part
  | 0, _ => fail "Unterminated quoted string"
  | fuel + 1, quoted => do
    modify Source.joined
    let s ← get
    match s.rest with
    | '(' :: _ => do
      let inner := (s.drop 1).joined
      match inner.rest with
      | '(' :: text =>
        if s.isExtended then
          match closedBy? '(' ')' text with
          | some (raw, ')' :: rest) => do
            set (s.counting (s.rest.take (s.rest.length - rest.length)) rest)
            pure (.number (← within s.line raw (parts fuel .calculation)) quoted)
          | some _ => do
            set inner
            output fuel quoted
          | none => unclosed ')' "Missing '))'"
        else do
          set (inner.drop 1)
          pure (.number (← parts fuel (.brackets 0)) quoted)
      | _ => do
        set inner
        output fuel quoted
    | '\x7b' :: _ => do
      set (s.drop 1).joined
      if s.isExtended then extendedBraces fuel quoted else inBraces fuel quoted
    | _ =>
      match name? false s, (if s.isExtended then extendedDollar quoted s.rest else none) with
      | some (name, s), _ => do
        set s
        pure (.variable name quoted)
      | none, some (.ok bytes, rest) => do
        set (s.counting (s.rest.take (s.rest.length - rest.length)) rest)
        pure (.text bytes true)
      | none, some (.error raw, rest) => do
        set (s.counting (s.rest.take (s.rest.length - rest.length)) rest)
        pure (.number (← within s.line raw (parts fuel .calculation)) quoted)
      | none, none =>
        if s.isExtended && s.rest.head? == some '[' then unclosed ']' "Missing ']'"
        else pure (.text ['$'] quoted)

/-- The output of the commands in parentheses behind a dollar sign. -/
def output : Nat → Bool → Reading Part
  | 0, _ => fail "Unterminated quoted string"
  | fuel + 1, quoted => do
    let c ← endedBy ')' (inner fuel)
    closingMark fuel
    pure (.output c quoted)

/-- The commands of which a word holds the output.  In the extended dialect their lines are counted from
the one that the first of them begins on. -/
def inner : Nat → Reading Command
  | 0 => fail "Unterminated quoted string"
  | fuel + 1 => do
    let outer ← get
    if !outer.isExtended then list fuel false true
    else do
      putBack (← plain fuel true true)
      modify fun s => { s with base := s.tokenLine - 1 }
      let c ← list fuel false true
      modify fun s => { s with base := outer.base }
      pure c

/-- The parenthesis that must stand here. -/
def closingMark : Nat → Reading Unit
  | 0 => pure ()
  | fuel + 1 => do
    let t ← endedBy ')' (token fuel false false)
    if t.isMark ")" then pure () else endedBy ')' (unexpected t (some ")"))

/-- The variable or the elements at the front of what stands in braces, if it begins with a name. -/
def subject : Nat → Reading (Option (Bytes × Key))
  | 0 => pure none
  | fuel + 1 => do
    match name? true (← get) with
    | none => pure none
    | some (name, after) =>
      match (if Bytes.isName name then after.rest else []) with
      | '[' :: rest =>
        match closedBy? '[' ']' rest with
        | none => pure none
        | some (raw, rest) => do
          set (after.counting (after.rest.take (after.rest.length - rest.length)) rest)
          if raw.isEmpty then pure none
          else if raw == ['@'] then pure (some (name, .each))
          else if raw == ['*'] then pure (some (name, .joined))
          else pure (some (name, .one (← within after.line raw (parts fuel .key))))
      | _ => do
        set after
        pure (some (name, .none))

/-- The part behind a dollar sign and a brace in the extended dialect. -/
def extendedBraces : Nat → Bool → Reading Part
  | 0, _ => fail "Missing '\x7d'"
  | fuel + 1, quoted => do
    let s ← get
    let front := s.rest.head?
    if front == some '#' then
      set (s.drop 1).joined
      match ← subject fuel with
      | some (name, key) => do
        let after ← get
        if after.rest.head? == some '\x7d' then do
          set (after.drop 1)
          if key matches .none then pure (.length name quoted)
          else pure (.braced (.mk name key false) .length quoted)
        else do
          set s
          operation fuel s false quoted
      | none => do
        set s
        operation fuel s false quoted
    else if front == some '!' && (s.rest.drop 1).head?.any (fun c => !"\x7d:-+=%".toList.contains c) then do
      set (s.drop 1).joined
      operation fuel s true quoted
    else operation fuel s false quoted

/-- What is done in braces, from the name on; `start` is where the braces begin. -/
def operation : Nat → Source → Bool → Bool → Reading Part
  | 0, _, _, _ => fail "Missing '\x7d'"
  | fuel + 1, start, indirect, quoted => do
    let senseless : Reading Part := do
      match closedBy? '\x7b' '\x7d' start.rest with
      | none => unclosed '\x7d' "Missing '\x7d'"
      | some (raw, rest) => do
        set (start.counting (start.rest.take (start.rest.length - rest.length)) rest)
        pure (.braced (.mk [] .none false) (.unknown ("$\x7b".toList ++ raw ++ ['\x7d'])) quoted)
    match ← subject fuel with
    | none => senseless
    | some (name, key) => do
      let after := (← get).joined
      let whole := fun (o : Operation) => bracedPart name key indirect o quoted
      let isName := indirect && (key matches .none) && Bytes.isName name
      match after.rest with
      | '*' :: '\x7d' :: _ =>
        if isName then do
          set (after.drop 2)
          pure (.braced (.mk name .joined false) .names quoted)
        else senseless
      | '@' :: '\x7d' :: _ =>
        if isName then do
          set (after.drop 2)
          pure (.braced (.mk name .each false) .names quoted)
        else senseless
      | text => do
        let (operator, size) := extendedOperator text
        set (after.drop size)
        match operator with
        | .plain .none =>
          let isList := indirect && ((key matches .each) || (key matches .joined))
          pure (if isList then .braced (.mk name key false) .keys quoted else whole .value)
        | .plain (.choice kind colon) => do pure (whole (.choice kind colon (← parts fuel (.braces quoted))))
        | .plain (.cut kind) => do pure (whole (.cut kind (← parts fuel (.braces false))))
        | .plain .unknown => senseless
        | .recase kind all => do pure (whole (.recase kind all (← parts fuel (.braces false))))
        | .transform letter => pure (whole (.transform letter))
        | .replace scope => do
          let pattern ← parts fuel .pattern
          let s ← get
          set (s.drop 1)
          if s.rest.head? == some '/' then
            pure (whole (.replace scope pattern (← parts fuel (.braces false))))
          else pure (whole (.replace scope pattern []))
        | .slice =>
          match closedBy? '\x7b' '\x7d' (text.drop size) with
          | none => unclosed '\x7d' "Missing '\x7d'"
          | some (raw, rest) => do
            set (after.counting (text.take (text.length - rest.length)) rest)
            let (first, second) := cutSlice 0 raw
            let first ← within after.line first (parts fuel .calculation)
            match second with
            | none => pure (whole (.slice first none))
            | some second => do
              pure (whole (.slice first (some (← within after.line second (parts fuel .calculation)))))

/-- The part behind a dollar sign and a brace. -/
def inBraces : Nat → Bool → Reading Part
  | 0, _ => fail "Missing '\x7d'"
  | fuel + 1, quoted => do
    let s ← get
    match (if s.rest.head? == some '#' then lengthName? (s.drop 1).joined else none) with
    | some (name, after) => do
      set after
      pure (.length name quoted)
    | none =>
      match (if isOperatorLength s then none else name? true s) with
      | none => do
        set (if s.rest.head? == some '\x7d' then s else s.drop 1)
        let _ ← parts fuel (.braces quoted)
        pure .senseless
      | some (name, after) => do
        let after := after.joined
        let (operator, size) := operator after.rest
        set (after.drop size)
        match operator with
        | .none => pure (.variable name quoted)
        | .choice kind colon => pure (.choice name kind colon (← parts fuel (.braces quoted)) quoted)
        | .cut kind => pure (.cut name kind (← parts fuel (.braces false)) quoted)
        | .unknown => do
          let _ ← parts fuel (.braces quoted)
          pure .senseless

/-- The next token as it stands.  `lines` tells that line ends are passed over, and `grammar` that
the words of the grammar count. -/
def plain : Nat → Bool → Bool → Reading Token
  | 0, _, _ => pure .endOfText
  | fuel + 1, lines, grammar => do
    let s ← get
    let t ← match s.ahead with
      | some t => do
        set { s with ahead := none }
        pure t
      | none => fresh fuel
    match t with
    | .lineEnd => if lines then plain fuel lines grammar else pure t
    | .word w =>
      match (if grammar then Token.keyword? s.dialect w else none) with
      | some name => pure (.keyword name)
      | none => pure t
    | t => pure t

/-- The next token, which has not been read before. -/
def fresh : Nat → Reading Token
  | 0 => pure .endOfText
  | fuel + 1 => do
    modify fun s => s.afterGaps.atToken
    let s ← get
    let operator? := if s.isExtended then Token.extendedRedirect? s.rest
      else (Token.numbered? s.rest).map fun (descriptor, operator, size) =>
        (.redirect descriptor operator, size)
    let mark? := if s.isExtended then (Token.extendedMark? s.rest).orElse fun _ => Token.mark? s.rest
      else Token.mark? s.rest
    match s.rest with
    | [] => pure .endOfText
    | '\n' :: rest => do
      set (s.afterLine rest)
      pure .lineEnd
    | '#' :: _ => do
      set (s.span (· != '\n')).2
      fresh fuel
    | _ =>
      match operator?, mark? with
      | some (t, size), _ => do
        set (s.drop size)
        pure t
      | none, some (text, size) => do
        set (s.drop size)
        pure (.mark text)
      | none, none =>
        match (if s.isExtended then element? s.rest else none) with
        | some (name, key, adds, rest) => do
          set (s.counting (s.rest.take (s.rest.length - rest.length)) rest)
          let key ← within s.line key (parts fuel .key)
          pure (.word (.place (.mk name (some key) adds) :: (← parts fuel .nothing)))
        | none => do
          let w ← parts fuel .nothing
          let s ← get
          if s.isExtended && s.rest.head? == some '(' && isListFront w then do
            set (s.drop 1)
            pure (.word (w ++ [.items (← items fuel)]))
          else pure (.word w)

/-- The items of a list up to the parenthesis that closes it. -/
def items : Nat → Reading (List (Option Word × Bool × Word))
  | 0 => pure []
  | fuel + 1 => do
    modify fun s => s.afterGaps
    let s ← get
    match s.rest with
    | [] => unclosed ')' "Missing ')'"
    | ')' :: _ => do
      set (s.drop 1)
      pure []
    | '\n' :: rest => do
      set (s.afterLine rest)
      items fuel
    | '#' :: _ => do
      set (s.span (· != '\n')).2
      items fuel
    | text =>
      match element?.key? text with
      | some (key, adds, rest) => do
        set (s.counting (s.rest.take (s.rest.length - rest.length)) rest)
        let key ← within s.line key (parts fuel .key)
        let w ← parts fuel .nothing
        pure ((some key, adds, w) :: (← items fuel))
      | none => do
        match ← fresh fuel with
        | .word w => do pure ((none, false, withoutPlace w.withHome) :: (← items fuel))
        | t => unexpected t none

/-- The next token; a word may stand for a text if `always`, or behind a text that ends in a
blank. -/
def named : Nat → Bool → Bool → Bool → Reading Token
  | 0, _, _, _ => pure .endOfText
  | fuel + 1, always, lines, grammar => do
    let before ← get
    let t ← plain fuel lines grammar
    let after ← get
    let always := always || before.crosses after
    match t with
    | .word w =>
      let s := after.settled
      match w.plain?.bind fun name =>
          if !always || s.replacing.any (·.name == name) then none
          else (s.aliases.lookup name).map fun text => (name, text) with
      | some (name, text) => do
        set (s.withText name text)
        named fuel true lines grammar
      | none => pure t
    | t => pure t

/-- The next token. -/
def token : Nat → Bool → Bool → Reading Token
  | 0, _, _ => pure .endOfText
  | fuel + 1, lines, grammar => named fuel false lines grammar

/-- The next token where words may stand for texts. -/
def replaced : Nat → Bool → Bool → Reading Token
  | 0, _, _ => pure .endOfText
  | fuel + 1, lines, grammar => named fuel true lines grammar

/-- A word should stand where a token stands. -/
def missingWord (t : Token) : Reading Command :=
  fail (t.name ++ " unexpected (expecting word)")

/-- The redirection of an operator that has been read. -/
def redirection : Nat → Option Nat → String → Reading Redirect
  | 0, _, _ => fail "end of file unexpected"
  | fuel + 1, descriptor, operator =>
    if operator == "<<" || operator == "<<-" then do
      modify Source.afterGaps
      let s ← get
      match lastLine (s.rest.length + 1) s with
      | none => fail "Unterminated quoted string"
      | some (last, quoted, after) =>
        if after.rest.length == s.rest.length then do
          unexpected (← token fuel false false) none
        else do
          let first := after.line + after.owed + 1
          let (text, after) := after.takeBelow (operator == "<<-") last
          set after
          let word ← if quoted then pure [.text text true]
            else within first text (parts fuel .ends)
          pure (.mk (descriptor.getD 0) (.here word))
    else do
      match ← token fuel false false with
      | .word w =>
        pure <| match operator with
          | "<" => .mk (descriptor.getD 0) (.read w)
          | ">" => .mk (descriptor.getD 1) (.write w)
          | ">|" => .mk (descriptor.getD 1) (.replace w)
          | ">>" => .mk (descriptor.getD 1) (.append w)
          | "<<<" => .mk (descriptor.getD 0) (.line w.withHome)
          | "&>" => .mk 1 (.writeAll w)
          | "&>>" => .mk 1 (.appendAll w)
          | "<>" => .mk (descriptor.getD 0) (.both w)
          | "<&" => .mk (descriptor.getD 0) (.copy w)
          | _ => .mk (descriptor.getD 1) (.copy w)
      | t => unexpectedHere t none

/-- The redirections behind a command. -/
def redirections : Nat → Reading (List Redirect)
  | 0 => pure []
  | fuel + 1 => do
    match ← replaced fuel false true with
    | .redirect descriptor operator => do
      let r ← redirection fuel descriptor operator
      pure (r :: (← redirections fuel))
    | .redirectNamed name operator => do
      let .mk _ change ← redirection fuel none operator | redirections fuel
      pure (.named name change :: (← redirections fuel))
    | t => do
      putBack t
      pure []

/-- Commands up to a token that ends them, which is put back.  There must be one at least,
unless `optional` tells otherwise. -/
def list : Nat → Bool → Bool → Reading Command
  | 0, _, _ => fail "end of file unexpected"
  | fuel + 1, top, optional => do
    pure ((← listFrom fuel top optional none).getD .skip)

/-- The same after commands that have been read.  At the top of a script the commands end with
their line, and there is nothing only at the end of the text. -/
def listFrom : Nat → Bool → Bool → Option Command → Reading (Option Command)
  | 0, _, _, _ => fail "end of file unexpected"
  | fuel + 1, top, optional, before => do
    match ← replaced fuel (!top) true with
    | .lineEnd => pure (some (before.getD .skip))
    | .endOfText => do
      putBack .endOfText
      pure before
    | t => do
      putBack t
      if optional && !top && t.endsList then pure before
      else do
        let c ← andOr fuel
        match ← token fuel false false with
        | .mark "&" => listFrom fuel top true (some (sequenced before (.background c)))
        | .mark ";" => listFrom fuel top true (some (sequenced before c))
        | .lineEnd => do
          putBack .lineEnd
          listFrom fuel top true (some (sequenced before c))
        | .endOfText => do
          putBack .endOfText
          listFrom fuel top true (some (sequenced before c))
        | t =>
          if top then unexpected t none
          else do
            putBack t
            pure (some (sequenced before c))

/-- Pipelines joined by `&&` and `||`. -/
def andOr : Nat → Reading Command
  | 0 => fail "end of file unexpected"
  | fuel + 1 => do andOrTail fuel (← pipeline fuel false)

/-- What is joined to a command on its right. -/
def andOrTail : Nat → Command → Reading Command
  | 0, c => pure c
  | fuel + 1, c => do
    match ← token fuel false false with
    | .mark "&&" => do andOrTail fuel (.and c (← pipeline fuel true))
    | .mark "||" => do andOrTail fuel (.or c (← pipeline fuel true))
    | t => do
      putBack t
      pure c

/-- A pipeline, perhaps turned round. -/
def pipeline : Nat → Bool → Reading Command
  | 0, _ => fail "end of file unexpected"
  | fuel + 1, lines => do pipelineFrom fuel false (← replaced fuel lines true)

/-- A pipeline whose first token has been read; `turned` tells that it is turned round. -/
def pipelineFrom : Nat → Bool → Token → Reading Command
  | 0, _, t => unexpected t none
  | fuel + 1, turned, t => do
    let isExtended := (← get).isExtended
    if t.isKeyword "!" && (!turned || isExtended) then do
      let t ← replaced fuel false true
      pure (.not (← perhaps fuel true t))
    else if t.isKeyword "time" then do
      match ← replaced fuel false true with
      | .word [.text ['-', 'p'] false] => do pure (.timed true (← perhaps fuel turned (← replaced fuel false true)))
      | t => do pure (.timed false (← perhaps fuel turned t))
    else do
      match ← stages fuel (← command fuel t) with
      | [c] => pure c
      | cs => pure (.pipeline cs)

/-- A pipeline, or in the extended dialect nothing. -/
def perhaps : Nat → Bool → Token → Reading Command
  | 0, _, t => unexpected t none
  | fuel + 1, turned, t => do
    let isEnd := t matches .endOfText || t matches .lineEnd || t.isMark ";"
    if (← get).isExtended && isEnd then do
      putBack t
      pure .skip
    else pipelineFrom fuel turned t

/-- A command and the further commands of its pipeline. -/
def stages : Nat → Command → Reading (List Command)
  | 0, c => pure [c]
  | fuel + 1, c => do
    match ← token fuel false false with
    | .mark "|" => do
      let next ← command fuel (← replaced fuel true true)
      pure (c :: (← stages fuel next))
    | .mark "|&" => do
      let next ← command fuel (← replaced fuel true true)
      pure (merged (← get).commandLine c :: (← stages fuel next))
    | t => do
      putBack t
      pure [c]

/-- One command, whose first token has been read. -/
def command : Nat → Token → Reading Command
  | 0, t => unexpected t none
  | fuel + 1, t => do
    let line := (← get).commandLine
    match t with
    | .word _ | .redirect .. | .redirectNamed .. => do
      putBack t
      simple fuel line true [] [] []
    | .keyword "[[" => do
      let c ← anyCondition fuel
      match ← token fuel true false with
      | .word [.text [']', ']'] false] => pure (redirected line (.test line c) (← redirections fuel))
      | t => conditionFault t none
    | .keyword "select" => do
      let c ← each fuel line true
      pure (redirected line c (← redirections fuel))
    | .keyword "function" => do
      match ← token fuel false false with
      | .word w => do
        match ← token fuel true true with
        | .mark "(" => do
          closingMark fuel
          function fuel w (← replaced fuel true true)
        | t => function fuel w t
      | t => unexpected t none
    | .keyword "if" => do
      let c ← branch fuel
      pure (redirected line c (← redirections fuel))
    | .keyword "while" => do
      let c ← loop fuel true
      pure (redirected line c (← redirections fuel))
    | .keyword "until" => do
      let c ← loop fuel false
      pure (redirected line c (← redirections fuel))
    | .keyword "for" => do
      let c ← each fuel line false
      pure (redirected line c (← redirections fuel))
    | .keyword "case" => do
      let c ← cases fuel line
      pure (redirected line c (← redirections fuel))
    | .keyword "\x7b" => do
      let c ← list fuel false false
      closing fuel "\x7d"
      let redirects ← redirections fuel
      match (← get).dialect, c, redirects with
      -- Behind a subshell alone in braces they take the place of its own.
      | .plain, .subshell l c _, _ :: _ => pure (.subshell l c redirects)
      | _, c, redirects => pure (redirected line c redirects)
    | .mark "(" => do
      match ← calculationAt fuel with
      | some (raw, line) => do
        let expression ← within line raw (parts fuel .calculation)
        pure (redirected line (.calculate line expression) (← redirections fuel))
      | none => do
        let c ← list fuel false false
        let t ← token fuel false false
        if t.isMark ")" then pure (redirected line (.subshell line c []) (← redirections fuel))
        else unexpected t (some ")")
    | t => unexpected t none

/-- The calculation between double parentheses of which the first one has been read, if there is one
here. -/
def calculationAt : Nat → Reading (Option (Bytes × Nat))
  | 0 => pure none
  | _ + 1 => do
    let s ← get
    match (if s.isExtended then s.rest else []) with
    | '(' :: text =>
      match closedBy? '(' ')' text with
      | some (raw, ')' :: rest) => do
        set (s.counting (s.rest.take (s.rest.length - rest.length)) rest)
        pure (some (raw, s.commandLine))
      | some _ => pure none
      | none => unclosed ')' "Missing '))'"
    | _ => pure none

/-- The body of a function in the extended dialect, whose first token has been read. -/
def function : Nat → Word → Token → Reading Command
  | 0, _, t => unexpected t none
  | fuel + 1, name, t => do
    let line := (← get).commandLine
    match t with
    | .word _ | .redirect .. | .redirectNamed .. => unexpected t none
    | t => pure (.define line name.literal (← command fuel t))

/-- A condition does not go on with a token. -/
def conditionFault (t : Token) (wording : Option String) : Reading Command := do
  if t matches .endOfText then
    let s ← get
    fun _ => .error ⟨s.tokenLine, "unexpected EOF while looking for `]]'",
      [(s.endLine, "syntax error: unexpected end of file")]⟩
  let text := String.ofList ((← get).tokenText t)
  failAt (wording.toList ++ ["syntax error near \x60" ++ text ++ "'"])

/-- Conditions of which one must hold. -/
def anyCondition : Nat → Reading Condition
  | 0 => fail "end of file unexpected"
  | fuel + 1 => do
    let a ← allConditions fuel
    match ← token fuel true false with
    | .mark "||" => do pure (.or a (← anyCondition fuel))
    | t => do
      putBack t
      pure a

/-- Conditions of which all must hold. -/
def allConditions : Nat → Reading Condition
  | 0 => fail "end of file unexpected"
  | fuel + 1 => do
    let a ← oneCondition fuel
    match ← token fuel true false with
    | .mark "&&" => do pure (.and a (← allConditions fuel))
    | t => do
      putBack t
      pure a

/-- One condition. -/
def oneCondition : Nat → Reading Condition
  | 0 => fail "end of file unexpected"
  | fuel + 1 => do
    let t ← token fuel true false
    let text := fun (t : Token) => do pure (String.ofList ((← get).tokenText t))
    let fault := fun (t : Token) (wording : Option String) => do
      let near ← text t
      failAt (wording.toList ++ ["syntax error near \x60" ++ near ++ "'"])
    match t with
    | .mark "(" => do
      let c ← anyCondition fuel
      let t ← token fuel true false
      if t.isMark ")" then pure c
      else fault t (some ("unexpected token \x60" ++ (← text t) ++ "', expected \x60)'"))
    | .word w =>
      let plain := w.plain?.getD []
      if plain == "]]".toList then fault t none
      else if plain == ['!'] then do pure (.not (← oneCondition fuel))
      else if isAsking plain then do
        match ← token fuel false false with
        | .word a =>
          if a.plain? == some "]]".toList then
            fault (.word a) (some "unexpected argument \x60]]' to conditional unary operator")
          else pure (.ask plain a.withHome)
        | t => fault t (some ("unexpected argument \x60" ++ (← text t) ++ "' to conditional unary operator"))
      else do
        let w := withoutPlace w.withHome
        let near ← text t
        match ← token fuel false false with
        | .word o =>
          let operator := o.plain?.getD []
          if operator == "]]".toList then do
            putBack (.word o)
            pure (.ask "-n".toList w)
          else if isComparing operator then do pure (.compare w operator (← operand fuel operator))
          else fault (.word o) (some "conditional binary operator expected")
        | .redirect none "<" => do pure (.compare w ['<'] (← operand fuel ['<']))
        | .redirect none ">" => do pure (.compare w ['>'] (← operand fuel ['>']))
        | t =>
          if t.isMark "&&" || t.isMark "||" || t.isMark ")" then do
            putBack t
            pure (.ask "-n".toList w)
          else
            failAt ["unexpected token \x60" ++ (← text t) ++ "', conditional binary operator expected",
              "syntax error near \x60" ++ near ++ "'"]
    | t => fault t none

/-- The operand behind an operator of a condition. -/
def operand : Nat → Bytes → Reading Word
  | 0, _ => fail "end of file unexpected"
  | fuel + 1, operator => do
    if operator == "=~".toList then do
      modify fun s => s.afterGaps.atToken
      parts fuel (.expression 0)
    else do
      let before ← get
      set { before with groups := before.groups || ["=", "==", "!="].contains (String.ofList operator) }
      let t ← token fuel false false
      modify fun s => { s with groups := before.groups }
      match t with
      | .word w =>
        if w.plain? == some "]]".toList then
          failAt ["unexpected argument \x60]]' to conditional binary operator", "syntax error near \x60]]'"]
        else pure (withoutPlace w.withHome)
      | t => unexpected t none

/-- The keyword that must stand here. -/
def closing : Nat → String → Reading Unit
  | 0, _ => pure ()
  | fuel + 1, name => do
    let t ← token fuel false true
    if t.isKeyword name then pure () else unexpected t (some name)

/-- The rest of a simple command; assignments stand before the first other word.  What has
been read of it is given in reverse. -/
def simple : Nat → Nat → Bool → List (Place × Word) → List Word → List Redirect →
    Reading Command
  | 0, _, _, _, _, _ => fail "end of file unexpected"
  | fuel + 1, line, leading, assigned, words, redirects => do
    let before ← get
    let t ← if leading then replaced fuel false false else token fuel false false
    let after ← get
    let isSecond := before.isExtended && assigned.length + words.length + redirects.length == 1
    let line := if !isSecond then line
      else if t matches .lineEnd then before.commandLine
      else after.commandLine
    match t with
    | .word w =>
      let dialect := (← get).dialect
      let declares := dialect == .extended &&
        (words.getLast?.bind Word.plain?).any fun name => declaring.contains (String.ofList name)
      match (if leading || declares then w.assignment? dialect else none) with
      | some (place, value) =>
        if leading then simple fuel line true ((place, value.withHomes) :: assigned) words redirects
        else simple fuel line false assigned ((.place place :: value.withHomes) :: words) redirects
      | none =>
        if hasItems w then failAt ["syntax error near unexpected token \x60('"]
        else simple fuel line false assigned (withoutPlace w.withHome :: words) redirects
    | .redirect descriptor operator => do
      let r ← redirection fuel descriptor operator
      simple fuel line leading assigned words (r :: redirects)
    | .redirectNamed name operator => do
      match ← redirection fuel none operator with
      | .mk _ change | .named _ change =>
        simple fuel line leading assigned words (.named name change :: redirects)
    | .mark "(" =>
      match words, assigned, redirects with
      | [w], [], [] => do
        let t ← token fuel false false
        if !t.isMark ")" then unexpected t (some ")")
        else if (← get).isExtended then function fuel w (← replaced fuel true true)
        else
          let name := w.plain?.getD []
          if !Bytes.isName name || reserved.contains (String.ofList name) then
            fail "Bad function name"
          else do
            let line := (← get).commandLine
            pure (.define line name (← command fuel (← replaced fuel true true)))
      | _, _, _ => do
        putBack (.mark "(")
        pure (.simple line assigned.reverse words.reverse redirects.reverse)
    | t => do
      putBack t
      pure (.simple line assigned.reverse words.reverse redirects.reverse)

/-- A condition and its branches, after `if` or `elif`. -/
def branch : Nat → Reading Command
  | 0 => fail "end of file unexpected"
  | fuel + 1 => do
    let test ← list fuel false false
    closing fuel "then"
    let yes ← list fuel false false
    match ← token fuel false true with
    | .keyword "elif" => do pure (.branch test yes (← branch fuel))
    | .keyword "else" => do
      let no ← list fuel false false
      closing fuel "fi"
      pure (.branch test yes no)
    | .keyword "fi" => pure (.branch test yes .skip)
    | t => unexpected t (some "fi")

/-- A loop, after its first word. -/
def loop : Nat → Bool → Reading Command
  | 0, _ => fail "end of file unexpected"
  | fuel + 1, goal => do
    let test ← list fuel false false
    closing fuel "do"
    let body ← list fuel false false
    closing fuel "done"
    pure (.loop goal test body)

/-- The body of a loop, up to its last word. -/
def body : Nat → Reading Command
  | 0 => fail "end of file unexpected"
  | fuel + 1 => do
    let t ← replaced fuel true true
    if t.isKeyword "do" then do
      let c ← list fuel false false
      closing fuel "done"
      pure c
    else if t.isKeyword "\x7b" && (← get).isExtended then do
      let c ← list fuel false false
      closing fuel "\x7d"
      pure c
    else unexpected t (some "do")

/-- A loop between calculations, from the second parenthesis on. -/
def count : Nat → Reading Command
  | 0 => fail "end of file unexpected"
  | fuel + 1 => do
    let (raw, line) ← (← calculationAt fuel).elim (unexpected (.mark "(") none) pure
    match Text.splitOn ';' raw with
    | [start, goal, step] => do
      let start ← within line start (parts fuel .calculation)
      let goal ← within line goal (parts fuel .calculation)
      let step ← within line step (parts fuel .calculation)
      match ← token fuel true true with
      | .mark ";" => pure ()
      | t => putBack t
      pure (.count line start goal step (← body fuel))
    | _ => fun _ => .error ⟨line, "syntax error: arithmetic expression required",
        [(line, "syntax error: \x60((" ++ String.ofList raw ++ "))'")]⟩

/-- A loop over words, after `for`, or with `chosen` over those that are chosen. -/
def each : Nat → Nat → Bool → Reading Command
  | 0, _, _ => fail "end of file unexpected"
  | fuel + 1, line, chosen => do
    let isExtended := (← get).isExtended
    match ← token fuel false false with
    | .word w =>
      match w.plain?.filter fun name => isExtended || Bytes.isName name with
      | none => fail "Bad for loop variable"
      | some name => do
        let words ← match ← replaced fuel true true with
          | .keyword "in" => do pure (some (← wordsOf fuel))
          | .mark ";" => pure none
          | t => do
            putBack t
            pure none
        let body ← body fuel
        pure (if chosen then .choose line name words body else .each line name words body)
    | .mark "(" => if isExtended && !chosen then count fuel else unexpected (.mark "(") none
    | t => if isExtended then unexpectedHere t none else fail "Bad for loop variable"

/-- The words up to the end of a line or a semicolon. -/
def wordsOf : Nat → Reading (List Word)
  | 0 => pure []
  | fuel + 1 => do
    match ← token fuel false false with
    | .word w => do pure (w.withHome :: (← wordsOf fuel))
    | .lineEnd | .mark ";" => pure []
    | .endOfText => if (← get).isExtended then pure [] else unexpected .endOfText none
    | t => unexpected t none

/-- A choice among patterns, after `case`. -/
def cases : Nat → Nat → Reading Command
  | 0, _ => fail "end of file unexpected"
  | fuel + 1, line => do
    match ← token fuel false false with
    | .word w => do
      let t ← replaced fuel true true
      if !t.isKeyword "in" then unexpected t (some "in")
      else pure (.cases line w.withHome (← arms fuel))
    | t => if (← get).isExtended then unexpectedHere t none else missingWord t

/-- The arms of a choice, up to its last word. -/
def arms : Nat → Reading (List (List Word × Command × ArmEnd))
  | 0 => fail "end of file unexpected"
  | fuel + 1 => do
    let t ← token fuel true true
    if t.isKeyword "esac" then pure []
    else do
      let t ← if t.isMark "(" then token fuel false false else pure t
      let patterns ← patterns fuel t
      let body ← list fuel false true
      match ← token fuel true true with
      | .keyword "esac" => pure [(patterns, body, .stop)]
      | .mark ";;" => do pure ((patterns, body, .stop) :: (← arms fuel))
      | .mark ";&" => do pure ((patterns, body, .fall) :: (← arms fuel))
      | .mark ";;&" => do pure ((patterns, body, .retry) :: (← arms fuel))
      | t => unexpected t (some ";;")

/-- The patterns of an arm up to their bracket; the token of the first has been read. -/
def patterns : Nat → Token → Reading (List Word)
  | 0, _ => fail "end of file unexpected"
  | fuel + 1, t => do
    let w : Word := match t with
      | .word w => w.withHome
      | .keyword name => [.text name.toList false]
      | _ => []
    match ← token fuel false false with
    | .mark "|" => do pure (w :: (← patterns fuel (← token fuel false false)))
    | .mark ")" => pure [w]
    | t => unexpectedHere t (some ")")

end

/-! ### Scripts -/

/-- The parts of a text that is no script, such as what stands in front of traced commands. -/
def textParts (text : Bytes) : Word :=
  match (parts (8 * text.length + 64) .ends).run (.ofText .plain [] 1 text) with
  | .ok (word, _) => word
  | .error _ => [.text text true]

/-- The fuel for what is left of a script. -/
def enough (s : Source) : Nat :=
  10 * (s.rest.length + s.aliases.foldr (fun a n => a.2.length + 1 + n) 0) + 64

/-- The next command of a script, or nothing at its end, and the rest of the script. -/
def next (s : Source) : Except Mistake (Option Command × Source) :=
  (listFrom (enough s) true true none).run s

end ScriptDeps.Shell.Parser
