/-
How programs of the record language are written.

Operators bind as their levels say.  What a name stands for is told by its first use: a name that a
parenthesis follows at once is a function, unless it has been something else before.
-/
import ScriptDeps.Shell.Awk.Seek

namespace ScriptDeps.Shell.Awk

/-- What is wrong with a program; nothing more is read behind a final flaw. -/
structure Flaw where
  text : Bytes
  isFinal : Bool

/-- A use of a name as a table or as none, in a function or outside of all. -/
structure Use where
  function : Option Nat
  name : Name
  isTable : Bool
  text : Bytes
  line : Nat

/-- A name as an argument of a function. -/
structure NamePassed where
  function : Option Nat
  name : Name
  callee : Nat
  position : Nat

/-- A call of a function with so many arguments. -/
structure Called where
  function : Nat
  count : Nat
  line : Nat

/-- What is left to read, and what is known of what was read. -/
structure Reader where
  tokens : List Placed
  /-- How many parentheses are open. -/
  parens : Nat
  braces : Nat
  /-- How many loops are open. -/
  loops : Nat
  names : Array Bytes
  functions : Array (Bytes × Option Function)
  /-- The function that is read, and its parameters. -/
  function : Option Nat
  params : List Bytes
  /-- What is read is printed by a statement and stands in no parentheses. -/
  isPrinted : Bool
  isAction : Bool
  /-- The uses of names, the last first. -/
  uses : List Use
  passed : List NamePassed
  calls : List Called
  /-- The complaints, the last first. -/
  complaints : List Bytes

abbrev Reading := ExceptT Flaw (StateM Reader)

/-- What an operator is applied to: a place that can be assigned to, or a value. -/
inductive Operand where
  | place (p : Place)
  | value (e : Expression)

def Operand.expression : Operand → Expression
  | .place p => .place p
  | .value e => e

namespace Reading

/-! ### Tokens -/

/-- The next token. -/
def front : Reading Token := do
  return ((← get).tokens.head?.map Placed.token).getD .finish

/-- The line of the next token. -/
def line : Reading Nat := do
  return ((← get).tokens.head?.map Placed.line).getD 1

/-- The token behind the next one. -/
def second : Reading Token := do
  return ((← get).tokens[1]?.map Placed.token).getD .finish

/-- A complaint with its line. -/
def complaint {α : Type} (text : Bytes) (isFinal : Bool) : Reading α := do
  throw ⟨"line ".toList ++ Bytes.ofNat (← line) ++ ": ".toList ++ text, isFinal⟩

/-- Complains about the next token. -/
def refuse {α : Type} : Reading α := do
  let r ← get
  match ← front with
  | .broken text =>
    if text.head?.any Char.isDigit then throw ⟨text, true⟩ else complaint text true
  | .finish =>
    complaint (if 0 < r.braces then "missing \x7d near end of file".toList
      else "syntax error at or near end of file".toList) true
  | token =>
    let isClosing := match token with
      | .implied | .sign "\x7d" => true
      | _ => false
    if isClosing && 0 < r.parens then complaint "missing ) near \x7d".toList false
    else complaint ("syntax error at or near ".toList ++ token.shown) false

/-- What is left behind what closes nothing, and the complaints about that in front of others. -/
def behindStrays : List Placed → List Bytes → List Placed × List Bytes
  | [], complaints => ([], complaints)
  | ⟨token, line⟩ :: rest, complaints =>
    match token with
    | .stray c =>
      behindStrays rest
        (("line ".toList ++ Bytes.ofNat line ++ ": extra '".toList ++ [c, '\x27']) :: complaints)
    | _ => (⟨token, line⟩ :: rest, complaints)

/-- Goes on with these tokens. -/
def goOn (tokens : List Placed) : Reading Unit :=
  modify fun r =>
    let (tokens, complaints) := behindStrays tokens r.complaints
    { r with tokens, complaints }

/-- Goes on behind the next token. -/
def advance : Reading Unit := do
  goOn (← get).tokens.tail

/-- The next token is a sign, which is left behind. -/
def sign? (text : String) : Reading Bool := do
  match ← front with
  | .sign other =>
    if other == text then
      advance
      return true
    else return false
  | _ => return false

/-- Goes on behind a sign, which must be there. -/
def expect (text : String) : Reading Unit := do
  if !(← sign? text) then refuse

/-- The next token is a keyword, which is left behind. -/
def keyword? (text : String) : Reading Bool := do
  match ← front with
  | .keyword other =>
    if other == text then
      advance
      return true
    else return false
  | _ => return false

/-- Goes on behind line ends. -/
def skipLines : Nat → Reading Unit
  | 0 => return
  | fuel + 1 => do
    match ← front with
    | .newline =>
      advance
      skipLines fuel
    | _ => return

/-- Reads what stands in parentheses. -/
def inParens {α : Type} (inner : Reading α) : Reading α := do
  expect "("
  let outer := (← get).isPrinted
  modify fun r => { r with parens := r.parens + 1, isPrinted := false }
  let result ← inner
  expect ")"
  modify fun r => { r with parens := r.parens - 1, isPrinted := outer }
  return result

/-- Goes on behind the end of a statement. -/
def separator : Reading Unit := do
  match ← front with
  | .newline | .semicolon | .implied => advance
  | _ => refuse

/-! ### Names -/

/-- The number of a shared name. -/
def shared (b : Bytes) : Reading Nat := do
  let r ← get
  match r.names.idxOf? b with
  | some n => return n
  | none =>
    set { r with names := r.names.push b }
    return r.names.size

/-- What a name stands for. -/
def name (b : Bytes) : Reading Name := do
  match (← get).params.idxOf? b with
  | some n => return .own n
  | none => return .shared (← shared b)

/-- The number of a function. -/
def function (b : Bytes) : Reading Nat := do
  let r ← get
  match r.functions.findIdx? (·.1 == b) with
  | some n => return n
  | none =>
    set { r with functions := r.functions.push (b, none) }
    return r.functions.size

/-- A name in front of a parenthesis is one of a function. -/
def isCall (b : Bytes) (isCalled : Bool) : Reading Bool := do
  let r ← get
  if r.params.contains b then return false
  else return r.functions.any (·.1 == b) || (isCalled && !r.names.contains b)

/-- Puts down that a name is used as a table, or as none. -/
def use (n : Name) (isTable : Bool) (text : Bytes) : Reading Unit := do
  let line ← line
  modify fun r => { r with uses := ⟨r.function, n, isTable, text, line⟩ :: r.uses }

/-- The list without its first element that a condition holds of. -/
def withoutFirst {α : Type} (wanted : α → Bool) : List α → List α
  | [] => []
  | a :: rest => if wanted a then rest else a :: withoutFirst wanted rest

/-- Takes back that a name has been used as no table: it stands alone, and may be one. -/
def untold (e : Expression) : Reading Unit := do
  match e with
  | .place (.named n) => modify fun r => { r with uses := withoutFirst (fun u => u.name == n && !u.isTable) r.uses }
  | _ => return

/-- The name of a table. -/
def tableName : Reading Name := do
  match ← front with
  | .name b _ =>
    advance
    let n ← name b
    use n true b
    return n
  | _ => refuse

/-- A pattern that is written out. -/
def matcher (b : Bytes) : Reading Matcher := do
  match Seek.matcher? b with
  | .ok m => return m
  | .error text => complaint text true

/-- An expression that is to be used as a pattern. -/
def asPattern (e : Expression) : Reading Expression := do
  match e with
  | .text b => return .pattern (← matcher b)
  | e => return e

/-! ### Operators -/

def assignment? : Token → Option (Option Operation)
  | .sign "=" => some none
  | .sign "+=" => some (some .add)
  | .sign "-=" => some (some .subtract)
  | .sign "*=" => some (some .multiply)
  | .sign "/=" => some (some .divide)
  | .sign "%=" => some (some .remainder)
  | .sign "^=" => some (some .power)
  | _ => none

def comparison? : Token → Option Comparison
  | .sign "<" => some .less
  | .sign "<=" => some .lessOrEqual
  | .sign "==" => some .equal
  | .sign "!=" => some .unequal
  | .sign ">" => some .greater
  | .sign ">=" => some .greaterOrEqual
  | _ => none

/-- The level of an operator between conditions. -/
def level? (isPrinted : Bool) : Token → Option Nat
  | .sign "||" => some 3
  | .sign "&&" => some 4
  | .keyword "in" => some 5
  | .sign "~" | .sign "!~" => some 6
  | .sign ">" | .sign ">=" => if isPrinted then none else some 7
  | token => (comparison? token).map fun _ => 7

/-- An operand begins with this token. -/
def startsOperand : Token → Bool
  | .number .. | .text _ | .pattern _ | .name .. | .builtin _ => true
  | .keyword word => word == "getline"
  | .sign w => ["(", "!", "$", "++", "--"].contains w
  | _ => false

mutual

/-- An expression: an assignment, a choice between two, or anything less. -/
def expression : Nat → Reading Expression
  | 0 => refuse
  | fuel + 1 => do
    let condition ← condition fuel 3
    if ← sign? "?" then
      let a ← expression fuel
      expect ":"
      return .choice condition a (← expression fuel)
    else return condition

/-- Operands with operators between them of a level at least. -/
def condition : Nat → Nat → Reading Expression
  | 0, _ => refuse
  | fuel + 1, least => do
    let left ← concatenation fuel
    match left, assignment? (← front) with
    | .place p, some operation =>
      advance
      let e ← expression fuel
      return .assign p operation e
    | left, _ => further fuel least left.expression

/-- What follows an operand among operators of a level at least. -/
def further : Nat → Nat → Expression → Reading Expression
  | 0, _, _ => refuse
  | fuel + 1, least, left => do
    let token ← front
    match level? (← get).isPrinted token with
    | none => return left
    | some level =>
      if level < least then return left
      advance
      let e ← match token with
        | .keyword _ => pure (.isIn [left] (← tableName))
        | .sign "||" => pure (.either left (← condition fuel 4))
        | .sign "&&" => pure (.both left (← condition fuel 5))
        | .sign "~" => pure (.isFound true left (← asPattern (← condition fuel 7)))
        | .sign "!~" => pure (.isFound false left (← asPattern (← condition fuel 7)))
        | token => pure (.compare ((comparison? token).getD .equal) left (← condition fuel 8))
      further fuel least e

/-- Operands that are put behind each other. -/
def concatenation : Nat → Reading Operand
  | 0 => refuse
  | fuel + 1 => do joins fuel (← sum fuel)

/-- What is put behind an operand. -/
def joins : Nat → Operand → Reading Operand
  | 0, _ => refuse
  | fuel + 1, left => do
    if startsOperand (← front) then
      let right ← sum fuel
      joins fuel (.value (.join left.expression right.expression))
    else return left

/-- Operands with plus and minus between them. -/
def sum : Nat → Reading Operand
  | 0 => refuse
  | fuel + 1 => do summands fuel (← product fuel)

def summands : Nat → Operand → Reading Operand
  | 0, _ => refuse
  | fuel + 1, left => do
    if ← sign? "+" then
      let right ← product fuel
      summands fuel (.value (.combine .add left.expression right.expression))
    else if ← sign? "-" then
      let right ← product fuel
      summands fuel (.value (.combine .subtract left.expression right.expression))
    else return left

/-- Operands with signs of multiplication and division between them. -/
def product : Nat → Reading Operand
  | 0 => refuse
  | fuel + 1 => do factors fuel (← signed fuel)

def factors : Nat → Operand → Reading Operand
  | 0, _ => refuse
  | fuel + 1, left => do
    let operation? ← match ← front with
      | .sign "*" => pure (some Operation.multiply)
      | .sign "/" => pure (some Operation.divide)
      | .sign "%" => pure (some Operation.remainder)
      | _ => pure none
    match operation? with
    | none => return left
    | some operation =>
      advance
      let right ← signed fuel
      factors fuel (.value (.combine operation left.expression right.expression))

/-- An operand with signs in front of it. -/
def signed : Nat → Reading Operand
  | 0 => refuse
  | fuel + 1 => do
    if ← sign? "!" then return .value (.not (← signed fuel).expression)
    else if ← sign? "-" then return .value (.minus (← signed fuel).expression)
    else if ← sign? "+" then return .value (.plus (← signed fuel).expression)
    else commands fuel (← power fuel)

/-- What is read of a command. -/
def commands : Nat → Operand → Reading Operand
  | 0, _ => refuse
  | fuel + 1, left => do
    match ← front, ← second with
    | .sign "|", .keyword "getline" =>
      if (← get).isPrinted then return left
      advance
      advance
      let target ← target? fuel
      commands fuel (.value (.read true (some left.expression) target))
    | _, _ => return left

/-- Powers. -/
def power : Nat → Reading Operand
  | 0 => refuse
  | fuel + 1 => do
    let base ← stepped fuel
    if ← sign? "^" then
      let isSigned := match ← front with
        | .sign "-" | .sign "+" | .sign "!" => true
        | _ => false
      let exponent ← if isSigned then signed fuel else power fuel
      return .value (.combine .power base.expression exponent.expression)
    else return base

/-- A place that goes one up or down. -/
def stepped : Nat → Reading Operand
  | 0 => refuse
  | fuel + 1 => do
    if ← sign? "++" then return .value (.step true true (← place fuel))
    else if ← sign? "--" then return .value (.step true false (← place fuel))
    else
      match ← operand fuel with
      | .place p =>
        if ← sign? "++" then return .value (.step false true p)
        else if ← sign? "--" then return .value (.step false false p)
        else return .place p
      | value => return value

/-- A place. -/
def place : Nat → Reading Place
  | 0 => refuse
  | fuel + 1 => do
    match ← front with
    | .name b isCalled => if ← isCall b isCalled then refuse
    | .sign "$" => pure ()
    | _ => refuse
    match ← operand fuel with
    | .place p => return p
    | _ => refuse

/-- The place that is read into, if there is one. -/
def target? : Nat → Reading (Option Place)
  | 0 => refuse
  | fuel + 1 => do
    match ← front with
    | .name b isCalled => if ← isCall b isCalled then return none else return some (← place fuel)
    | .sign "$" => return some (← place fuel)
    | _ => return none

/-- Expressions with commas between them. -/
def list : Nat → Reading (List Expression)
  | 0 => refuse
  | fuel + 1 => do
    let e ← expression fuel
    if ← sign? "," then return e :: (← list fuel) else return [e]

/-- The arguments in parentheses, if there are any. -/
def arguments : Nat → Reading (List Expression)
  | 0 => refuse
  | fuel + 1 =>
    inParens do
      match ← front with
      | .sign ")" => return []
      | _ => list fuel

/-- An operand alone. -/
def operand : Nat → Reading Operand
  | 0 => refuse
  | fuel + 1 => do
    match ← front with
    | .number x _ =>
      advance
      return .value (.number x)
    | .text b =>
      advance
      return .value (.text b)
    | .pattern b =>
      let m ← matcher b
      advance
      return .value (.pattern m)
    | .sign "(" =>
      match ← inParens (list fuel) with
      | [e] => return .value e
      | index =>
        if ← keyword? "in" then return .value (.isIn index (← tableName)) else refuse
    | .sign "$" =>
      advance
      match ← front with
      | .sign "++" | .sign "--" => return .place (.field (← stepped fuel).expression)
      | .sign "-" | .sign "+" | .sign "!" => return .place (.field (← signed fuel).expression)
      | _ => return .place (.field (← operand fuel).expression)
    | .name b isCalled =>
      if ← isCall b isCalled then
        advance
        let number ← function b
        let args ← arguments fuel
        let scope := (← get).function
        let passed := args.zipIdx.filterMap fun (e, position) =>
          match e with
          | .place (.named n) => some ⟨scope, n, number, position⟩
          | _ => none
        for e in args do untold e
        let line ← line
        modify fun r =>
          { r with passed := passed ++ r.passed, calls := ⟨number, args.length, line⟩ :: r.calls }
        return .value (.call number args)
      else
        advance
        let n ← name b
        if ← sign? "[" then
          let outer := (← get).isPrinted
          modify fun r => { r with isPrinted := false }
          let index ← list fuel
          expect "]"
          modify fun r => { r with isPrinted := outer }
          use n true b
          return .place (.element n index)
        else
          use n false b
          return .place (.named n)
    | .builtin text =>
      advance
      builtin fuel text
    | .keyword "getline" =>
      advance
      let target ← target? fuel
      if ← sign? "<" then
        let source ← power fuel
        return .value (.read false (some source.expression) target)
      else return .value (.read false none target)
    | _ => refuse

/-- A function that every program has, behind its name. -/
def builtin : Nat → String → Reading Operand
  | 0, _ => refuse
  | fuel + 1, text => do
    let miscounted := complaint ("wrong number of arguments in call to ".toList ++ text.toList) false
    match text with
    | "split" =>
      inParens do
        let e ← expression fuel
        expect ","
        let table ← tableName
        let separator ← if ← sign? "," then pure (some (← expression fuel)) else pure none
        return .value (.split e table separator)
    | "sub" | "gsub" =>
      inParens do
        let pattern ← asPattern (← expression fuel)
        expect ","
        let new ← expression fuel
        let target ← if ← sign? "," then place fuel else pure (.field (.number 0))
        return .value (.replace (text == "gsub") pattern new target)
    | text =>
      match Builtin.table.lookup text with
      | none => refuse
      | some (builtin, least, most) =>
        let hasArguments := builtin != .length || (match ← front with
          | .sign "(" => true
          | _ => false)
        let args ← if hasArguments then arguments fuel else pure []
        if args.length < least || most < args.length then miscounted
        match builtin, args with
        | .length, [e] =>
          untold e
          return .value (.known .length [e])
        | .search, [e, pattern] => return .value (.known .search [e, ← asPattern pattern])
        | _, _ => return .value (.known builtin args)

end

/-! ### Statements -/

/-- What is left behind the end of a statement that makes no sense. -/
def recovered : List Placed → List Placed
  | [] => []
  | ⟨token, line⟩ :: rest =>
    match token with
    | .newline | .semicolon | .implied => rest
    | .finish | .broken _ | .sign "\x7d" => ⟨token, line⟩ :: rest
    | _ => recovered rest

/-- What a statement prints, and where to. -/
def printed (fuel : Nat) (isFormat : Bool) : Reading Statement := do
  modify fun r => { r with isPrinted := true }
  let isEnd := match ← front with
    | .newline | .semicolon | .implied => true
    | .sign w => [">", ">>", "|"].contains w
    | _ => false
  -- Parentheses around all that is printed are no operand.
  let before ← get
  let args ← if isEnd then pure []
    else match ← front with
      | .sign "(" => do
        let grouped ← inParens (do
          match ← front with
          | .sign ")" => return []
          | _ => list fuel)
        let isAll := match ← front with
          | .newline | .semicolon | .implied => true
          | .sign w => [">", ">>", "|"].contains w
          | _ => false
        if isAll then pure grouped
        else
          match grouped, ← front with
          | [_], _ | _, .keyword "in" =>
            set before
            list fuel
          | _, _ => refuse
      | _ => list fuel
  if isFormat && args.isEmpty then complaint "no arguments in call to printf".toList false
  modify fun r => { r with isPrinted := false }
  let output? ← match ← front with
    | .sign ">" => pure (some Output.write)
    | .sign ">>" => pure (some Output.append)
    | .sign "|" => pure (some Output.command)
    | _ => pure none
  match output? with
  | none => return .print isFormat args none
  | some output =>
    advance
    return .print isFormat args (some (output, ← expression fuel))

/-- The table and the name of a loop over elements, if one is at the front. -/
def elements? : Reading (Option (Name × Name)) := do
  match (← get).tokens.map Placed.token with
  | .sign "(" :: .name a _ :: .keyword "in" :: .name b _ :: .sign ")" :: _ =>
    goOn ((← get).tokens.drop 5)
    let n ← name a
    use n false a
    let table ← name b
    use table true b
    return some (n, table)
  | _ => return none

mutual

/-- A statement. -/
def statement : Nat → Reading Statement
  | 0 => refuse
  | fuel + 1 => do
    let ended := fun (s : Statement) => do
      separator
      return s
    match ← front with
    | .sign "\x7b" => return .block (← block fuel)
    | .newline | .semicolon | .implied => ended (.block [])
    | .keyword "if" =>
      advance
      let condition ← inParens (expression fuel)
      skipLines (fuel + 1)
      let a ← statement fuel
      if ← keyword? "else" then return .choice condition a (some (← statement fuel))
      else return .choice condition a none
    | .keyword "while" =>
      advance
      let condition ← inParens (expression fuel)
      skipLines (fuel + 1)
      return .loop (some condition) none (← body fuel)
    | .keyword "do" =>
      advance
      let inner ← body fuel
      if !(← keyword? "while") then refuse
      let condition ← inParens (expression fuel)
      ended (.until_ inner condition)
    | .keyword "for" =>
      advance
      match ← elements? with
      | some (n, table) =>
        skipLines (fuel + 1)
        return .each n table (← body fuel)
      | none =>
        let (start, condition, behind) ← inParens (do
          let start ← part fuel
          let condition ← part fuel
          let behind ← match ← front with
            | .sign ")" => pure none
            | _ => pure (some (← expression fuel))
          return (start, condition, behind))
        skipLines (fuel + 1)
        let loop := Statement.loop condition behind (← body fuel)
        return .block ((start.toList.map .evaluate) ++ [loop])
    | .keyword "break" =>
      if (← get).loops == 0 then complaint "break statement outside of loop".toList false
      advance
      ended .leave
    | .keyword "continue" =>
      if (← get).loops == 0 then complaint "continue statement outside of loop".toList false
      advance
      ended .again
    | .keyword "next" =>
      if (← get).isAction then
        advance
        ended .next
      else complaint "improper use of next".toList false
    | .keyword "nextfile" =>
      if (← get).isAction then
        advance
        ended .nextFile
      else complaint "improper use of nextfile".toList false
    | .keyword "exit" =>
      advance
      let e ← value? fuel
      ended (.finish e)
    | .keyword "return" =>
      if (← get).function.isNone then complaint "return outside function body".toList false
      advance
      let e ← value? fuel
      ended (.back e)
    | .keyword "delete" =>
      advance
      let table ← tableName
      if ← sign? "[" then
        let index ← list fuel
        expect "]"
        ended (.delete table (some index))
      else ended (.delete table none)
    | .keyword "print" =>
      advance
      let s ← printed fuel false
      ended s
    | .keyword "printf" =>
      advance
      let s ← printed fuel true
      ended s
    | _ =>
      let e ← expression fuel
      ended (.evaluate e)

/-- A part of the head of a loop, up to a semicolon. -/
def part : Nat → Reading (Option Expression)
  | 0 => refuse
  | fuel + 1 => do
    match ← front with
    | .semicolon =>
      advance
      return none
    | _ =>
      let e ← expression fuel
      match ← front with
      | .semicolon =>
        advance
        return some e
      | _ => refuse

/-- The value behind a keyword, if there is one. -/
def value? : Nat → Reading (Option Expression)
  | 0 => refuse
  | fuel + 1 => do
    match ← front with
    | .newline | .semicolon | .implied => return none
    | _ => return some (← expression fuel)

/-- The body of a loop. -/
def body : Nat → Reading Statement
  | 0 => refuse
  | fuel + 1 => do
    modify fun r => { r with loops := r.loops + 1 }
    let s ← statement fuel
    modify fun r => { r with loops := r.loops - 1 }
    return s

/-- Statements in braces. -/
def block : Nat → Reading (List Statement)
  | 0 => refuse
  | fuel + 1 => do
    expect "\x7b"
    modify fun r => { r with braces := r.braces + 1 }
    let body ← statements fuel
    expect "\x7d"
    modify fun r => { r with braces := r.braces - 1 }
    return body

/-- Statements up to a closing brace.  Those that make no sense are complained about. -/
def statements : Nat → Reading (List Statement)
  | 0 => refuse
  | fuel + 1 => do
    match ← front with
    | .sign "\x7d" => return []
    | _ =>
      let outer ← get
      let here : List Statement ← tryCatch (do return [← statement fuel]) fun flaw => do
        if flaw.isFinal then throw flaw
        modify fun r =>
          { r with
            complaints := flaw.text :: r.complaints, parens := 0
            loops := outer.loops, braces := outer.braces, isPrinted := false }
        goOn (recovered (← get).tokens)
        return []
      return here ++ (← statements fuel)

end

/-! ### Programs -/

/-- The parameters of a function, up to the parenthesis behind them. -/
def parameters (self : Bytes) : Nat → Reading (List Bytes)
  | 0 => refuse
  | fuel + 1 => do
    match ← front with
    | .sign ")" => return []
    | .name b _ =>
      advance
      if b == self then complaint "function parameter cannot be the function".toList false
      if ← sign? "," then
        let more ← parameters self fuel
        if more.contains b then complaint (b ++ " is duplicated in argument list".toList) false
        return b :: more
      else return [b]
    | _ => refuse

/-- A function behind its keyword. -/
def definition (fuel : Nat) : Reading Unit := do
  match ← front with
  | .name b _ =>
    advance
    let number ← function b
    let params ← inParens (parameters b fuel)
    skipLines fuel
    modify fun r => { r with function := some number, params, isAction := true }
    let body ← block fuel
    modify fun r =>
      { r with
        function := none, params := [], isAction := false
        functions := r.functions.setIfInBounds number (b, some ⟨b, params.length, [], body⟩) }
  | _ => refuse

/-- A rule. -/
def rule (fuel : Nat) : Reading Rule := do
  let action := fun (isAction : Bool) => do
    modify fun r => { r with isAction }
    let body ← block fuel
    modify fun r => { r with isAction := false }
    return body
  if ← keyword? "BEGIN" then return ⟨.start, some (← action false)⟩
  else if ← keyword? "END" then return ⟨.finish, some (← action false)⟩
  else
    let pattern ← match ← front with
      | .sign "\x7b" => pure Pattern.always
      | _ =>
        let first ← expression fuel
        if ← sign? "," then pure (.range first (← expression fuel)) else pure (.holds first)
    match ← front with
    | .sign "\x7b" => return ⟨pattern, some (← action true)⟩
    | _ =>
      separator
      return ⟨pattern, none⟩

/-- All rules. -/
def rules : Nat → Reading (List Rule)
  | 0 => refuse
  | fuel + 1 => do
    match ← front with
    | .finish => return []
    | .keyword "function" =>
      advance
      definition fuel
      rules fuel
    | _ =>
      let here ← rule fuel
      return here :: (← rules fuel)

end Reading

/-! ### Tables -/

/-- The parameters of functions that are known to be tables. -/
abbrev TableParams := List (Nat × Nat)

/-- The parameters that are tables because they are passed on as some. -/
def TableParams.step (passed : List NamePassed) (known : TableParams) : TableParams :=
  passed.foldl
    (fun known p =>
      match p.function, p.name with
      | some f, .own n =>
        if known.contains (p.callee, p.position) && !known.contains (f, n) then (f, n) :: known else known
      | _, _ => known)
    known

/-- The parameters that are tables. -/
def TableParams.all (passed : List NamePassed) : Nat → TableParams → TableParams
  | 0, known => known
  | fuel + 1, known =>
    let next := TableParams.step passed known
    if next.length == known.length then known else TableParams.all passed fuel next

/-- The complaints about names that are used as a table and as none, by what they were used as first. -/
def conflicts : List Use → List Use → List Bytes
  | _, [] => []
  | first, u :: rest =>
    let isOwn := u.name matches .own _
    match first.find? fun other => other.name == u.name && (!isOwn || other.function == u.function) with
    | none => conflicts (u :: first) rest
    | some other =>
      if other.isTable == u.isTable then conflicts first rest
      else
        let kind := (if isOwn then "local " else "") ++
          (if other.isTable then "array " else "variable ")
        ("line ".toList ++ Bytes.ofNat u.line ++ ": illegal reference to ".toList ++ kind.toList ++ u.text) ::
          conflicts first rest

namespace Script

/-- The names that have a meaning of their own as they are used. -/
def knownUses : List Use :=
  knownNames.zipIdx.map fun (name, n) =>
    ⟨none, .shared n, name == "ENVIRON" || name == "ARGV", name.toList, 0⟩

/-- The program that a text is, or the complaints about it. -/
def read (text : Bytes) : Except (List Bytes) Script :=
  let (tokens, strays) := Reading.behindStrays (Scan.all text) []
  let fuel := 40 * tokens.length + 100
  let start : Reader :=
    { tokens, parens := 0, braces := 0, loops := 0, names := (knownNames.map String.toList).toArray
      functions := #[], function := none, params := [], isPrinted := false, isAction := false
      uses := [], passed := [], calls := [], complaints := strays }
  match (Reading.rules fuel).run.run start with
  | (.error flaw, r) => .error ((flaw.text :: r.complaints).reverse)
  | (.ok rules, r) =>
    let place := fun (line : Nat) => "line ".toList ++ Bytes.ofNat line ++ ": ".toList
    let last := (tokens.getLast?.map Placed.line).getD 1
    let uses := r.uses.reverse
    let missing := r.functions.toList.filterMap fun (b, f?) =>
      if f?.isNone then some (place last ++ "function ".toList ++ b ++ " never defined".toList) else none
    let crowded := r.calls.reverse.filterMap fun c =>
      match r.functions[c.function]? with
      | some (b, some f) =>
        if f.params < c.count then some (place c.line ++ "too many arguments in call to ".toList ++ b) else none
      | _ => none
    let complaints := if r.complaints.isEmpty then conflicts knownUses uses ++ crowded ++ missing
      else r.complaints.reverse
    if !complaints.isEmpty then .error complaints
    else
      let tables := uses.filter Use.isTable
      let used := tables.filterMap fun u =>
        match u.function, u.name with
        | some f, .own n => some (f, n)
        | _, _ => none
      let params := TableParams.all r.passed (r.passed.length + 1) used
      let direct := tables.filterMap fun u =>
        match u.name with
        | .shared n => some n
        | .own _ => none
      let given := r.passed.filterMap fun p =>
        match p.name with
        | .shared n => if params.contains (p.callee, p.position) then some n else none
        | .own _ => none
      let known := knownUses.filterMap fun u =>
        match u.isTable, u.name with
        | true, .shared n => some n
        | _, _ => none
      let functions := r.functions.mapIdx fun number (b, f?) =>
        { f?.getD ⟨b, 0, [], []⟩ with
          tables := params.filterMap fun (f, n) => if f == number then some n else none }
      .ok ⟨r.names.toList, known ++ direct ++ given, functions, rules⟩

end Script

end ScriptDeps.Shell.Awk
