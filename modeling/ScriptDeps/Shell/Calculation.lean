/-
Calculations of the extended dialect.

They know of powers, of numbers in any base, of elements of lists, and of values that are
calculations themselves.  They are read and done at once, since what is assigned on the way
counts for what follows, and where they cannot be done the complaint tells what was read last.
-/
import ScriptDeps.Shell.Enclosed
import ScriptDeps.Shell.State

namespace ScriptDeps.Shell.Calculation

/-- A token of a calculation. -/
inductive Token where
  | finish
  | number (n : Int)
  /-- A variable, or an element of a list. -/
  | name (name : Bytes) (key : Option Bytes)
  | sign (text : String)
  deriving DecidableEq, Repr

/-- Why a calculation has no value. -/
inductive Trouble where
  /-- What is wrong with a calculation, and the text from what was read last. -/
  | faulty (calculation : Bytes) (text : String) (rest : Bytes)
  | unset (name : Bytes)
  | fixed (name : Bytes)
  | badKey (name key : Bytes)
  deriving DecidableEq, Repr

/-- The complaint about a calculation. -/
def Trouble.wording : Trouble → Bytes
  | .faulty calculation text rest =>
    calculation.dropWhile Bytes.isSpace ++ ": ".toList ++ text.toList ++ " (error token is \"".toList ++
      rest ++ "\")".toList
  | .unset name => name ++ ": unbound variable".toList
  | .fixed name => name ++ ": readonly variable".toList
  | .badKey name key => name ++ ['['] ++ key ++ "]: bad array subscript".toList

/-- What is left of a calculation. -/
structure Rest where
  state : State
  /-- The whole calculation. -/
  whole : Bytes
  /-- What stands behind the token. -/
  text : Bytes
  token : Token
  /-- The text from what was read last. -/
  last : Bytes

abbrev Calculating := StateT Rest (Except Trouble)

/-- The operators of three and of two characters. -/
def wideSigns : List String :=
  ["<<=", ">>=", "**", "==", "!=", "<=", ">=", "&&", "||", "<<", ">>", "+=", "-=", "*=", "/=", "%=",
    "&=", "|=", "^="]

/-- The other operators. -/
def signs : Bytes :=
  "=><+-*/%!()&|^~,?:".toList

/-- There is something wrong with the calculation. -/
def fail {α : Type} (text : String) : Calculating α := do
  let r ← get
  throw (.faulty r.whole text r.last)

/-- The value of a digit of a base up to 64. -/
def digitValue (base : Nat) (c : Char) : Nat :=
  if c.isDigit then c.toNat - '0'.toNat
  else if c.isLower then c.toNat - 'a'.toNat + 10
  else if c.isUpper then c.toNat - 'A'.toNat + (if base ≤ 36 then 10 else 36)
  else if c == '@' then 62
  else 63

/-- The digits as a number of a base. -/
def digits (base : Nat) (s : Bytes) : Calculating Int :=
  s.foldlM
    (fun n c => do
      let d := digitValue base c
      if base ≤ d then fail "value too great for base" else pure (Arithmetic.wrap (n * base + d)))
    0

/-- The number that a text is. -/
def number (s : Bytes) : Calculating Int := do
  match s with
  | ['0'] => pure 0
  | '0' :: x :: rest =>
    if x == 'x' || x == 'X' then if rest.contains '#' then fail "invalid number" else digits 16 rest
    else if rest.contains '#' || x == '#' then fail "invalid number"
    else digits 8 (x :: rest)
  | s =>
    let (base, rest) := s.span (· != '#')
    match rest with
    | [] => digits 10 s
    | _ :: rest =>
      let base ← digits 10 base
      if base < 2 || 64 < base then fail "invalid arithmetic base"
      else if rest.isEmpty then fail "invalid integer constant"
      else digits base.toNat rest

/-- Reads the next token. -/
def advance : Calculating Unit := do
  let r ← get
  let text := r.text.dropWhile Bytes.isSpace
  let after := fun (token : Token) (n : Nat) => set { r with token, text := text.drop n, last := text }
  match text with
  | [] => set { r with token := .finish, text := [] }
  | c :: s =>
    if Bytes.isNameStart c then
      let (name, rest) := text.span Bytes.isNameChar
      match rest with
      | '[' :: inside =>
        match Enclosed.closedBy? '[' ']' inside with
        | some (key, behind) => after (.name name (some key)) (text.length - behind.length)
        | none => do
          set { r with last := text }
          fail "bad array subscript"
      | _ => after (.name name none) name.length
    else if c.isDigit then
      let run := text.takeWhile fun c => c.isAlphanum || c == '#' || c == '@' || c == '_'
      set { r with last := text }
      let n ← number run
      after (.number n) run.length
    else
      let front := fun n => String.ofList (text.take n)
      let isTwice := (c == '+' || c == '-') && s.head? == some c
      let behind := (s.drop 1).dropWhile Bytes.isSpace
      if isTwice && (r.token matches .name ..) then after (.sign ("post" ++ front 2)) 2
      else if isTwice && behind.head?.any Bytes.isNameStart then after (.sign (front 2)) 2
      else if wideSigns.contains (front 3) then after (.sign (front 3)) 3
      else if wideSigns.contains (front 2) then after (.sign (front 2)) 2
      else if signs.contains c then after (.sign (front 1)) 1
      else do
        set { r with last := text }
        match r.token with
        | .finish | .sign _ => fail "syntax error: operand expected"
        | _ => fail "syntax error: invalid arithmetic operator"

/-- Takes the token if it is this sign. -/
def sign? (text : String) : Calculating Bool := do
  let r ← get
  if r.token == .sign text then do
    advance
    return true
  else return false

/-- How deep calculations may stand in one another. -/
def maxDepth : Nat :=
  1024

/-- How strongly an operator binds. -/
def strength? : String → Option Nat
  | "**" => some 9
  | operator => Arithmetic.strength? operator

/-- The value of an operator with two sides; `rest` is the text of the second one. -/
def combine (operator : String) (a b : Int) (rest : Bytes) : Calculating Int := do
  match operator with
  | "**" =>
    if b < 0 then fail "exponent less than 0"
    else return power a b.toNat
  | operator =>
    match Arithmetic.combine operator a b with
    | .ok n => return n
    | .error _ => do
      modify fun r => { r with last := rest.dropWhile Bytes.isSpace }
      fail "division by 0"
where
  /-- A power, of which the last 64 bits count. -/
  power (a : Int) (n : Nat) : Int :=
    squared a 1 64 n
  squared (a result : Int) : Nat → Nat → Int
    | 0, _ => result
    | fuel + 1, n =>
      if n == 0 then result
      else
        let result := if n % 2 == 1 then Arithmetic.wrap (result * a) else result
        squared (Arithmetic.wrap (a * a)) result fuel (n / 2)

mutual

/-- The value of a text as a calculation, and the state after it. -/
def evaluate : Nat → State → Bytes → Except Trouble (Int × State)
  | 0, _, text => .error (.faulty text "expression recursion level exceeded" text)
  | fuel + 1, s, text =>
    if text.all Bytes.isSpace then .ok (0, s)
    else do
      let (n, r) ← (whole fuel).run ⟨s, text, text, .finish, text⟩
      return (n, r.state)

/-- The value of all that is left. -/
def whole : Nat → Calculating Int
  | 0 => fail "expression recursion level exceeded"
  | fuel + 1 => do
    advance
    let n ← comma fuel true
    let r ← get
    if r.token == .finish then return n else fail "syntax error in expression"

/-- The key of an element of a list. -/
def keyOf : Nat → Bytes → Bytes → Calculating Bytes
  | 0, _, _ => fail "expression recursion level exceeded"
  | fuel + 1, name, key => do
    let r ← get
    if r.state.isKeyed (r.state.meant name) then return key
    else do
      let list := r.state.series? (r.state.meant name)
      let (n, s) ← (evaluate fuel r.state key : Except Trouble _)
      set { r with state := s }
      let n := if n < 0 then n + ((list.map Series.nextIndex).getD 0 : Nat) else n
      if n < 0 then throw (.badKey name key) else return Bytes.ofNat n.toNat

/-- The value of a variable, or of an element of a list. -/
def look : Nat → Bool → Bytes → Option Bytes → Calculating Int
  | 0, _, _, _ => fail "expression recursion level exceeded"
  | fuel + 1, live, name, key => do
    if !live then return 0
    let value ← match key with
      | none => do
        let s := (← get).state
        let value := (s.value? name).orElse fun _ => (s.counted? name).map Bytes.ofNat
        if value.isNone && s.has 'u' then throw (.unset name) else pure value
      | some key => do
        let key ← keyOf fuel name key
        let s := (← get).state
        pure (((s.series? (s.meant name)).bind (·.get? key)).orElse fun _ =>
          if key == Series.mainKey then s.value? name else none)
    match value with
    | none => return 0
    | some value => do
      let r ← get
      let (n, s) ← (evaluate fuel r.state value : Except Trouble _)
      set { r with state := s }
      return n

/-- Gives a variable or an element of a list a value. -/
def give : Nat → Bool → Bytes → Option Bytes → Int → Calculating Unit
  | 0, _, _, _, _ => fail "expression recursion level exceeded"
  | fuel + 1, live, name, key, n => do
    if live then
      let s := (← get).state
      if s.isFixed name then throw (.fixed name)
      match key with
      | none => modify fun r => { r with state := r.state.put name (Bytes.ofInt n) }
      | some key => do
        let key ← keyOf fuel name key
        modify fun r =>
          let name := r.state.meant name
          let before := (r.state.series? name).getD
            ((r.state.value? name).elim (Series.empty (r.state.isKeyed name)) fun value => .indexed [(0, value)])
          { r with state := r.state.putSeries name (before.put key (Bytes.ofInt n)) }

/-- Values of which the last one counts. -/
def comma : Nat → Bool → Calculating Int
  | 0, _ => fail "expression recursion level exceeded"
  | fuel + 1, live => do
    let n ← assignment fuel live
    if ← sign? "," then comma fuel live else return n

/-- A value that may be assigned. -/
def assignment : Nat → Bool → Calculating Int
  | 0, _ => fail "expression recursion level exceeded"
  | fuel + 1, live => do
    let before ← get
    match before.token with
    | .name name key => do
      advance
      let r ← get
      match (match r.token with
        | .sign operator => Arithmetic.assigning? operator
        | _ => none) with
      | none => do
        set before
        settled fuel live
      | some inner => do
        let rest := r.text
        advance
        let m ← assignment fuel live
        let n ← if inner.isEmpty || !live then pure m
          else do combine inner (← look fuel live name key) m rest
        give fuel live name key n
        return n
    | _ => settled fuel live

/-- A value that nothing is assigned to. -/
def settled : Nat → Bool → Calculating Int
  | 0, _ => fail "expression recursion level exceeded"
  | fuel + 1, live => do
    let n ← choice fuel live
    match (← get).token with
    | .sign operator =>
      if (Arithmetic.assigning? operator).isSome then fail "attempted assignment to non-variable"
      else return n
    | _ => return n

/-- A value, or one of two as a condition tells. -/
def choice : Nat → Bool → Calculating Int
  | 0, _ => fail "expression recursion level exceeded"
  | fuel + 1, live => do
    let n ← any fuel live
    if ← sign? "?" then
      let r ← get
      if r.token == .finish || r.token == .sign ":" then fail "expression expected"
      let yes ← comma fuel (live && n != 0)
      if (← get).token != .sign ":" then fail "\x60:' expected for conditional expression"
      advance
      if (← get).token == .finish then fail "expression expected"
      let no ← choice fuel (live && n == 0)
      return if n != 0 then yes else no
    else return n

/-- Values of which one must be true. -/
def any : Nat → Bool → Calculating Int
  | 0, _ => fail "expression recursion level exceeded"
  | fuel + 1, live => do
    let n ← all fuel live
    if ← sign? "||" then
      let m ← any fuel (live && n == 0)
      return Arithmetic.truth (n != 0 || m != 0)
    else return n

/-- Values of which all must be true. -/
def all : Nat → Bool → Calculating Int
  | 0, _ => fail "expression recursion level exceeded"
  | fuel + 1, live => do
    let n ← sum fuel live 1
    if ← sign? "&&" then
      let m ← all fuel (live && n != 0)
      return Arithmetic.truth (n != 0 && m != 0)
    else return n

/-- Operands joined by operators that bind with some strength at least. -/
def sum : Nat → Bool → Nat → Calculating Int
  | 0, _, _ => fail "expression recursion level exceeded"
  | fuel + 1, live, least => do more fuel live least (← operand fuel live)

/-- A value with the operators on its right.  Powers are taken from the right. -/
def more : Nat → Bool → Nat → Int → Calculating Int
  | 0, _, _, n => return n
  | fuel + 1, live, least, n => do
    let r ← get
    match r.token with
    | .sign operator =>
      match (strength? operator).filter (least ≤ ·) with
      | some k => do
        advance
        let m ← sum fuel live (if operator == "**" then k else k + 1)
        more fuel live least (← if live then combine operator n m r.text else pure 0)
      | none => return n
    | _ => return n

/-- The value of what stands before the next operator. -/
def operand : Nat → Bool → Calculating Int
  | 0, _ => fail "expression recursion level exceeded"
  | fuel + 1, live => do
    let r ← get
    match r.token with
    | .number n => do
      advance
      return n
    | .name name key => do
      let n ← look fuel live name key
      advance
      let change := fun (d : Int) => do
        give fuel live name key (Arithmetic.wrap (n + d))
        modify fun r => { r with token := .number n }
        advance
        return n
      if (← get).token == .sign "post++" then change 1
      else if (← get).token == .sign "post--" then change (-1)
      else return n
    | .sign text =>
      match text with
      | "-" => do
        advance
        return Arithmetic.wrap (-(← operand fuel live))
      | "+" => do
        advance
        operand fuel live
      | "!" => do
        advance
        return Arithmetic.truth ((← operand fuel live) == 0)
      | "~" => do
        advance
        return -(← operand fuel live) - 1
      | "(" => do
        advance
        let n ← comma fuel live
        if ← sign? ")" then return n else fail "missing \x60)'"
      | "++" | "--" => do
        advance
        match (← get).token with
        | .name name key => do
          let n ← look fuel live name key
          let n := Arithmetic.wrap (if text == "++" then n + 1 else n - 1)
          give fuel live name key n
          modify fun r => { r with token := .number n }
          advance
          return n
        | _ => fail "identifier expected after pre-increment or pre-decrement"
      | _ => fail "syntax error: operand expected"
    | .finish => fail "syntax error: operand expected"

end

/-- The value of a calculation, and the state after it. -/
def value (s : State) (text : Bytes) : Except Trouble (Int × State) :=
  evaluate (20 * text.length + 2000) s text

/-- The key that a text names in a list, if it can name one, and the state after that. -/
def keyIn (s : State) (name key : Bytes) : Except Trouble (Bytes × State) := do
  let (key, r) ← (keyOf (20 * key.length + 2000) name key).run ⟨s, key, [], .finish, []⟩
  return (key, r.state)

end ScriptDeps.Shell.Calculation
