/-
The conditions of shell scripts: questions about files, texts and numbers.

A word counts as an operator where it can: one in front of an operand only if an operand
follows that is not itself followed by an operator between two.  Conditions of up to four
words have rules of their own, so that each has the meaning that its number of words
suggests.
-/
import ScriptDeps.Shell.Arithmetic
import ScriptDeps.Shell.Files

namespace ScriptDeps.Shell.Test

/-- What a word is in a condition. -/
inductive Token where
  | nothing
  | operand
  | unary
  | binary
  | not
  | and
  | or
  | opening
  | closing
  deriving DecidableEq, Repr

/-- The operators in front of an operand. -/
def unaryNames : List String :=
  ["-r", "-w", "-x", "-e", "-f", "-d", "-c", "-b", "-p", "-u", "-g", "-k", "-s", "-t", "-z", "-n",
    "-h", "-O", "-G", "-L", "-S"]

/-- The operators between two operands. -/
def binaryNames : List String :=
  ["=", "!=", "<", ">", "-eq", "-ne", "-ge", "-gt", "-le", "-lt", "-nt", "-ot", "-ef"]

/-- The kind of operator that a word can be. -/
def operator? (w : Bytes) : Option Token :=
  match String.ofList w with
  | "!" => some .not
  | "-a" => some .and
  | "-o" => some .or
  | "(" => some .opening
  | ")" => some .closing
  | name =>
    if unaryNames.contains name then some .unary
    else if binaryNames.contains name then some .binary
    else none

/-- The word at the front, which would be an operator before an operand, is an operand itself. -/
def standsAlone : List Bytes → Bool
  | [] | [_] => true
  | [_, _] => false
  | _ :: b :: _ => operator? b == some .binary

/-- What the word at the front is. -/
def token (args : List Bytes) : Token :=
  match args with
  | [] => .nothing
  | w :: rest =>
    match operator? w with
    | some .unary => if standsAlone args then .operand else .unary
    | some .opening => if rest.isEmpty then .operand else .opening
    | some t => t
    | none => .operand

/-- Why words are no condition. -/
inductive Trouble where
  | notNumber (arg : Bytes)
  /-- Something else should stand behind the word. -/
  | noOperator (arg : Bytes)
  /-- The operator lacks an operand. -/
  | noOperand (operator : Bytes)
  | notClosed
  deriving DecidableEq, Repr

def Trouble.wording : Trouble → Bytes
  | .notNumber arg => "Illegal number: ".toList ++ arg
  | .noOperator arg => (if arg.isEmpty then [] else arg ++ ": ".toList) ++ "unexpected operator".toList
  | .noOperand operator => operator ++ ": argument expected".toList
  | .notClosed => "closing paren expected".toList

/-- The number that a word must be. -/
def number (arg : Bytes) : Except Trouble Int :=
  let s := arg.dropWhile Bytes.isSpace
  let (negative, s) := match s with
    | '-' :: s => (true, s)
    | '+' :: s => (false, s)
    | s => (false, s)
  let (digits, rest) := s.span Char.isDigit
  let n : Int := Arithmetic.inBase 10 digits
  let n := if negative then -n else n
  if digits.isEmpty || !rest.all Bytes.isSpace || Arithmetic.clamp n != n then
    .error (.notNumber arg)
  else .ok n

/-- A question about one operand. -/
def ask (s : State) (operator : Bytes) (arg : Bytes) : Except Trouble Bool :=
  let node := (s.lookup arg.path).toOption
  let device := s.deviceAt? arg.path
  match String.ofList operator with
  | "-n" => .ok (!arg.isEmpty)
  | "-z" => .ok arg.isEmpty
  | "-t" => (number arg).map fun _ => false
  | "-e" | "-r" | "-w" | "-O" | "-G" => .ok node.isSome
  | "-d" => .ok (node.any Node.isDirectory)
  | "-f" => .ok (node.any (!·.isDirectory) && device.isNone)
  | "-c" => .ok (device.any fun d => !(d matches .descriptor _))
  | "-h" | "-L" => .ok (s.linkAt? arg.path).isSome
  | "-x" =>
    .ok (match node with
      | some (.file _ runnable) => runnable
      | some .directory => true
      | none => false)
  | "-s" =>
    .ok (match node with
      | some (.file content _) => content.size != 0
      | some .directory => true
      | none => false)
  | _ => .ok false

/-- A question about two operands. -/
def compare (s : State) (a operator b : Bytes) : Except Trouble Bool := do
  match String.ofList operator with
  | "=" => return a == b
  | "!=" => return a != b
  | "<" => return Bytes.isBefore a b
  | ">" => return Bytes.isBefore b a
  | "-eq" => return (← number a) == (← number b)
  | "-ne" => return (← number a) != (← number b)
  | "-lt" => return (← number a) < (← number b)
  | "-le" => return (← number a) ≤ (← number b)
  | "-gt" => return (← number a) > (← number b)
  | "-ge" => return (← number a) ≥ (← number b)
  | "-ef" => return (s.lookup a.path).toBool &&
      (s.locate true a.path).toOption == (s.locate true b.path).toOption
  | _ => return false

/-- A question about two operands at the front, and the words from the second one on. -/
def between (s : State) : List Bytes → Except Trouble (Bool × List Bytes)
  | a :: operator :: b :: rest => (compare s a operator b).map fun t => (t, b :: rest)
  | [_, operator] => .error (.noOperand operator)
  | args => .ok (false, args)

mutual

/-- Conditions of which one must hold.  Every reader is given what the first word is, and gives
the words from the last one on that it has read. -/
def any (s : State) : Nat → Token → List Bytes → Except Trouble (Bool × List Bytes)
  | 0, _, args => .ok (false, args)
  | fuel + 1, t, args => do
    let (first, args) ← all s fuel t args
    if token args.tail == .or then
      let rest := args.drop 2
      let (others, args) ← any s fuel (token rest) rest
      return (first || others, args)
    else return (first, args)

/-- Conditions of which all must hold. -/
def all (s : State) : Nat → Token → List Bytes → Except Trouble (Bool × List Bytes)
  | 0, _, args => .ok (false, args)
  | fuel + 1, t, args => do
    let (first, args) ← one s fuel t args
    if token args.tail == .and then
      let rest := args.drop 2
      let (others, args) ← all s fuel (token rest) rest
      return (first && others, args)
    else return (first, args)

/-- A condition that may be turned round. -/
def one (s : State) : Nat → Token → List Bytes → Except Trouble (Bool × List Bytes)
  | 0, _, args => .ok (false, args)
  | fuel + 1, t, args => do
    if t == .not then
      let next := token args.tail
      let (holds, args) ← one s fuel next (if next == .nothing then args else args.tail)
      return (!holds, args)
    else primary s fuel t args

/-- A question, or a condition in brackets. -/
def primary (s : State) : Nat → Token → List Bytes → Except Trouble (Bool × List Bytes)
  | 0, _, args => .ok (false, args)
  | fuel + 1, t, args => do
    match t, args with
    | .nothing, _ => return (false, args)
    | .opening, _ =>
      let inner := args.tail
      let next := token inner
      if next == .closing then return (false, inner)
      else
        let (holds, args) ← any s fuel next inner
        if token args.tail == .closing then return (holds, args.tail) else throw .notClosed
    | .unary, operator :: arg :: rest =>
      let holds ← ask s operator arg
      return (holds, arg :: rest)
    | .unary, operator :: _ => throw (.noOperand operator)
    | _, a :: rest =>
      if rest.head?.any fun w => operator? w == some .binary then between s args
      else return (!a.isEmpty, args)
    | _, [] => return (false, [])

end

/-- Whether a condition holds of which the kind of the first word is given. -/
def judged (s : State) (t : Token) (args : List Bytes) : Except Trouble Bool := do
  match ← any s (4 * args.length + 4) t args with
  | (_, a :: _ :: _) => throw (.noOperator a)
  | (holds, _) => return holds

/-- A condition of three words with an operator in their middle. -/
def isComparison : List Bytes → Bool
  | [_, operator, _] => operator? operator == some .binary
  | _ => false

/-- Whether the condition holds that the words are; `turned` tells that a negation stood in front
of them.  A second negation in front of few words changes nothing. -/
def settled (s : State) (turned : Bool) : List Bytes → Except Trouble Bool
  | [] => .ok false
  | a :: rest =>
    let args := a :: rest
    let few := args.length == 3 || args.length == 4
    let turn := fun (holds : Bool) => holds != turned
    if isComparison args then (judged s .operand args).map turn
    else if few && a == ['('] && args.getLast? == some [')'] then
      (judged s (token rest.dropLast) rest.dropLast).map turn
    else if few && a == ['!'] then settled s true rest
    else (judged s (token args) args).map turn

/-- Whether the condition holds that the words are. -/
def value (s : State) (args : List Bytes) : Except Trouble Bool :=
  settled s false args

end ScriptDeps.Shell.Test
