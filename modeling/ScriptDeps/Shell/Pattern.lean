/-
Patterns of shell scripts.

A star matches any bytes, a question mark one, and a list in brackets one that is in the
list, or not in it.  What was quoted matches itself, and so does what a backslash stands in
front of.
-/
import ScriptDeps.Shell.Command

namespace ScriptDeps.Shell

/-- A kind of bytes that a list names. -/
inductive ByteClass where
  | letter
  | digit
  | letterOrDigit
  | upper
  | lower
  | space
  | blank
  | punctuation
  | control
  | hexDigit
  | visible
  | printable
  deriving DecidableEq, Repr

namespace ByteClass

/-- The class of a name. -/
def ofName? (name : Bytes) : Option ByteClass :=
  match String.ofList name with
  | "alpha" => some .letter
  | "digit" => some .digit
  | "alnum" => some .letterOrDigit
  | "upper" => some .upper
  | "lower" => some .lower
  | "space" => some .space
  | "blank" => some .blank
  | "punct" => some .punctuation
  | "cntrl" => some .control
  | "xdigit" => some .hexDigit
  | "graph" => some .visible
  | "print" => some .printable
  | _ => none

/-- The byte is of the class. -/
def holds (k : ByteClass) (c : Char) : Bool :=
  let isVisible := 32 < c.toNat && c.toNat < 127
  match k with
  | .letter => c.isAlpha
  | .digit => c.isDigit
  | .letterOrDigit => c.isAlphanum
  | .upper => c.isUpper
  | .lower => c.isLower
  | .space => Bytes.isSpace c
  | .blank => c == ' ' || c == '\t'
  | .punctuation => isVisible && !c.isAlphanum
  | .control => c.toNat < 32 || c.toNat == 127
  | .hexDigit => c.isDigit || ('a' ≤ c && c ≤ 'f') || ('A' ≤ c && c ≤ 'F')
  | .visible => isVisible
  | .printable => isVisible || c == ' '

end ByteClass

/-- An item of a list in brackets. -/
inductive ByteSet where
  | range (first last : Char)
  | kind (k : ByteClass)
  deriving DecidableEq, Repr

/-- The byte is in the set. -/
def ByteSet.contains (set : ByteSet) (c : Char) : Bool :=
  match set with
  | .range first last => first ≤ c && c ≤ last
  | .kind k => k.holds c

/-- An item of a pattern. -/
inductive Pattern where
  | byte (c : Char)
  | one
  | any
  /-- One byte in one of the sets, or in none of them. -/
  | within (inside : Bool) (sets : List ByteSet)
  deriving DecidableEq, Repr

namespace Pattern

/-- A byte that was quoted or not. -/
abbrev Mark := Char × Bool

/-- The bytes of pieces, those behind a backslash quoted like the rest. -/
def marks (pieces : List (Bytes × Bool)) : List Mark :=
  pieces.flatMap fun (bytes, quoted) =>
    if quoted then bytes.map fun c => (c, true) else escaped bytes
where
  escaped : Bytes → List Mark
    | '\\' :: c :: s => (c, true) :: escaped s
    | c :: s => (c, false) :: escaped s
    | [] => []

/-- The name between `[:` and `:]`, and what is behind it. -/
def className? (ms : List Mark) : Option (Bytes × List Mark) :=
  match ms with
  | ('[', false) :: (':', false) :: rest =>
    let name := (rest.takeWhile fun m => m.1 != ':').map Prod.fst
    match rest.dropWhile fun m => m.1 != ':' with
    | (':', false) :: (']', false) :: rest =>
      if name.all Char.isAlpha then some (name, rest) else none
    | _ => none
  | _ => none

/-- The sets of a list in brackets, up to the closing one. -/
def sets? : Nat → Bool → List Mark → Option (List ByteSet × List Mark)
  | 0, _, _ => none
  | _, _, [] => none
  | fuel + 1, first, (c, quoted) :: ms =>
    if c == ']' && !quoted && !first then some ([], ms)
    else
      match className? ((c, quoted) :: ms) with
      | some (name, ms) =>
        (sets? fuel false ms).map fun (rest, ms) =>
          ((ByteClass.ofName? name).elim rest (ByteSet.kind · :: rest), ms)
      | none =>
        match ms with
        | ('-', false) :: (last, q) :: more =>
          if last == ']' && !q then
            (sets? fuel false ms).map fun (rest, ms) => (.range c c :: rest, ms)
          else (sets? fuel false more).map fun (rest, ms) => (.range c last :: rest, ms)
        | ms => (sets? fuel false ms).map fun (rest, ms) => (.range c c :: rest, ms)

/-- A list after its opening bracket; a closing bracket at its start is one of its bytes. -/
def within? (ms : List Mark) : Option (Pattern × List Mark) :=
  match ms with
  | ('!', false) :: ms => (sets? (ms.length + 1) true ms).map fun (r, ms) => (.within false r, ms)
  | ms => (sets? (ms.length + 1) true ms).map fun (r, ms) => (.within true r, ms)

/-- The pattern that marked bytes are. -/
def ofMarks : Nat → List Mark → List Pattern
  | 0, _ => []
  | _, [] => []
  | fuel + 1, (c, quoted) :: ms =>
    if quoted then .byte c :: ofMarks fuel ms
    else
      match c with
      | '*' => .any :: ofMarks fuel ms
      | '?' => .one :: ofMarks fuel ms
      | '[' =>
        match within? ms with
        | some (p, ms) => p :: ofMarks fuel ms
        | none => .byte c :: ofMarks fuel ms
      | c => .byte c :: ofMarks fuel ms

/-- The pattern of pieces with their quotes. -/
def ofPieces (pieces : List (Bytes × Bool)) : List Pattern :=
  let ms := marks pieces
  ofMarks ms.length ms

/-- The pattern matches all of the bytes. -/
def isMatch : Nat → List Pattern → Bytes → Bool
  | 0, _, _ => false
  | _, [], s => s.isEmpty
  | fuel + 1, .any :: ps, [] => isMatch fuel ps []
  | fuel + 1, .any :: ps, c :: s => isMatch fuel ps (c :: s) || isMatch fuel (.any :: ps) s
  | _, _ :: _, [] => false
  | fuel + 1, .byte b :: ps, c :: s => b == c && isMatch fuel ps s
  | fuel + 1, .one :: ps, _ :: s => isMatch fuel ps s
  | fuel + 1, .within inside sets :: ps, c :: s =>
    (sets.any (·.contains c) == inside) && isMatch fuel ps s

def accepts (ps : List Pattern) (s : Bytes) : Bool :=
  isMatch (ps.length + s.length + 1) ps s

/-! ### Cutting -/

/-- The length of the start that a cut takes off, if there is one. -/
def startLength? (longest : Bool) (ps : List Pattern) (s : Bytes) : Option Nat :=
  let lengths := List.range (s.length + 1)
  (if longest then lengths.reverse else lengths).find? fun n => accepts ps (s.take n)

/-- The length of what is left by a cut that takes off the end, if there is one. -/
def leftLength? (longest : Bool) (ps : List Pattern) (s : Bytes) : Option Nat :=
  let lengths := List.range (s.length + 1)
  (if longest then lengths else lengths.reverse).find? fun n => accepts ps (s.drop n)

/-- The bytes without what a cut takes off. -/
def cut (kind : Cut) (ps : List Pattern) (s : Bytes) : Bytes :=
  if kind.fromStart then (startLength? kind.longest ps s).elim s s.drop
  else (leftLength? kind.longest ps s).elim s s.take

/-- What is left of arguments by a cut that takes off the end of one of them, and all that is
behind it. -/
def endCut? (longest : Bool) (ps : List Pattern) : List Bytes → Option (List Bytes)
  | [] => none
  | a :: rest =>
    let here := (leftLength? longest ps a).map fun n => [a.take n]
    if longest then here
    else ((endCut? longest ps rest).map (a :: ·)).orElse fun _ => here

/-- Arguments cut as one text in which no pattern reaches over the gap between two of them. -/
def cutAll (kind : Cut) (ps : List Pattern) (args : List Bytes) : List Bytes :=
  match args with
  | [] => [[]]
  | a :: rest =>
    if !kind.fromStart then (endCut? kind.longest ps args).getD args
    else if kind.longest && accepts ps a then [[]]
    else cut kind ps a :: rest

end Pattern

end ScriptDeps.Shell
