/-
Words that stand for several: alternatives and sequences in braces.

Braces are taken apart before anything is put into a word, so only what stands unquoted in the
word itself counts.  Braces that hold neither a comma nor a sequence stand for themselves.
-/
import ScriptDeps.Shell.Command

namespace ScriptDeps.Shell.Braces

/-- The parts of a word with each unquoted character for itself. -/
def atoms (w : Word) : List Part :=
  w.flatMap fun
    | .text bytes false => bytes.map fun c => .text [c] false
    | p => [p]

/-- The word that parts make up. -/
def word (ps : List Part) : Word :=
  ps.foldr
    (fun p w =>
      match p with
      | .text bytes false => Word.consText bytes false w
      | p => p :: w)
    []

/-- The unquoted character that a part is. -/
def char? : Part → Option Char
  | .text [c] false => some c
  | _ => none

/-- The parts up to the brace that closes alternatives or a sequence, and the parts behind it.
`found` tells that there has been a comma or two dots. -/
def untilClosed (depth : Nat) (found : Bool) : List Part → Option (List Part × List Part)
  | [] => none
  | p :: rest =>
    let on := fun (depth : Nat) (found : Bool) =>
      (untilClosed depth found rest).map fun (inside, rest) => (p :: inside, rest)
    match char? p with
    | some '\x7d' => if depth == 0 && found then some ([], rest) else on (depth - 1) found
    | some '\x7b' => on (depth + 1) found
    | some ',' => on depth (found || depth == 0)
    | some '.' =>
      let isPair := rest.head?.bind char? == some '.' && (rest[1]?.bind char?) != some '\x7d'
      on depth (found || (depth == 0 && isPair))
    | _ => on depth found

/-- What stands in front of the first braces that close, in them, and behind them. -/
def opened (first : Bool) : List Part → Option (List Part × List Part × List Part)
  | [] => none
  | p :: rest =>
    let isEmptyPair := first && rest.head?.bind char? == some '\x7d'
    match (if char? p == some '\x7b' && !isEmptyPair then untilClosed 0 false rest else none) with
    | some (inside, behind) => some ([], inside, behind)
    | none => (opened false rest).map fun (front, inside, behind) => (p :: front, inside, behind)

/-- The alternatives between commas that stand in no further braces. -/
def alternatives (depth : Nat) : List Part → List (List Part)
  | [] => [[]]
  | p :: rest =>
    if char? p == some ',' && depth == 0 then [] :: alternatives 0 rest
    else
      let depth := match char? p with
        | some '\x7b' => depth + 1
        | some '\x7d' => depth - 1
        | _ => depth
      match alternatives depth rest with
      | first :: others => (p :: first) :: others
      | [] => [[p]]

/-! ### Sequences -/

/-- The number that a text is, perhaps behind a sign. -/
def number? (s : Bytes) : Option Int :=
  match s with
  | '-' :: s => (Bytes.natural? s).map fun n => -(n : Int)
  | '+' :: s => (Bytes.natural? s).map fun n => (n : Int)
  | s => (Bytes.natural? s).map fun n => (n : Int)

/-- The number of digits and signs that all numbers of a sequence have, where an end begins with a
zero. -/
def widthOf (first last : Bytes) : Nat :=
  let isFilled : Bytes → Bool
    | '0' :: _ :: _ | '-' :: '0' :: _ :: _ => true
    | _ => false
  if isFilled first || isFilled last then max first.length last.length else 0

/-- A number filled with zeros. -/
def filled (width : Nat) (n : Int) : Bytes :=
  let digits := Bytes.ofNat n.natAbs
  let sign := if n < 0 then ['-'] else []
  sign ++ List.replicate (width - (sign.length + digits.length)) '0' ++ digits

/-- How many numbers a sequence may have. -/
def longest : Nat :=
  100000

/-- The numbers from one to another by steps. -/
def steps (first last step : Int) : List Int :=
  let size := if step == 0 then 1 else step.natAbs
  let count := min longest ((last - first).natAbs / size + 1)
  (List.range count).map fun i => if first ≤ last then first + (i * size : Nat) else first - (i * size : Nat)

/-- A text taken apart at two dots. -/
def betweenDots : Bytes → List Bytes
  | [] => [[]]
  | '.' :: '.' :: s => [] :: betweenDots s
  | c :: s =>
    match betweenDots s with
    | first :: others => (c :: first) :: others
    | [] => [[c]]

/-- The texts of a sequence of numbers or of letters. -/
def sequence? (s : Bytes) : Option (List Bytes) := do
  let (first, last, step) ← match betweenDots s with
    | [first, last] => some (first, last, 1)
    | [first, last, step] => (number? step).map fun n => (first, last, n)
    | _ => none
  match first, last with
  | [a], [b] =>
    if a.isAlpha && b.isAlpha then
      return (steps a.toNat b.toNat step).map fun n => [Char.ofNat n.toNat]
  | _, _ => pure ()
  let a ← number? first
  let b ← number? last
  return (steps a b step).map (filled (widthOf first last))

/-! ### Words -/

/-- The parts of the words that braces stand for. -/
def expand : Nat → List Part → List (List Part)
  | 0, ps => [ps]
  | fuel + 1, ps =>
    match opened true ps with
    | none => [ps]
    | some (front, inside, behind) =>
      let texts := inside.mapM char?
      let middle : Option (List (List Part)) := match alternatives 0 inside with
        | [_] =>
          match texts.bind sequence? with
          | some items => some (items.map fun item => [.text item true])
          | none =>
            if behind.isEmpty then none
            else some [.text ['\x7b'] false :: inside ++ [.text ['\x7d'] false]]
        | choices => some (choices.flatMap (expand fuel))
      match middle with
      | none => [ps]
      | some middle =>
        let ends := if behind.isEmpty then [[]] else expand fuel behind
        middle.flatMap fun m => ends.map fun e => front ++ m ++ e

/-- The words that a word stands for. -/
def words (w : Word) : List Word :=
  let isPlain := !w.any fun
    | .text bytes false => bytes.contains '\x7b'
    | _ => false
  if isPlain then [w]
  else
    let ps := atoms w
    (expand (ps.length + 1) ps).map word

end ScriptDeps.Shell.Braces
