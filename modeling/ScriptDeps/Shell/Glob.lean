/-
Patterns with groups, and what they do with the characters of a text.

A group stands in parentheses behind a sign that tells how often one of its alternatives is there,
or that none is.  Texts are made of characters and not of bytes.
-/
import ScriptDeps.Shell.Wide

namespace ScriptDeps.Shell

/-- An item of a pattern, or a group of alternatives behind a sign. -/
inductive Glob where
  | item (p : Pattern)
  | group (sign : Char) (choices : List (List Glob))

namespace Glob

open Pattern (Mark)

/-- The characters of pieces, those behind a backslash quoted like the rest. -/
def marks (pieces : List (Bytes × Bool)) : List Mark :=
  Pattern.marks (pieces.map fun (b, quoted) => (Wide.ofBytes b, quoted))

/-- The alternatives up to the parenthesis that closes a group, and what is behind it. -/
def choices (depth : Nat) : List Mark → Option (List (List Mark) × List Mark)
  | [] => none
  | m :: ms =>
    let on := fun (depth : Nat) =>
      (choices depth ms).map fun
        | (first :: others, rest) => ((m :: first) :: others, rest)
        | ([], rest) => ([[m]], rest)
    if m == (')', false) then if depth == 0 then some ([[]], ms) else on (depth - 1)
    else if m == ('|', false) && depth == 0 then
      (choices depth ms).map fun (others, rest) => ([] :: others, rest)
    else on (if m == ('(', false) then depth + 1 else depth)

/-- The pattern that marked characters are; groups count only if they are asked for. -/
def ofMarks (groups : Bool) : Nat → List Mark → List Glob
  | 0, _ => []
  | _, [] => []
  | fuel + 1, (c, quoted) :: ms =>
    let group := if groups && !quoted && "?*+@!".toList.contains c && ms.head? == some ('(', false) then
        choices 0 ms.tail
      else none
    match group with
    | some (alternatives, rest) =>
      .group c (alternatives.map (ofMarks groups fuel)) :: ofMarks groups fuel rest
    | none =>
      if quoted then .item (.byte c) :: ofMarks groups fuel ms
      else
        match c with
        | '*' => .item .any :: ofMarks groups fuel ms
        | '?' => .item .one :: ofMarks groups fuel ms
        | '[' =>
          match list? ms with
          | some (p, ms) => .item p :: ofMarks groups fuel ms
          | none => .item (.byte c) :: ofMarks groups fuel ms
        | c => .item (.byte c) :: ofMarks groups fuel ms
where
  /-- A list, which a caret may turn round as well. -/
  list? : List Mark → Option (Pattern × List Mark)
    | ('^', false) :: ms => Pattern.within? (('!', false) :: ms)
    | ms => Pattern.within? ms

/-- The pattern of pieces with their quotes. -/
def ofPieces (groups : Bool) (pieces : List (Bytes × Bool)) : List Glob :=
  let ms := marks pieces
  ofMarks groups (ms.length + 1) ms

/-- The pattern matches more than its own characters. -/
def isWild (gs : List Glob) : Bool :=
  gs.any fun
    | .item (.byte _) => false
    | _ => true

/-- The characters of a pattern that is not wild. -/
def literal (gs : List Glob) : Bytes :=
  gs.filterMap fun
    | .item (.byte c) => some c
    | _ => none

/-- The item matches a character. -/
def holds (anyCase : Bool) (p : Pattern) (c : Char) : Bool :=
  match p with
  | .byte b => b == c || (anyCase && Wide.lower b == Wide.lower c)
  | .one | .any => true
  | .within inside sets =>
    (sets.any fun set => Wide.isIn set c ||
      (anyCase && (Wide.isIn set (Wide.lower c) || Wide.isIn set (Wide.upper c)))) == inside

/-- How much of a text can be left behind a pattern at its front. -/
def left (anyCase : Bool) : Nat → List Glob → Bytes → List Nat
  | 0, _, _ => []
  | _, [], s => [s.length]
  | fuel + 1, g :: gs, s =>
    let then_ := fun (lengths : List Nat) =>
      (lengths.flatMap fun n => left anyCase fuel gs (s.drop (s.length - n))).eraseDups
    match g with
    | .item .any => if gs.isEmpty then List.range (s.length + 1) else then_ (List.range (s.length + 1))
    | .item p =>
      match s with
      | c :: rest => if holds anyCase p c then left anyCase fuel gs rest else []
      | [] => []
    | .group sign choices =>
      let once := fun (n : Nat) =>
        (choices.flatMap fun choice => left anyCase fuel choice (s.drop (s.length - n))).eraseDups
      match sign with
      | '@' => then_ (once s.length)
      | '?' => then_ (s.length :: once s.length).eraseDups
      | '+' => then_ (closure once (s.length + 1) (once s.length) (once s.length))
      | '*' => then_ (closure once (s.length + 1) [s.length] [s.length])
      | _ =>
        then_ ((List.range (s.length + 1)).filter fun n =>
          !choices.any fun choice => (left anyCase fuel choice (s.take (s.length - n))).contains 0)
where
  /-- What can be left after any number of steps. -/
  closure (step : Nat → List Nat) : Nat → List Nat → List Nat → List Nat
    | 0, seen, _ => seen
    | fuel + 1, seen, new =>
      let more := ((new.flatMap step).eraseDups).filter (!seen.contains ·)
      if more.isEmpty then seen else closure step fuel (seen ++ more) more

mutual

/-- How deep a pattern is. -/
def depth : Glob → Nat
  | .item _ => 1
  | .group _ choices => 1 + depthOfAll choices

def depthOf : List Glob → Nat
  | [] => 1
  | g :: gs => depth g + depthOf gs

def depthOfAll : List (List Glob) → Nat
  | [] => 0
  | gs :: rest => depthOf gs + depthOfAll rest

end

/-- The pattern has groups. -/
def hasGroups (gs : List Glob) : Bool :=
  gs.any fun
    | .group .. => true
    | _ => false

end Glob

/-- A pattern, and whether capital letters and small ones are the same for it. -/
structure GlobMatcher where
  globs : List Glob
  anyCase : Bool

namespace GlobMatcher

/-- How much of a text can be left behind what is matched at its front. -/
def left (m : GlobMatcher) (s : Bytes) : List Nat :=
  Glob.left m.anyCase (Glob.depthOf m.globs + 1) m.globs s

/-- The pattern without groups, if it has none. -/
def plain? (m : GlobMatcher) : Option (List Pattern) :=
  m.globs.mapM fun
    | .item p => if m.anyCase then none else some p
    | .group .. => none

/-- All of the characters are matched. -/
def accepts (m : GlobMatcher) (s : Bytes) : Bool :=
  match m.plain? with
  | some ps => if s.all (·.toNat < 128) then Pattern.accepts ps s else (m.left s).contains 0
  | none => (m.left s).contains 0

/-- The length of the longest match at the front. -/
def longest? (m : GlobMatcher) (s : Bytes) : Option Nat :=
  (m.left s).foldl (fun best n => some (max (best.getD 0) (s.length - n))) none

/-- The length of the shortest match at the front. -/
def shortest? (m : GlobMatcher) (s : Bytes) : Option Nat :=
  (m.left s).foldl (fun best n => some (best.elim (s.length - n) (min (s.length - n)))) none

/-- The characters without what a cut takes off. -/
def cut (m : GlobMatcher) (kind : Cut) (s : Bytes) : Bytes :=
  if kind.fromStart then
    ((if kind.longest then m.longest? s else m.shortest? s).map s.drop).getD s
  else
    let lengths := List.range (s.length + 1)
    let kept := (if kind.longest then lengths else lengths.reverse).find? fun n => m.accepts (s.drop n)
    kept.elim s s.take

/-- What takes the place of a match: texts, and the match itself. -/
abbrev Replacement := List (Option Bytes)

/-- The replacement of a match. -/
def filled (r : Replacement) (found : Bytes) : Bytes :=
  r.flatMap fun piece => piece.getD found

/-- The first match with something before it, or each match, in a text. -/
def replaceFrom (m : GlobMatcher) (all : Bool) (r : Replacement) : Nat → Bytes → Bytes
  | 0, s => s
  | _, [] => []
  | fuel + 1, c :: s =>
    match m.longest? (c :: s) with
    | none => c :: replaceFrom m all r fuel s
    | some 0 => filled r [] ++ (if all then c :: replaceFrom m all r fuel s else c :: s)
    | some n =>
      let rest := (c :: s).drop n
      filled r ((c :: s).take n) ++ (if all then replaceFrom m all r fuel rest else rest)

/-- The text with a replacement for what is matched. -/
def replace (m : GlobMatcher) (scope : Scope) (r : Replacement) (s : Bytes) : Bytes :=
  match scope with
  | .start =>
    if m.globs.isEmpty then filled r [] ++ s
    else (m.longest? s).elim s fun n => filled r (s.take n) ++ s.drop n
  | .finish =>
    if m.globs.isEmpty then s ++ filled r []
    else
      let place := (List.range (s.length + 1)).find? fun n => m.accepts (s.drop n)
      place.elim s fun n => s.take n ++ filled r (s.drop n)
  | scope =>
    if m.globs.isEmpty then s
    else if s.isEmpty then if m.accepts s then filled r [] else s
    else m.replaceFrom (scope == .all) r (s.length + 1) s

/-- The text with other letters where they are matched, or only at its start. -/
def recase (m : GlobMatcher) (kind : Recasing) (all : Bool) (s : Bytes) : Bytes :=
  let change := fun (c : Char) =>
    if !m.globs.isEmpty && !m.accepts [c] then c
    else
      match kind with
      | .upper => Wide.upper c
      | .lower => Wide.lower c
      | .turned => if Wide.upper c == c then Wide.lower c else Wide.upper c
  if all then s.map change
  else
    match s with
    | c :: rest => change c :: rest
    | [] => []

end GlobMatcher

end ScriptDeps.Shell
