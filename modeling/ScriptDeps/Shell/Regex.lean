/-
Regular expressions, and where they match.

A match begins as far to the left as it can and is then as long as it can be.  Among the ways
to match as much, one that takes the first of two alternatives is preferred, and one that
repeats once more: what the groups have matched is told by the preferred way.
-/
import ScriptDeps.Shell.Wide

namespace ScriptDeps.Shell

/-- A regular expression. -/
inductive Regex where
  | nothing
  | one (c : Char)
  | any
  /-- A character in one of the sets, or in none of them. -/
  | within (inside : Bool) (sets : List ByteSet)
  | textStart
  | textEnd
  | lineStart
  | lineEnd
  /-- The start or the end of a word, or what is not one. -/
  | edge (start finish : Bool)
  | notEdge
  | both (a b : Regex)
  | either (a b : Regex)
  /-- At least so many times, and at most. -/
  | times (r : Regex) (least : Nat) (most : Option Nat)
  | group (number : Nat) (r : Regex)
  /-- What a group has matched. -/
  | again (number : Nat)
  deriving Repr, Inhabited

namespace Regex

/-- The expression that matches a text and nothing else. -/
def ofBytes : Bytes → Regex
  | [] => .nothing
  | c :: s => .both (.one c) (ofBytes s)

/-- What a group has matched is asked for again. -/
def recalls : Regex → Bool
  | .both a b | .either a b => recalls a || recalls b
  | .times r .. | .group _ r => recalls r
  | .again _ => true
  | _ => false

/-- The number of groups. -/
def groupCount : Regex → Nat
  | .both a b | .either a b => groupCount a + groupCount b
  | .times r .. => groupCount r
  | .group _ r => groupCount r + 1
  | _ => 0

/-- Every match is one character long. -/
def isSingle : Regex → Bool
  | .one _ | .any | .within .. => true
  | _ => false

/-- A place in a text: the characters before it in reverse, those behind it, the number of those
before it, and where the groups have matched, by number, first and last place. -/
structure Place where
  before : Bytes
  behind : Bytes
  position : Nat
  groups : List (Nat × Nat × Nat)
  deriving DecidableEq

/-- How a text is matched. -/
structure Mode where
  /-- Capital letters and small ones are the same. -/
  anyCase : Bool
  /-- The lines of the text have starts and ends of their own. -/
  lines : Bool
  /-- The text is made of characters and not of bytes. -/
  wide : Bool
  /-- Ways to one place differ by what their groups have matched. -/
  recalls : Bool

namespace Place

/-- The place at the start of a text. -/
def ofText (s : Bytes) : Place :=
  ⟨[], s, 0, []⟩

/-- The place behind the next character. -/
def next? (p : Place) : Option Place :=
  match p.behind with
  | c :: s => some { p with before := c :: p.before, behind := s, position := p.position + 1 }
  | [] => none

/-- The place behind the next character, if that is one wanted. -/
def advance (wanted : Char → Bool) (p : Place) : List Place :=
  match p.behind with
  | c :: _ => if wanted c then p.next?.toList else []
  | [] => []

/-- What stands between two places. -/
def until_ (p q : Place) : Bytes :=
  p.behind.take (q.position - p.position)

/-- What a group has matched, if it has. -/
def groupText? (p : Place) (number : Nat) : Option Bytes :=
  (p.groups.lookup number).map fun (first, last) =>
    let text := p.before.reverse ++ p.behind
    (text.take last).drop first

/-- The place with nothing matched by a group. -/
def fresh (p : Place) : Place :=
  { p with groups := [] }

/-- Two ways have come to the same. -/
def same (recalls : Bool) (p q : Place) : Bool :=
  p.position == q.position && (!recalls || p.groups == q.groups)

/-- The ways without those that come to the same as an earlier one. -/
def distinct (recalls : Bool) (ps : List Place) : List Place :=
  match ps with
  | [] | [_] => ps
  | ps => (ps.foldl (fun kept p => if kept.any (same recalls p) then kept else p :: kept) []).reverse

end Place

namespace Mode

/-- Two characters are the same. -/
def same (mode : Mode) (a b : Char) : Bool :=
  a == b || (mode.anyCase && (if mode.wide then Wide.lower a == Wide.lower b else a.toLower == b.toLower))

/-- The character is in a set. -/
def isIn (mode : Mode) (set : ByteSet) (c : Char) : Bool :=
  if mode.wide then Wide.isIn set c else set.contains c

/-- The character is in one of the sets. -/
def isInOne (mode : Mode) (sets : List ByteSet) (c : Char) : Bool :=
  sets.any fun set =>
    mode.isIn set c ||
      (mode.anyCase && (mode.isIn set (Wide.lower c) || mode.isIn set (Wide.upper c)))

/-- What is here is a character, and not a byte that belongs to none. -/
def isWhole (mode : Mode) (c : Char) : Bool :=
  !(mode.wide && Wide.isStray c)

/-- The character belongs to words. -/
def isWordChar (mode : Mode) (c : Char) : Bool :=
  c == '_' || mode.isIn (.kind .letterOrDigit) c

/-- A word begins at the place. -/
def startsWord (mode : Mode) (p : Place) : Bool :=
  p.behind.head?.any mode.isWordChar && !p.before.head?.any mode.isWordChar

/-- A word ends at the place. -/
def endsWord (mode : Mode) (p : Place) : Bool :=
  p.before.head?.any mode.isWordChar && !p.behind.head?.any mode.isWordChar

/-- The places behind a text, if that stands there. -/
def literally (mode : Mode) : Bytes → Place → List Place
  | [], p => [p]
  | c :: s, p => (p.advance (mode.same c)).flatMap (literally mode s)

end Mode

/-- The places that steps to the next character lead to, the farthest first. -/
def run (step : Place → List Place) : Nat → Nat → Option Nat → Place → List Place
  | 0, least, _, p => if least == 0 then [p] else []
  | fuel + 1, least, most, p =>
    let here := if least == 0 then [p] else []
    if most == some 0 then here
    else
      match step p with
      | q :: _ => run step fuel (least - 1) (most.map (· - 1)) q ++ here
      | [] => here

/-- The places that steps lead to from places, with the ways of more steps first, and the ways
that were followed, which are not followed again.  Behind a step at least, one that leads nowhere
further is none. -/
def reached (recalls : Bool) (step : Place → List Place) :
    Nat → Bool → Nat → Option Nat → List Place → List (Place × Nat) → List Place × List (Place × Nat)
  | 0, _, _, _, _, seen => ([], seen)
  | _, _, _, _, [], seen => ([], seen)
  | fuel + 1, isFirst, least, most, p :: ps, seen =>
    let bound := least + (most.elim 0 (· + 1))
    let isSeen := seen.any fun (q, n) => n == bound && q.same recalls p
    let (here, seen) :=
      if isSeen then ([], seen)
      else
        let seen := (p, bound) :: seen
        if most == some 0 then ([p], seen)
        else
          let next := step p
          let further := next.filter fun q => q.position != p.position || 0 < least
          let (found, seen) :=
            reached recalls step fuel false (least - 1) (most.map (· - 1)) further seen
          let still := if isFirst && least == 0 then next.filter fun q => q.position == p.position else []
          (found ++ still ++ (if least == 0 then [p] else []), seen)
    let (rest, seen) := reached recalls step fuel isFirst least most ps seen
    (here ++ rest, seen)

/-- The places where a match from a place on can end, by the preferred ways first. -/
def ends (mode : Mode) : Regex → Place → List Place
  | .nothing, p => [p]
  | .one c, p => p.advance (mode.same c)
  | .any, p => p.advance mode.isWhole
  | .within inside sets, p => p.advance fun c => mode.isWhole c && mode.isInOne sets c == inside
  | .textStart, p => if p.before.isEmpty then [p] else []
  | .textEnd, p => if p.behind.isEmpty then [p] else []
  | .lineStart, p => if p.before.isEmpty || (mode.lines && p.before.head? == some '\n') then [p] else []
  | .lineEnd, p => if p.behind.isEmpty || (mode.lines && p.behind.head? == some '\n') then [p] else []
  | .edge start finish, p =>
    if (start && mode.startsWord p) || (finish && mode.endsWord p) then [p] else []
  | .notEdge, p => if mode.startsWord p || mode.endsWord p then [] else [p]
  | .both a b, p => Place.distinct mode.recalls ((ends mode a p).flatMap (ends mode b))
  | .either a b, p => Place.distinct mode.recalls (ends mode a p ++ ends mode b p)
  | .times r least most, p =>
    if r.isSingle then run (ends mode r) (p.behind.length + 1) least most p
    else
      Place.distinct mode.recalls
        (reached mode.recalls (ends mode r) ((p.behind.length + least + 2) * (p.behind.length + 2)) true
          least most [p] []).1
  | .group number r, p =>
    (ends mode r p).map fun q =>
      { q with groups := (number, p.position, q.position) :: q.groups.filter (·.1 != number) }
  | .again number, p => (p.groupText? number).elim [] fun text => mode.literally text p

end Regex

/-- An expression and how it is matched. -/
structure Matcher where
  regex : Regex
  mode : Regex.Mode

namespace Matcher

/-- The matcher of an expression in texts made of characters. -/
def wide (r : Regex) (anyCase lines : Bool) : Matcher :=
  ⟨r, ⟨anyCase, lines, true, r.recalls⟩⟩

/-- The matcher of an expression in bytes. -/
def bytes (r : Regex) : Matcher :=
  ⟨r, ⟨false, false, false, r.recalls⟩⟩

/-- The places where a match from a place on can end. -/
def ends (m : Matcher) (p : Regex.Place) : List Regex.Place :=
  m.regex.ends m.mode p

/-- The place where the longest match from a place on ends. -/
def longest? (m : Matcher) (p : Regex.Place) : Option Regex.Place :=
  (m.ends p).foldl
    (fun best q =>
      match best with
      | some b => if b.position < q.position then some q else best
      | none => some q)
    none

/-- The first match from a place on: where it starts and where it ends. -/
def firstFrom? (m : Matcher) : Nat → Regex.Place → Option (Regex.Place × Regex.Place)
  | 0, _ => none
  | fuel + 1, p =>
    match m.longest? p with
    | some q => some (p, q)
    | none => p.next?.bind (m.firstFrom? fuel)

/-- The first match from a place on, with nothing matched by groups before. -/
def first? (m : Matcher) (p : Regex.Place) : Option (Regex.Place × Regex.Place) :=
  m.firstFrom? (p.behind.length + 1) p.fresh

/-- The first match in a text. -/
def find? (m : Matcher) (s : Bytes) : Option (Regex.Place × Regex.Place) :=
  m.first? (Regex.Place.ofText s)

/-- There is a match in a text. -/
def isFound (m : Matcher) (s : Bytes) : Bool :=
  (m.find? s).isSome

/-- All of a text is matched. -/
def isWhole (m : Matcher) (s : Bytes) : Bool :=
  (m.ends (Regex.Place.ofText s)).any (·.behind.isEmpty)

end Matcher

end ScriptDeps.Shell
