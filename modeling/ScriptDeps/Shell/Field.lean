/-
The fields that words become.

What is put into a word unquoted is taken apart at separators, so one word may give no
field, one or several.  A field remembers which of its bytes were quoted.  One with an
unquoted star, question mark or list is a pattern for names of files, and the names that
match take its place; if none does, it stands for itself.
-/
import ScriptDeps.Shell.Pattern
import ScriptDeps.Store

namespace ScriptDeps.Shell

/-- A field as runs of bytes, each quoted or not. -/
abbrev Field := List (Bytes × Bool)

namespace Field

def bytes (f : Field) : Bytes :=
  f.flatMap Prod.fst

/-- The field with unquoted bytes at its end, which are given in reverse.  A field that has not
begun begins with the first byte. -/
def withRun (run : Bytes) (f : Option Field) : Option Field :=
  if run.isEmpty then f else some (f.getD [] ++ [(run.reverse, false)])

end Field

/-- What a part of a word has become. -/
inductive Piece where
  /-- Bytes that stay together. -/
  | whole (bytes : Bytes) (quoted : Bool)
  /-- Bytes that are taken apart at separators. -/
  | loose (bytes : Bytes)
  /-- The arguments, each for itself. -/
  | each (args : List Bytes)
  /-- The arguments, each taken apart like loose bytes. -/
  | spread (args : List Bytes)
  deriving DecidableEq, Repr

namespace Piece

/-- The separators that are used unless a script sets others. -/
def standardSeparators : Bytes :=
  [' ', '\t', '\n']

/-- What stands between arguments that are joined: the first separator, if there is one. -/
def between (separators : Bytes) : Bytes :=
  separators.take 1

/-- What stands between arguments that are taken apart; it separates like a blank. -/
def gap : Char :=
  '\x00'

/-- The fields of loose bytes, and the one that is not ended.  Blanks among the separators only
end a field that has begun; every other separator ends one, which may be empty, unless blanks
have just ended it.  With `alike` blanks are no different from other separators. -/
def split (separators : Bytes) (alike : Bool) (current : Option Field) (b : Bytes) :
    List Field × Option Field :=
  go [] current [] false b
where
  /-- `done` are the fields so far and `run` the last bytes of the one that has begun, both in
  reverse; `closed` tells that blanks have just ended a field. -/
  go (done : List Field) (current : Option Field) (run : Bytes) (closed : Bool) :
      Bytes → List Field × Option Field
    | [] => (done.reverse, Field.withRun run current)
    | c :: s =>
      if !separators.contains c && c != gap then go done current (c :: run) false s
      else
        let current := Field.withRun run current
        if !alike && (Bytes.isBlank c || c == gap) then
          go (current.toList ++ done) none [] (closed || current.isSome) s
        else go (if closed then done else current.getD [] :: done) none [] false s

/-- The fields that pieces make up.  Quoted bytes begin a field even if there are none of them.
Behind arguments that stay together all separators are alike in the bytes that are taken apart
next, as `alike` tells. -/
def fields (separators : Bytes) (alike : Bool) (current : Option Field) : List Piece → List Field
  | [] => current.toList
  | .whole bytes quoted :: rest =>
    if bytes.isEmpty && !quoted then fields separators alike current rest
    else fields separators alike (some (current.getD [] ++ [(bytes, quoted)])) rest
  | .loose bytes :: rest =>
    let (done, current) := split separators alike current bytes
    done ++ fields separators false current rest
  | .spread args :: rest =>
    let (done, current) := split separators alike current (Bytes.joinedBy [gap] args)
    done ++ fields separators false current rest
  | .each [] :: rest => fields separators alike current rest
  | .each (a :: args) :: rest =>
    let first := current.getD [] ++ [(a, true)]
    match args.getLast? with
    | none => fields separators true (some first) rest
    | some last =>
      first :: args.dropLast.map (fun a => [(a, true)]) ++
        fields separators true (some [(last, true)]) rest

/-- The bytes of a piece that is not taken apart. -/
def bytes (separators : Bytes) : Piece → Bytes
  | .whole b _ => b
  | .loose b => b
  | .each args | .spread args => Bytes.joinedBy (between separators) args

/-- The bytes of a piece with their quotes, where it is not taken apart. -/
def marked (separators : Bytes) : Piece → Bytes × Bool
  | .whole b quoted => (b, quoted)
  | p => (p.bytes separators, false)

/-- The piece as a word in braces gives it: what stands there unquoted is taken apart, too. -/
def loosened : Piece → Piece
  | .whole b false => .loose b
  | p => p

end Piece

/-! ### Names of files -/

namespace Pattern

/-- The pattern matches more than its own bytes. -/
def isWild (ps : List Pattern) : Bool :=
  ps.any fun
    | .byte _ => false
    | _ => true

/-- The bytes of a pattern that is not wild. -/
def literal (ps : List Pattern) : Bytes :=
  ps.filterMap fun
    | .byte c => some c
    | _ => none

/-- The patterns between the slashes. -/
def levels : List Pattern → List (List Pattern)
  | [] => [[]]
  | p :: ps =>
    if p == .byte '/' then [] :: levels ps
    else
      match levels ps with
      | [] => [[p]]
      | level :: rest => (p :: level) :: rest

/-- The names in a directory that a pattern matches.  A dot at the start of a name is matched
only by itself. -/
def namesIn (store : Store) (dir : Bytes) (ps : List Pattern) : List Bytes :=
  match store.locate (if dir.isEmpty then ⟨"."⟩ else dir.path) with
  | .error _ => []
  | .ok loc =>
    let names := ["."] ++ [".."] ++ store.namesIn loc
    (names.map Bytes.ofText).filter fun name =>
      (name.head? != some '.' || ps.head? == some (.byte '.')) && accepts ps name

/-- The paths that match level by level, where `front` is what stands before them. -/
def pathsFrom (store : Store) (front : Bytes) : List (List Pattern) → List Bytes
  | [] => []
  | [last] =>
    if last.isEmpty then if store.isDir front.path then [front] else []
    else if isWild last then (namesIn store front last).map (front ++ ·)
    else
      let p := front ++ literal last
      if store.exists? p.path then [p] else []
  | level :: rest =>
    let names := if isWild level then namesIn store front level else [literal level]
    names.flatMap fun name => pathsFrom store (front ++ name ++ ['/']) rest

end Pattern

/-- The field matches more than its own bytes. -/
def Field.isPattern (f : Field) : Bool :=
  Pattern.isWild (Pattern.ofPieces f)

/-- What a field stands for: the paths that it matches, or itself. -/
def Field.paths (store : Store) (f : Field) : List Bytes :=
  let ps := Pattern.ofPieces f
  if !Pattern.isWild ps then [f.bytes]
  else
    match Pattern.pathsFrom store [] (Pattern.levels ps) with
    | [] => [f.bytes]
    | paths => paths

end ScriptDeps.Shell
