/-
Scripts of the stream editor.

A script is a list of instructions.  Each one acts on a text that is worked on, the pattern space,
of which there is one for each line, and on another that is kept, the hold space.  A block is an
instruction that goes on behind its end where it does not apply, so that labels can stand inside of
blocks.
-/
import ScriptDeps.Shell.Regex

namespace ScriptDeps.Shell.Edit

/-- An expression that is looked for, or the one that was looked for last. -/
abbrev Search := Option Matcher

/-- Which lines an instruction is for. -/
inductive Address where
  | line (number : Nat)
  /-- Every so many lines from one on. -/
  | every (first step : Nat)
  | last
  | found (search : Search)

/-- Where a range of lines ends. -/
inductive Finish where
  | address (a : Address)
  /-- So many lines behind the first one. -/
  | behind (count : Nat)
  /-- At the next line with a number that this one divides. -/
  | multiple (number : Nat)

/-- The lines that an instruction is for: all, those of an address, or those of ranges. -/
structure Selection where
  first : Option Address
  finish : Option Finish
  /-- It is for the other lines. -/
  turned : Bool

/-- What becomes of letters. -/
inductive Casing where
  | same
  | lower
  | upper
  deriving DecidableEq

namespace Casing

def char (c : Char) : Casing → Char
  | .same => c
  | .lower => Wide.lower c
  | .upper => Wide.upper c

/-- A text with its letters changed, the first one in a way of its own if there is one. -/
def text (rest : Casing) (first : Option Casing) : Bytes → Bytes
  | [] => []
  | c :: s => (first.getD rest).char c :: s.map rest.char

end Casing

/-- A part of a replacement: a text and what a group has matched, with what becomes of their
letters. -/
structure Part where
  text : Bytes
  group : Option Nat
  casing : Casing
  first : Option Casing

/-- A substitution: what is looked for, what is put into its place, and what is done with the
result. -/
structure Substitution where
  search : Search
  parts : List Part
  /-- The first match that is replaced. -/
  start : Nat
  /-- All matches behind it are replaced, too. -/
  isGlobal : Bool
  /-- The text is printed, before it is run. -/
  printsFirst : Bool
  prints : Bool
  /-- The text is run as a command. -/
  runs : Bool
  file : Option Bytes

/-- When a jump is made. -/
inductive Jump where
  | always
  /-- Something has been replaced in this line since the last jump of this kind. -/
  | replaced
  | unreplaced
  deriving DecidableEq

/-- What an instruction does. -/
inductive Action where
  /-- The start of a block that ends in front of an instruction. -/
  | block (stop : Nat)
  | nothing
  | append (text : Bytes)
  | insert (text : Bytes)
  | change (text : Bytes)
  | jump (kind : Jump) (label : Bytes)
  | substitute (s : Substitution)
  | exchange (pairs : List (Char × Char))
  | delete
  | deleteLine
  | printName
  | fetch
  | fetchMore
  | keep
  | keepMore
  | list (width : Option Nat)
  | next
  | nextMore
  | print
  | printLine
  | printNumber
  | quit (prints : Bool) (status : Nat)
  | readFile (name : Bytes)
  | readLine (name : Bytes)
  | run (command : Bytes)
  | swap
  | writeFile (name : Bytes)
  | writeLine (name : Bytes)
  | empty

structure Instruction where
  selection : Selection
  action : Action

structure Script where
  instructions : Array Instruction
  labels : List (Bytes × Nat)
  /-- Lines are not printed of themselves. -/
  isQuiet : Bool

namespace Script

/-- The names of the files that are written to. -/
def written (s : Script) : List Bytes :=
  (s.instructions.toList.filterMap fun i =>
    match i.action with
    | .writeFile name | .writeLine name => some name
    | .substitute { file := some name, .. } => some name
    | _ => none).eraseDups

end Script

end ScriptDeps.Shell.Edit
