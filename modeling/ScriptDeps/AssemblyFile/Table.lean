/-
The tables of metadata.

A row is a list of columns, each a number of fixed width or a reference, whose width depends
on how much there is to refer to: to a heap, to a table, or to one of several tables, which
low bits of the reference tell apart.
-/
import ScriptDeps.AssemblyFile.Metadata

namespace ScriptDeps.AssemblyFile

/-- A column of a table. -/
inductive Column where
  | fixed (width : Nat)
  | text
  | identifier
  | blob
  | row (table : Nat)
  /-- A row of one of some tables, which so many bits tell apart. -/
  | oneOf (bits : Nat) (tables : List Nat)
  deriving DecidableEq, Repr

namespace Column

def typeDefOrRef : Column :=
  .oneOf 2 [0x02, 0x01, 0x1b]

def hasConstant : Column :=
  .oneOf 2 [0x04, 0x08, 0x17]

def hasAttribute : Column :=
  .oneOf 5 [0x06, 0x04, 0x01, 0x02, 0x08, 0x09, 0x0a, 0x00, 0x0e, 0x17, 0x14, 0x11, 0x1a, 0x1b,
    0x20, 0x23, 0x26, 0x27, 0x28, 0x2a, 0x2c, 0x2b]

def hasMarshal : Column :=
  .oneOf 1 [0x04, 0x08]

def hasSecurity : Column :=
  .oneOf 2 [0x02, 0x06, 0x20]

def memberParent : Column :=
  .oneOf 3 [0x02, 0x01, 0x1a, 0x06, 0x1b]

def hasSemantics : Column :=
  .oneOf 1 [0x14, 0x17]

def methodDefOrRef : Column :=
  .oneOf 1 [0x06, 0x0a]

def memberForwarded : Column :=
  .oneOf 1 [0x04, 0x06]

def attributeType : Column :=
  .oneOf 3 [0x06, 0x0a]

def resolutionScope : Column :=
  .oneOf 2 [0x00, 0x1a, 0x23, 0x01]

end Column

/-- The number of the table of modules. -/
def moduleTable : Nat :=
  0x00

/-- The number of the table of types. -/
def typeTable : Nat :=
  0x02

/-- The number of the assembly table. -/
def assemblyTable : Nat :=
  0x20

/-- The columns of the tables up to the one of assemblies. -/
def columns? : Nat → Option (List Column)
  | 0x00 => some [.fixed 2, .text, .identifier, .identifier, .identifier]
  | 0x01 => some [.resolutionScope, .text, .text]
  | 0x02 => some [.fixed 4, .text, .text, .typeDefOrRef, .row 0x04, .row 0x06]
  | 0x03 => some [.row 0x04]
  | 0x04 => some [.fixed 2, .text, .blob]
  | 0x05 => some [.row 0x06]
  | 0x06 => some [.fixed 4, .fixed 2, .fixed 2, .text, .blob, .row 0x08]
  | 0x07 => some [.row 0x08]
  | 0x08 => some [.fixed 2, .fixed 2, .text]
  | 0x09 => some [.row 0x02, .typeDefOrRef]
  | 0x0a => some [.memberParent, .text, .blob]
  | 0x0b => some [.fixed 2, .hasConstant, .blob]
  | 0x0c => some [.hasAttribute, .attributeType, .blob]
  | 0x0d => some [.hasMarshal, .blob]
  | 0x0e => some [.fixed 2, .hasSecurity, .blob]
  | 0x0f => some [.fixed 2, .fixed 4, .row 0x02]
  | 0x10 => some [.fixed 4, .row 0x04]
  | 0x11 => some [.blob]
  | 0x12 => some [.row 0x02, .row 0x14]
  | 0x13 => some [.row 0x14]
  | 0x14 => some [.fixed 2, .text, .typeDefOrRef]
  | 0x15 => some [.row 0x02, .row 0x17]
  | 0x16 => some [.row 0x17]
  | 0x17 => some [.fixed 2, .text, .blob]
  | 0x18 => some [.fixed 2, .row 0x06, .hasSemantics]
  | 0x19 => some [.row 0x02, .methodDefOrRef, .methodDefOrRef]
  | 0x1a => some [.text]
  | 0x1b => some [.blob]
  | 0x1c => some [.fixed 2, .memberForwarded, .text, .row 0x1a]
  | 0x1d => some [.fixed 4, .row 0x04]
  | 0x1e => some [.fixed 4, .fixed 4]
  | 0x1f => some [.fixed 4]
  | 0x20 => some [.fixed 4, .fixed 2, .fixed 2, .fixed 2, .fixed 2, .fixed 4, .blob, .text, .text]
  | 0x21 => some [.fixed 4]
  | 0x22 => some [.fixed 4, .fixed 4, .fixed 4]
  | 0x23 => some [.fixed 2, .fixed 2, .fixed 2, .fixed 2, .fixed 4, .blob, .text, .text, .blob]
  | 0x24 => some [.fixed 4, .row 0x23]
  | 0x25 => some [.fixed 4, .fixed 4, .fixed 4, .row 0x23]
  | 0x26 => some [.fixed 4, .text, .blob]
  | 0x27 => some [.fixed 4, .fixed 4, .text, .text, .oneOf 2 [0x26, 0x23, 0x27]]
  | 0x28 => some [.fixed 4, .fixed 4, .text, .oneOf 2 [0x26, 0x23, 0x27]]
  | 0x29 => some [.row 0x02, .row 0x02]
  | 0x2a => some [.fixed 2, .fixed 2, .oneOf 1 [0x02, 0x06], .text]
  | 0x2b => some [.methodDefOrRef, .blob]
  | 0x2c => some [.row 0x2a, .typeDefOrRef]
  | _ => none

/-- The tables of metadata: how many rows each has, and how wide references to heaps are. -/
structure Tables where
  counts : List (Nat × Nat)
  textWidth : Nat
  identifierWidth : Nat
  blobWidth : Nat
  /-- Where the first row of the first table stands. -/
  start : Nat

namespace Tables

/-- How many rows a table has. -/
def count (t : Tables) (table : Nat) : Nat :=
  (t.counts.lookup table).getD 0

/-- The length of a column. -/
def width (t : Tables) : Column → Nat
  | .fixed width => width
  | .text => t.textWidth
  | .identifier => t.identifierWidth
  | .blob => t.blobWidth
  | .row table => if t.count table < 1 <<< 16 then 2 else 4
  | .oneOf bits tables =>
    if tables.all fun table => t.count table < 1 <<< (16 - bits) then 2 else 4

/-- The length of a row of a table. -/
def rowSize? (t : Tables) (table : Nat) : Option Nat :=
  (columns? table).map fun columns => (columns.map t.width).foldr (· + ·) 0

/-- The numbers of the bits that are set. -/
def bitsOf (flags : Nat) : List Nat :=
  (List.range 64).filter flags.testBit

/-- The tables of a stream.  All their rows lie within it. -/
def at? (b : ByteArray) (place : Span) : Option Tables := do
  let flags ← number? b (place.start + 6) 1
  let present := bitsOf (← number? b (place.start + 8) 8)
  let counts ← present.zipIdx.mapM fun (table, i) => do
    some (table, ← number? b (place.start + 24 + 4 * i) 4)
  let width := fun bit => if flags.testBit bit then 4 else 2
  let t : Tables := ⟨counts, width 0, width 1, width 2, place.start + 24 + 4 * present.length⟩
  let sizes ← counts.mapM fun (table, count) => do some (count * (← t.rowSize? table))
  guard (sizes.foldr (· + ·) t.start ≤ place.stop)
  some t

/-- The numbers in the columns at an offset. -/
def cells? (t : Tables) (b : ByteArray) : Nat → List Column → Option (List Nat)
  | _, [] => some []
  | start, c :: columns => do
    let n ← number? b start (t.width c)
    some (n :: (← t.cells? b (start + t.width c) columns))

/-- The rows of a table. -/
def rows? (t : Tables) (b : ByteArray) (table : Nat) : Option (List (List Nat)) := do
  let before ← (t.counts.filter (·.1 < table)).mapM fun (table, count) => do
    some (count * (← t.rowSize? table))
  let start := before.foldr (· + ·) t.start
  let size ← t.rowSize? table
  let columns ← columns? table
  (List.range (t.count table)).mapM fun i => t.cells? b (start + i * size) columns

end Tables

end ScriptDeps.AssemblyFile
