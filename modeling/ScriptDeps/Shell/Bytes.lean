/-
The bytes that scripts work on.

They are kept as characters below 256, each for the byte with its number.
-/
import ScriptDeps.Path

namespace ScriptDeps.Shell

/-- Bytes, each as the character with its number. -/
abbrev Bytes := List Char

namespace Bytes

/-- The bytes of a text. -/
def ofText (s : String) : Bytes :=
  s.toUTF8.toList.map fun b => Char.ofNat b.toNat

/-- The bytes of the content of a file. -/
def ofContent (b : ByteArray) : Bytes :=
  b.toList.map fun b => Char.ofNat b.toNat

/-- The bytes as numbers. -/
def numbers (b : Bytes) : List UInt8 :=
  b.map fun c => UInt8.ofNat c.toNat

/-- The bytes as the content of a file. -/
def content (b : Bytes) : ByteArray :=
  ⟨b.numbers.toArray⟩

/-- The text that the bytes stand for; bytes that are no text give an empty one. -/
def text (b : Bytes) : String :=
  (String.fromUTF8? b.content).getD ""

/-- The path that the bytes name. -/
def path (b : Bytes) : Path :=
  ⟨b.text⟩

/-- A number in decimal digits. -/
def ofNat (n : Nat) : Bytes :=
  (toString n).toList

def ofInt (n : Int) : Bytes :=
  (toString n).toList

/-- A whole number without a sign. -/
def natural? (b : Bytes) : Option Nat :=
  if !b.isEmpty && b.all Char.isDigit then some (b.foldl (fun n c => 10 * n + (c.toNat - 48)) 0)
  else none

/-- A space, a tab or a line end. -/
def isBlank (c : Char) : Bool :=
  c == ' ' || c == '\t' || c == '\n'

/-- A character that the C library takes for white space. -/
def isSpace (c : Char) : Bool :=
  isBlank c || c == '\r' || c == '\x0b' || c == '\x0c'

/-- The texts with one between each two. -/
def joinedBy (middle : Bytes) : List Bytes → Bytes
  | [] => []
  | [a] => a
  | a :: rest => a ++ middle ++ joinedBy middle rest

/-- The texts with a space between each two. -/
def joined (bs : List Bytes) : Bytes :=
  joinedBy [' '] bs

/-- The lines of some bytes, each with its line end if it has one. -/
def lines (s : Bytes) : List Bytes :=
  let pieces := Text.splitOn '\n' s
  let whole := pieces.dropLast.map (· ++ ['\n'])
  whole ++ (pieces.getLast?.toList.filter (!·.isEmpty))

/-- The bytes come before others in the order of their numbers. -/
def isBefore (a b : Bytes) : Bool :=
  a.map Char.toNat < b.map Char.toNat

/-! ### Names of variables -/

def isNameStart (c : Char) : Bool :=
  c.isAlpha || c == '_'

def isNameChar (c : Char) : Bool :=
  c.isAlphanum || c == '_'

/-- The bytes are a name that a variable can have. -/
def isName (b : Bytes) : Bool :=
  b.head?.any isNameStart && b.all isNameChar

end Bytes

end ScriptDeps.Shell
