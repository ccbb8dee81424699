/-
The characters that bytes stand for.

Utilities that know of characters read bytes as UTF-8.  A byte that belongs to no character
is kept as one of the last characters there are, so that what was read can be written back as
it was.
-/
import ScriptDeps.Shell.Pattern
import ScriptDeps.Text.Lowercase
import ScriptDeps.Text.Class

namespace ScriptDeps.Shell.Wide

/-- The first of the characters that are kept for bytes. -/
def strayStart : Nat :=
  0x10ff80

/-- The character that a byte which belongs to none is kept as. -/
def stray (c : Char) : Char :=
  Char.ofNat (0x10ff00 + c.toNat)

/-- The character stands for a byte that belongs to none. -/
def isStray (c : Char) : Bool :=
  strayStart ≤ c.toNat

/-- The low bits of a byte that goes on with a character. -/
def tail? (c : Char) : Option Nat :=
  if 0x80 ≤ c.toNat && c.toNat < 0xc0 then some (c.toNat - 0x80) else none

/-- The number of a character, if that is no shorter one and none that is kept for bytes. -/
def numbered? (least n : Nat) : Option Char :=
  if least ≤ n && n < strayStart && !(0xd800 ≤ n && n < 0xe000) then some (Char.ofNat n) else none

/-- The character at the front behind its first byte, and the number of bytes it has there. -/
def sequence? (first : Char) (s : Bytes) : Option (Char × Nat) := do
  let n := first.toNat
  if n < 0x80 then some (first, 0)
  else if n < 0xc0 then none
  else
    let a ← (s[0]?).bind tail?
    if n < 0xe0 then some (← numbered? 0x80 ((n - 0xc0) * 64 + a), 1)
    else
      let b ← (s[1]?).bind tail?
      if n < 0xf0 then some (← numbered? 0x800 (((n - 0xe0) * 64 + a) * 64 + b), 2)
      else
        let c ← (s[2]?).bind tail?
        if n < 0xf8 then some (← numbered? 0x10000 ((((n - 0xf0) * 64 + a) * 64 + b) * 64 + c), 3)
        else none

/-- The characters of bytes. -/
def ofBytes : Bytes → Bytes
  | [] => []
  | c :: s =>
    match sequence? c s with
    | some (w, more) => w :: ofBytes (s.drop more)
    | none => stray c :: ofBytes s
termination_by s => s.length
decreasing_by all_goals grind

/-- The bytes of a character. -/
def bytesOf (c : Char) : Bytes :=
  let n := c.toNat
  let tail := fun (n : Nat) => Char.ofNat (0x80 + n % 64)
  if isStray c then [Char.ofNat (n - 0x10ff00)]
  else if n < 0x80 then [c]
  else if n < 0x800 then [Char.ofNat (0xc0 + n / 64), tail n]
  else if n < 0x10000 then [Char.ofNat (0xe0 + n / 4096), tail (n / 64), tail n]
  else [Char.ofNat (0xf0 + n / 262144), tail (n / 4096), tail (n / 64), tail n]

/-- The bytes of characters. -/
def toBytes (s : Bytes) : Bytes :=
  s.flatMap bytesOf

/-- The small letter of a character. -/
def lower (c : Char) : Char :=
  if c.toNat < 0x80 then c.toLower
  else if isStray c then c
  else (Text.lowerChar c).headD c

/-- The capital letter of a character, if the two are next to each other in the tables. -/
def upper (c : Char) : Char :=
  let n := c.toNat
  if n < 0x80 then c.toUpper
  else
    match Text.lowerRows.find? fun r => r.covers (n - r.shift).toNat && r.image (n - r.shift).toNat == n with
    | some r => Char.ofNat (n - r.shift).toNat
    | none => c

/-- A character beyond the first ones is of a class. -/
def isOfClass (k : ByteClass) (c : Char) : Bool :=
  !isStray c &&
    match k with
    | .letter | .letterOrDigit => Text.isWord c
    | .lower => Text.isWord c && lower c == c && upper c != c
    | .upper => Text.isWord c && lower c != c
    | .space | .blank => c.toNat == 0x2003 || c.toNat == 0x3000
    | .punctuation => !Text.isWord c && 0xa0 ≤ c.toNat
    | .control => c.toNat < 0xa0
    | .digit | .hexDigit => false
    | .visible | .printable => 0xa0 ≤ c.toNat

/-- The character is in the set. -/
def isIn (set : ByteSet) (c : Char) : Bool :=
  if c.toNat < 0x80 then set.contains c
  else
    match set with
    | .range .. => set.contains c
    | .kind k => isOfClass k c

end ScriptDeps.Shell.Wide
