/-
Texts as a script has to write them.

What means something to a shell is put into quotes, or stands behind a backslash.  Characters that
cannot be shown are called by their names in quotes behind a dollar sign.
-/
import ScriptDeps.Shell.Wide

namespace ScriptDeps.Shell.Quoting

/-- The character is shown as it is. -/
def isShown (c : Char) : Bool :=
  !Wide.isStray c && 32 ≤ c.toNat && !(127 ≤ c.toNat && c.toNat < 160)

/-- All characters of the bytes are shown as they are. -/
def areShown (b : Bytes) : Bool :=
  (Wide.ofBytes b).all isShown

/-- A byte as it is written behind a backslash. -/
def escapedByte (c : Char) : Bytes :=
  match c with
  | '\x07' => ['\\', 'a']
  | '\x08' => ['\\', 'b']
  | '\x0c' => ['\\', 'f']
  | '\n' => ['\\', 'n']
  | '\r' => ['\\', 'r']
  | '\t' => ['\\', 't']
  | '\x0b' => ['\\', 'v']
  | c => '\\' :: ([64, 8, 1].map fun k => Char.ofNat ('0'.toNat + c.toNat / k % 8))

/-- A text in quotes behind a dollar sign. -/
def named (b : Bytes) : Bytes :=
  let inner := (Wide.ofBytes b).flatMap fun c =>
    if isShown c then
      if c == '\x27' || c == '\\' then ['\\', c] else Wide.bytesOf c
    else if c == '\x1b' then ['\\', 'E']
    else (Wide.bytesOf c).flatMap escapedByte
  "$'".toList ++ inner ++ ['\x27']

/-- The character means something to a shell where it stands behind another one, or first. -/
def isSpecial (before : Option Char) (c : Char) : Bool :=
  " \t\n'\"\\|&;()<>!\x7b\x7d*[]?^$\x60".toList.contains c ||
    (c == '~' && (before.isNone || before == some '=' || before == some ':')) ||
    (c == '#' && before.all fun b => b == ' ' || b == '\t')

/-- Each character with the one before it. -/
def withBefore (b : Bytes) : List (Option Char × Char) :=
  (none :: b.map some).zip b

/-- Some character means something to a shell. -/
def needsQuotes (b : Bytes) : Bool :=
  (withBefore b).any fun (before, c) => isSpecial before c

/-- A text in single quotes. -/
def single (b : Bytes) : Bytes :=
  '\x27' :: (b.flatMap fun c => if c == '\x27' then "'\\''".toList else [c]) ++ ['\x27']

/-- A text in double quotes. -/
def double (b : Bytes) : Bytes :=
  '"' :: (b.flatMap fun c => if "\"$\x60\\".toList.contains c then ['\\', c] else [c]) ++ ['"']

/-- A text as a script can read it again. -/
def reusable (b : Bytes) : Bytes :=
  if areShown b then if b == ['\x27'] then "\\'".toList else single b else named b

/-- The value of a variable where it is declared. -/
def declared (b : Bytes) : Bytes :=
  if areShown b then double b else named b

/-- A text in quotes if it needs any. -/
def ifNeeded (b : Bytes) : Bytes :=
  if !areShown b then named b
  else if needsQuotes b then if b == ['\x27'] then "\\'".toList else single b
  else b

/-- A word of a command that is traced. -/
def traced (b : Bytes) : Bytes :=
  if b.isEmpty then "''".toList else ifNeeded b

/-- A text with a backslash in front of each character that means something to a shell. -/
def marked (b : Bytes) : Bytes :=
  if b.isEmpty then "''".toList
  else if areShown b then
    (withBefore b).flatMap fun (before, c) =>
      if isSpecial before c || c == ',' then
        if c == '#' && before.isSome then [c] else ['\\', c]
      else [c]
  else named b

end ScriptDeps.Shell.Quoting
