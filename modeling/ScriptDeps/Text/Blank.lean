/-
Blank characters, and texts without them at their ends.

A blank is a character with the Unicode property White_Space: the tabs and line ends
of ASCII, the space, the no-break space and the wide spaces.  The zero-width space is
none.  Names, versions and paths that a script mentions are taken without the blanks
around them; `trim` is that step, and it is a projection: a trimmed text is its own
trim.
-/
namespace ScriptDeps.Text

/-- A character of the property White_Space. -/
def isBlank (c : Char) : Bool :=
  let n := c.toNat
  (9 ≤ n && n ≤ 13) || n == 0x20 || n == 0x85 || n == 0xa0 || n == 0x1680 ||
    (0x2000 ≤ n && n ≤ 0x200a) || n == 0x2028 || n == 0x2029 || n == 0x202f ||
    n == 0x205f || n == 0x3000

/-- The text from its first character that is no blank. -/
def trimStart (s : List Char) : List Char :=
  s.dropWhile isBlank

/-- Nothing is longer for having lost its blanks. -/
theorem length_trimStart_le (s : List Char) : (trimStart s).length ≤ s.length :=
  (List.dropWhile_suffix _).length_le

/-- The text up to its last character that is no blank. -/
def trimEnd (s : List Char) : List Char :=
  (s.reverse.dropWhile isBlank).reverse

/-- The text without the blanks at either end. -/
def trimChars (s : List Char) : List Char :=
  trimEnd (trimStart s)

@[inherit_doc trimChars]
def trim (s : String) : String :=
  String.ofList (trimChars s.toList)

end ScriptDeps.Text
