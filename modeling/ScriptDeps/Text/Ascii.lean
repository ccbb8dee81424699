/-
Texts that differ only in the case of ASCII letters.

Package ids, version texts and attribute names are compared in this way: `Moq` and
`moq` are one id, while `É` and `é` stay apart.
-/
namespace ScriptDeps.Text

/-- The text with its ASCII capitals made small. -/
def asciiLower (s : String) : String :=
  String.ofList (s.toList.map Char.toLower)

/-- The texts agree once ASCII capitals are made small. -/
def sameIgnoringCase (a b : String) : Bool :=
  asciiLower a == asciiLower b

/-- A letter or a digit of ASCII. -/
def isAsciiAlnum (c : Char) : Bool :=
  c.isAlphanum

/-- The rest of a text after `word`, whose ASCII letters may be of either case. -/
def dropWord? : List Char → List Char → Option (List Char)
  | [], s => some s
  | _ :: _, [] => none
  | w :: ws, c :: s => if c.toLower == w.toLower then dropWord? ws s else none

end ScriptDeps.Text
