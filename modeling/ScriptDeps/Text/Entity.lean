/-
Texts inside quotes of a markup file.

The five characters that the markup gives a meaning to are written as entities, and all
others as they stand.  `encode` therefore yields no angle bracket and no quote, and every
ampersand in it begins an entity; `decode` reads it back.
-/
namespace ScriptDeps.Text.Entity

/-- How a character is written inside quotes. -/
def encodeChar : Char → List Char
  | '&' => ['&', 'a', 'm', 'p', ';']
  | '<' => ['&', 'l', 't', ';']
  | '>' => ['&', 'g', 't', ';']
  | '"' => ['&', 'q', 'u', 'o', 't', ';']
  | '\x27' => ['&', 'a', 'p', 'o', 's', ';']
  | c => [c]

/-- The text as it is written inside quotes. -/
def encode (s : List Char) : List Char :=
  s.flatMap encodeChar

/-- The text that a written one stands for; an ampersand of no entity stands for itself. -/
def decode : List Char → List Char
  | [] => []
  | '&' :: 'a' :: 'm' :: 'p' :: ';' :: s => '&' :: decode s
  | '&' :: 'l' :: 't' :: ';' :: s => '<' :: decode s
  | '&' :: 'g' :: 't' :: ';' :: s => '>' :: decode s
  | '&' :: 'q' :: 'u' :: 'o' :: 't' :: ';' :: s => '"' :: decode s
  | '&' :: 'a' :: 'p' :: 'o' :: 's' :: ';' :: s => '\x27' :: decode s
  | c :: s => c :: decode s

end ScriptDeps.Text.Entity
