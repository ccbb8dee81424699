/-
JSON values.

A value keeps the order of the members of an object, and members of the same name.  A
number keeps its text.  A string is absent when its escapes give half of a surrogate
pair: such a string is no text, and does no harm where a value is passed over.
-/
namespace ScriptDeps

/-- A JSON value. -/
inductive Json where
  | null
  | bool (value : Bool)
  | number (text : String)
  | string (text : Option String)
  | array (items : List Json)
  | object (members : List (Option String × Json))
  deriving Inhabited

namespace Json

/-- A string value with this text. -/
def ofText (s : String) : Json :=
  .string (some s)

/-- The object with these members. -/
def ofMembers (members : List (String × Json)) : Json :=
  .object (members.map fun (key, value) => (some key, value))

/-! ### Views -/

def text? : Json → Option String
  | .string text => text
  | _ => none

/-- The text of a string, or nothing for a null. -/
def optionalText? : Json → Option (Option String)
  | .null => some none
  | j => j.text?.map some

def items? : Json → Option (List Json)
  | .array items => some items
  | _ => none

/-- The members of an object, all of whose names are texts. -/
def members? : Json → Option (List (String × Json))
  | .object members => members.mapM fun (key, value) => key.map fun key => (key, value)
  | _ => none

/-- The values of the given fields of a record, in their order.  An object may have other
members besides, but none of the fields twice; an array gives the first fields in order and
nothing else. -/
def fields? (names : List String) : Json → Option (List (Option Json))
  | .array items =>
    if items.length ≤ names.length then
      some (items.map some ++ List.replicate (names.length - items.length) none)
    else none
  | j => do
    let members ← j.members?
    if names.any fun name => 2 ≤ (members.filter (·.1 == name)).length then none
    else some (names.map fun name => members.lookup name)

/-- The value of a field, or `absent` where the record has no such field. -/
def orElse (absent : α) (read : Json → Option α) : Option Json → Option α
  | none => some absent
  | some j => read j

/-! ### Writing

Every item and every member stands on a line of its own, two spaces further in than the
bracket that opens it; empty arrays and objects take no line.  In strings the quote, the
backslash and the control characters are escaped, and nothing else. -/

/-- A hexadecimal digit in small letters. -/
def hexChar (n : Nat) : Char :=
  if n < 10 then Char.ofNat ('0'.toNat + n) else Char.ofNat ('a'.toNat + (n - 10))

/-- How a character is written in a string. -/
def quoteChar (c : Char) : List Char :=
  match c with
  | '"' => ['\\', '"']
  | '\\' => ['\\', '\\']
  | '\x08' => ['\\', 'b']
  | '\x0c' => ['\\', 'f']
  | '\n' => ['\\', 'n']
  | '\r' => ['\\', 'r']
  | '\t' => ['\\', 't']
  | c =>
    if c.toNat < 0x20 then
      ['\\', 'u', '0', '0', hexChar (c.toNat / 16), hexChar (c.toNat % 16)]
    else [c]

/-- A text in quotes. -/
def quote (s : String) : List Char :=
  '"' :: s.toList.flatMap quoteChar ++ ['"']

/-- A line end, and the spaces the next line begins with. -/
def newLine (depth : Nat) : List Char :=
  '\n' :: List.replicate (2 * depth) ' '

mutual

/-- The text of a value inside `depth` brackets. -/
def renderAt (depth : Nat) : Json → List Char
  | .null => "null".toList
  | .bool true => "true".toList
  | .bool false => "false".toList
  | .number text => text.toList
  | .string text => quote (text.getD "")
  | .array [] => ['[', ']']
  | .array (j :: rest) =>
    '[' :: newLine (depth + 1) ++ renderAt (depth + 1) j ++ renderItems (depth + 1) rest ++
      newLine depth ++ [']']
  | .object [] => ['\x7b', '\x7d']
  | .object ((key, j) :: rest) =>
    '\x7b' :: newLine (depth + 1) ++ quote (key.getD "") ++ ':' :: ' ' :: renderAt (depth + 1) j ++
      renderMembers (depth + 1) rest ++ newLine depth ++ ['\x7d']

/-- The texts of items, each with a comma in front. -/
def renderItems (depth : Nat) : List Json → List Char
  | [] => []
  | j :: rest => ',' :: newLine depth ++ renderAt depth j ++ renderItems depth rest

/-- The texts of members, each with a comma in front. -/
def renderMembers (depth : Nat) : List (Option String × Json) → List Char
  | [] => []
  | (key, j) :: rest =>
    ',' :: newLine depth ++ quote (key.getD "") ++ ':' :: ' ' :: renderAt depth j ++
      renderMembers depth rest

end

/-- The text of a value. -/
def render (j : Json) : String :=
  String.ofList (renderAt 0 j)

end Json

end ScriptDeps
