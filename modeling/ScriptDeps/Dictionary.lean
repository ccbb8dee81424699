/-
Dictionaries in the order of their keys.

A dictionary is a list of entries with rising keys.  Entering a key a second time replaces
its value, so what a list of entries gives is independent of their order as long as no two
have the same key.
-/
namespace ScriptDeps

/-- Entries with rising keys. -/
abbrev Dictionary (α : Type) := List (String × α)

namespace Dictionary

/-- The dictionary with `value` at `key`. -/
def insert (key : String) (value : α) : Dictionary α → Dictionary α
  | [] => [(key, value)]
  | (k, v) :: rest =>
    if key < k then (key, value) :: (k, v) :: rest
    else if key = k then (key, value) :: rest
    else (k, v) :: insert key value rest

/-- The entries in order, later ones replacing earlier ones of the same key. -/
def ofEntries (entries : List (String × α)) : Dictionary α :=
  entries.foldl (fun d (key, value) => d.insert key value) []

def get? (d : Dictionary α) (key : String) : Option α :=
  List.lookup key d

def keys (d : Dictionary α) : List String :=
  d.map Prod.fst

end Dictionary

end ScriptDeps
