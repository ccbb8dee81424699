/-
Taking texts apart at a character, and putting them together again.

`splitOn` gives the pieces between the separators, so there is always one piece more
than there are separators; `joinWith` is its inverse.
-/
namespace ScriptDeps.Text

/-- The pieces of a text between the occurrences of `sep`; never empty. -/
def splitOn (sep : Char) : List Char → List (List Char)
  | [] => [[]]
  | c :: s =>
    if c == sep then [] :: splitOn sep s
    else
      match splitOn sep s with
      | [] => [[c]]
      | piece :: pieces => (c :: piece) :: pieces

/-- The pieces in order, with `sep` between each two. -/
def joinWith (sep : Char) : List (List Char) → List Char
  | [] => []
  | [piece] => piece
  | piece :: pieces => piece ++ sep :: joinWith sep pieces

/-- The text before the first `sep` and the text after it, if there is one. -/
def cutAt? (sep : Char) : List Char → Option (List Char × List Char)
  | [] => none
  | c :: s =>
    if c == sep then some ([], s)
    else (cutAt? sep s).map fun (before, after) => (c :: before, after)

/-- What follows a separator is shorter than the whole. -/
theorem length_lt_of_cutAt? {sep : Char} {s a b : List Char} (h : cutAt? sep s = some (a, b)) :
    b.length < s.length := by
  induction s generalizing a with
  | nil => simp [cutAt?] at h
  | cons c s ih =>
    rw [cutAt?] at h
    split at h
    · simp only [Option.some.injEq, Prod.mk.injEq] at h
      simp [← h.2]
    · obtain ⟨⟨a', b'⟩, hcut, heq⟩ := Option.map_eq_some_iff.1 h
      simp only [Prod.mk.injEq] at heq
      obtain ⟨-, rfl⟩ := heq
      exact Nat.lt_succ_of_lt (ih hcut)

/-- The text before the first `sep`, or all of it. -/
def before (sep : Char) (s : List Char) : List Char :=
  s.takeWhile (· != sep)

/-- The text after the last `sep`, or all of it. -/
def afterLast (sep : Char) (s : List Char) : List Char :=
  (s.reverse.takeWhile (· != sep)).reverse

/-- The rest of a text after `start`, if it begins so. -/
def dropStart? (start s : List Char) : Option (List Char) :=
  if start.isPrefixOf s then some (s.drop start.length) else none

/-- Nothing is longer for having lost its start. -/
theorem length_le_of_dropStart? {start s rest : List Char} (h : dropStart? start s = some rest) :
    rest.length ≤ s.length := by
  rw [dropStart?] at h
  split at h
  · simp only [Option.some.injEq] at h
    simp [← h]
  · simp at h

/-- The rest of a text after the first occurrence of `needle`. -/
def afterFirst? (needle : List Char) : List Char → Option (List Char)
  | [] => if needle.isEmpty then some [] else none
  | c :: s =>
    match dropStart? needle (c :: s) with
    | some rest => some rest
    | none => afterFirst? needle s

end ScriptDeps.Text
