/-
Sets as lists without repetition.

When two items are the same is a parameter.  A set keeps the first of the items that are
the same, and its items stay in the order in which they came: `insertNew` adds an item at
the end, and only if the set has none such.
-/
namespace ScriptDeps

/-- The set with `x` added at its end, unless it has one that is the same. -/
def insertNew (same : α → α → Bool) (set : List α) (x : α) : List α :=
  if set.any (same x) then set else set ++ [x]

/-- The set with all of `xs` added in order. -/
def insertAll (same : α → α → Bool) (set xs : List α) : List α :=
  xs.foldl (insertNew same) set

/-- Both sets have the same members, in whatever order. -/
def sameMembers (same : α → α → Bool) (a b : List α) : Bool :=
  a.all (fun x => b.any (same x)) && b.all (fun x => a.any (same x))

end ScriptDeps
