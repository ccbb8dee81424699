/-
Versions of packages and assemblies.

A version is one to four numbers, perhaps a prerelease label, perhaps metadata:

    major[.minor[.patch[.revision]]][-label[.label ...]][+metadata]

Versions are ordered by their four numbers, missing ones being zero.  A release comes
after every prerelease of its numbers; two prereleases are compared label by label,
numbers before words, numbers by value and words by their lowercase form, and a longer
list of equal labels comes after a shorter one.  Metadata has no part in the order.

`Version.compareTexts` orders all texts: a text that is no version comes before every
one that is, and two such texts are ordered as texts.  `Version.highest` takes from a
list the first item that no other exceeds.
-/
import ScriptDeps.Failure
import ScriptDeps.Text.Blank
import ScriptDeps.Text.Lowercase
import ScriptDeps.Text.Number
import ScriptDeps.Text.Split

namespace ScriptDeps

/-- A version, with the text it was read from. -/
structure Version where
  major : Nat
  minor : Nat
  patch : Nat
  revision : Nat
  /-- The labels of a prerelease; a release has none. -/
  labels : List String
  text : String
  deriving DecidableEq, Repr

namespace Version

/-- A label of a prerelease, as the order sees it. -/
inductive Label where
  | number (value : Nat)
  | word (text : String)
  deriving DecidableEq, Repr

/-- A label is a number if it reads as one, and else a word without its case. -/
def Label.ofText (s : String) : Label :=
  match Text.readNumber? Text.wordBound s.toList with
  | some n => .number n
  | none => .word (Text.lowercase s)

/-- Numbers come before words. -/
def Label.compare : Label → Label → Ordering
  | .number a, .number b => Ord.compare a b
  | .number _, .word _ => .lt
  | .word _, .number _ => .gt
  | .word a, .word b => Ord.compare a b

/-! ### Reading -/

/-- The numbers of a version, filled up with zeros. -/
def ofNumbers? (text : String) (labels : List String) : List Nat → Option Version
  | [a] => some ⟨a, 0, 0, 0, labels, text⟩
  | [a, b] => some ⟨a, b, 0, 0, labels, text⟩
  | [a, b, c] => some ⟨a, b, c, 0, labels, text⟩
  | [a, b, c, d] => some ⟨a, b, c, d, labels, text⟩
  | _ => none

/-- The labels of a prerelease, none of which is empty. -/
def readLabels? (s : List Char) : Option (List String) :=
  let pieces := Text.splitOn '.' s
  if pieces.any List.isEmpty then none else some (pieces.map String.ofList)

/-- The numbers of a version. -/
def readNumbers? (s : List Char) : Option (List Nat) :=
  (Text.splitOn '.' s).mapM (Text.readNumber? Text.wordBound)

/-- The version a text without blanks around it stands for. -/
def ofTrimmed? (s : List Char) : Option Version :=
  let core := Text.before '+' s
  match Text.cutAt? '-' core with
  | none => do
    ofNumbers? (String.ofList s) [] (← readNumbers? core)
  | some (numbers, label) => do
    let labels ← readLabels? label
    ofNumbers? (String.ofList s) labels (← readNumbers? numbers)

/-- The version a text stands for, without regard to the blanks around it. -/
def ofText? (s : String) : Option Version :=
  ofTrimmed? (Text.trimChars s.toList)

/-- Like `ofText?`, with the cause of a refusal. -/
def parse (s : String) : Except Failure Version :=
  match ofText? s with
  | some v => .ok v
  | none => .error (.malformed (.version (Text.trim s)))

/-- Whether the version is a prerelease. -/
def isPrerelease (v : Version) : Bool :=
  !v.labels.isEmpty

/-! ### Order -/

/-- The order of the numbers. -/
def compareRelease (a b : Version) : Ordering :=
  (Ord.compare a.major b.major).then <|
  (Ord.compare a.minor b.minor).then <|
  (Ord.compare a.patch b.patch).then <|
  Ord.compare a.revision b.revision

/-- The order of two lists of labels of prereleases. -/
def compareLabels : List String → List String → Ordering
  | [], [] => .eq
  | [], _ :: _ => .lt
  | _ :: _, [] => .gt
  | a :: as, b :: bs => ((Label.ofText a).compare (Label.ofText b)).then (compareLabels as bs)

/-- The order of prereleases, where no labels at all come last. -/
def comparePrerelease : List String → List String → Ordering
  | [], [] => .eq
  | [], _ :: _ => .gt
  | _ :: _, [] => .lt
  | as, bs => compareLabels as bs

/-- The order of versions. -/
def compare (a b : Version) : Ordering :=
  (a.compareRelease b).then (comparePrerelease a.labels b.labels)

/-- The order of all texts, those that are no versions first. -/
def compareTexts (a b : String) : Ordering :=
  match ofText? a, ofText? b with
  | some v, some w => v.compare w
  | some _, none => .gt
  | none, some _ => .lt
  | none, none => Ord.compare a b

/-- The first item whose version no other item of the list exceeds. -/
def highest {α : Type} (versionOf : α → String) : List α → Option α
  | [] => none
  | first :: rest =>
    some <| rest.foldl
      (fun best x => if compareTexts (versionOf x) (versionOf best) == .gt then x else best) first

end Version

end ScriptDeps
