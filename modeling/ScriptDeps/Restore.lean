/-
Restoring the packages of a manifest.

A restorer is a way to restore: it can tell whether it works on this machine, and it does
the work.  Restorers are put together: `firstAvailable` hands on to the first of several
that works, and `cached` leaves the work out where it was done for the same manifest
before.

What restorers act on is the machine: its files, its variables, and a record of which
candidate was called with what.  A restore that fails leaves the changes made so far.
-/
import ScriptDeps.Layout
import ScriptDeps.Manifest.Saved

namespace ScriptDeps

/-- A call of a candidate, by its place in the list of candidates. -/
structure Call where
  candidate : Nat
  manifest : Path
  sources : List String
  deriving DecidableEq, Repr

/-- What restorers act on. -/
structure Machine where
  store : Store
  /-- The variables that programs started on the machine can see. -/
  vars : List (String × String)
  /-- The calls of candidates, the oldest first. -/
  calls : List Call

/-- Work on a machine that may fail. -/
abbrev Job (α : Type) := ExceptT Failure (StateM Machine) α

namespace Job

/-- The store of the machine. -/
def store : Job Store :=
  return (← get).store

/-- Changes the store, and fails if the change did; what was changed until then stays. -/
def change (f : Store → Store × Except Fault Unit) : Job Unit := do
  let m ← get
  let (store, result) := f m.store
  set { m with store }
  match result with
  | .ok () => return ()
  | .error fault => throw (.io fault)

end Job

/-- What a restore did. -/
inductive Outcome where
  /-- A restorer did the work. -/
  | restored
  /-- The manifest was the one restored last. -/
  | cacheHit
  deriving DecidableEq, Repr

/-- A way to restore. -/
structure Restorer where
  /-- Whether the restorer works on the machine. -/
  canRestore : StateM Machine Bool
  /-- Restores the manifest at a path with additional package sources. -/
  restore : Path → List String → Job Outcome

namespace Restorer

/-! ### The first available candidate -/

/-- The first candidate that works, with its place; `place` is that of the first one. -/
def pick (place : Nat) : List Restorer → StateM Machine (Option (Nat × Restorer))
  | [] => return none
  | r :: rest => do
    if ← r.canRestore then return some (place, r)
    else pick (place + 1) rest

/-- Restores with the first candidate that works, and notes the call. -/
def restoreWithFirst (candidates : List Restorer) (manifest : Path) (sources : List String) :
    Job Outcome := do
  match ← pick 0 candidates with
  | none =>
    throw (.noRestorer ("none of " ++ toString candidates.length ++
      " candidate(s) can restore " ++ manifest.text))
  | some (place, r) =>
    modify fun m => { m with calls := m.calls ++ [⟨place, manifest, sources⟩] }
    r.restore manifest sources

/-- The restorer that hands on to the first candidate that works. -/
def firstAvailable (candidates : List Restorer) : Restorer where
  canRestore := return (← pick 0 candidates).isSome
  restore := restoreWithFirst candidates

/-! ### The cache -/

/-- The copy at the path is of the same manifest. -/
def isHit (s : Store) (m : Manifest) (copy : Path) : Bool :=
  s.exists? copy &&
    match Manifest.load s copy with
    | .ok old => old.same m
    | .error _ => false

/-- Keeps a copy of a restored manifest, or removes an older copy if the manifest may not be
kept: that one would match again once the versions are pinned. -/
def remember (m : Manifest) (copy : Path) : Job Unit := do
  if m.isCacheable then Job.change fun s => m.save s copy
  else if (← Job.store).exists? copy then
    Job.change fun s =>
      match s.removeFile copy with
      | .ok s' => (s', .ok ())
      | .error fault => (s, .error fault)
  else return ()

/-- Restores unless the manifest is the same as its copy. -/
def restoreUnlessHit (inner : Restorer) (manifest : Path) (sources : List String) :
    Job Outcome := do
  let m ← Manifest.load (← Job.store) manifest
  let copy := Layout.cacheOf manifest
  if isHit (← Job.store) m copy then return .cacheHit
  else
    let outcome ← inner.restore manifest sources
    remember m copy
    return outcome

/-- The restorer that leaves out what was done before. -/
def cached (inner : Restorer) : Restorer where
  canRestore := inner.canRestore
  restore := restoreUnlessHit inner

end Restorer

end ScriptDeps
