/-
Manifests on disk.

A manifest is saved by writing it beside its place and then moving it there, so at every
moment its place holds a complete old text or the complete new one.
-/
import ScriptDeps.Manifest.Markup
import ScriptDeps.Store

namespace ScriptDeps.Manifest

/-- Where a manifest is written before it is moved to its place. -/
def draftPath (p : Path) : Path :=
  p.withFileName (p.fileName?.getD "" ++ ".tmp")

/-- The changes that write a manifest to a path, once the directories are there. -/
def saving (m : Manifest) (p : Path) : List Effect :=
  [.create (draftPath p), .fill (draftPath p) m.render.toUTF8, .move (draftPath p) p]

/-- All changes that save a manifest at a path. -/
def saveEffects (s : Store) (m : Manifest) (p : Path) : Except Fault (List Effect) := do
  let dirs ← match p.parent? with
    | some dir => s.ensureDirs dir
    | none => .ok []
  .ok (dirs ++ m.saving p)

/-- The store after saving a manifest at a path, as far as that succeeds. -/
def save (s : Store) (m : Manifest) (p : Path) : Store × Except Fault Unit :=
  match m.saveEffects s p with
  | .error fault => (s, .error fault)
  | .ok effects => s.perform effects

/-- The manifest at a path. -/
def load (s : Store) (p : Path) : Except Failure Manifest :=
  match s.readText p with
  | .error fault => .error (.io fault)
  | .ok text => (parse text).mapError .malformed

end ScriptDeps.Manifest
