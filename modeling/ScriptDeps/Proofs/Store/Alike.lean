/-
Stores that read alike.

Two stores read alike if the same directories and files stand in both and the files hold the
same.  They may differ in the order of their entries and in which files can be run, and
reading a path shows neither.  So whatever is found out by reading is the same in both.
-/
import ScriptDeps.Project

namespace ScriptDeps

/-- What a file holds, or nothing for a directory. -/
def Node.content? : Node → Option ByteArray
  | .directory => none
  | .file content _ => some content

namespace Store

variable {s s' : Store}

/-- The same stands at each location, up to whether it can be run. -/
structure Alike (s s' : Store) : Prop where
  cwd : s'.cwd = s.cwd
  content : ∀ loc, (s'.node? loc).map Node.content? = (s.node? loc).map Node.content?

/-- Two nodes that read the same. -/
inductive SameRead : Node → Node → Prop where
  | directory : SameRead .directory .directory
  | file (content : ByteArray) (runnable runnable' : Bool) :
      SameRead (.file content runnable) (.file content runnable')

theorem sameRead_of_content? {node node' : Node} (h : node'.content? = node.content?) :
    SameRead node node' := by
  cases node with
  | directory =>
      cases node' with
      | directory => exact .directory
      | file content runnable => contradiction
  | file content runnable =>
      cases node' with
      | directory => contradiction
      | file content' runnable' =>
          obtain rfl : content' = content := Option.some.inj h
          exact .file content' runnable runnable'

namespace Alike

/-- What stands at a location in one store and in the other. -/
theorem node? (h : Alike s s') (loc : Location) :
    (s.node? loc = none ∧ s'.node? loc = none) ∨
      ∃ node node', s.node? loc = some node ∧ s'.node? loc = some node' ∧ SameRead node node' := by
  have hcontent := h.content loc
  cases hnode : s.node? loc with
  | none =>
      rw [hnode, Option.map_none, Option.map_eq_none_iff] at hcontent
      exact .inl ⟨rfl, hcontent⟩
  | some node =>
      rw [hnode, Option.map_some] at hcontent
      obtain ⟨node', hnode', hsame⟩ := Option.map_eq_some_iff.mp hcontent
      exact .inr ⟨node, node', rfl, hnode', sameRead_of_content? hsame⟩

theorem step (h : Alike s s') : s'.step = s.step := by
  funext reached piece
  rw [Store.step, Store.step]
  rcases h.node? reached with ⟨hnode, hnode'⟩ | ⟨node, node', hnode, hnode', hsame⟩
  · rw [hnode, hnode']
  · rw [hnode, hnode']
    cases hsame <;> rfl

/-- Paths lead to the same locations. -/
theorem locate (h : Alike s s') : s'.locate = s.locate := by
  funext p
  rw [Store.locate, Store.locate, h.step, h.cwd]

/-- What stands at a path in one store and in the other. -/
theorem lookup (h : Alike s s') (p : Path) :
    (∃ fault, s.lookup p = .error fault ∧ s'.lookup p = .error fault) ∨
      ∃ node node', s.lookup p = .ok node ∧ s'.lookup p = .ok node' ∧ SameRead node node' := by
  cases hloc : s.locate p with
  | error fault =>
      refine .inl ⟨fault, ?_, ?_⟩ <;> simp [Store.lookup, h.locate, hloc, bind, Except.bind]
  | ok loc =>
      have hloc' : s'.locate p = .ok loc := h.locate ▸ hloc
      rcases h.node? loc with ⟨hnode, hnode'⟩ | ⟨node, node', hnode, hnode', hsame⟩
      · refine .inl ⟨.notFound, ?_, ?_⟩
        · simp [Store.lookup, hloc, hnode, bind, Except.bind]
        · simp [Store.lookup, hloc', hnode', bind, Except.bind]
      · refine .inr ⟨node, node', ?_, ?_, hsame⟩
        · simp [Store.lookup, hloc, hnode, bind, Except.bind]
        · simp [Store.lookup, hloc', hnode', bind, Except.bind]

theorem exists? (h : Alike s s') : s'.exists? = s.exists? := by
  funext p
  rw [Store.exists?, Store.exists?]
  rcases h.lookup p with ⟨fault, hlookup, hlookup'⟩ | ⟨node, node', hlookup, hlookup', -⟩
  · rw [hlookup, hlookup']
  · rw [hlookup, hlookup']
    rfl

theorem isDir (h : Alike s s') : s'.isDir = s.isDir := by
  funext p
  rw [Store.isDir, Store.isDir]
  rcases h.lookup p with ⟨fault, hlookup, hlookup'⟩ | ⟨node, node', hlookup, hlookup', hsame⟩
  · rw [hlookup, hlookup']
  · rw [hlookup, hlookup']
    cases hsame <;> rfl

theorem read (h : Alike s s') : s'.read = s.read := by
  funext p
  rw [Store.read, Store.read]
  rcases h.lookup p with ⟨fault, hlookup, hlookup'⟩ | ⟨node, node', hlookup, hlookup', hsame⟩
  · rw [hlookup, hlookup']
  · rw [hlookup, hlookup']
    cases hsame <;> rfl

theorem readText (h : Alike s s') : s'.readText = s.readText := by
  funext p
  rw [Store.readText, Store.readText, h.read]

end Alike

end Store

open Store (Alike)

variable {s s' : Store}

/-! ### What is read of a project -/

theorem Manifest.load_alike (h : Alike s s') : Manifest.load s' = Manifest.load s := by
  funext p
  rw [Manifest.load, Manifest.load, h.readText]

theorem Restorer.isHit_alike (h : Alike s s') : Restorer.isHit s' = Restorer.isHit s := by
  funext m copy
  rw [isHit, isHit, h.exists?, Manifest.load_alike h]

namespace Context

theorem packageDir?_alike (h : Alike s s') : packageDir? s' = packageDir? s := by
  funext folders key library
  rw [packageDir?, packageDir?, h.isDir]

theorem importsOf?_alike (h : Alike s s') : importsOf? s' = importsOf? s := by
  funext folders key library
  rw [importsOf?, importsOf?, packageDir?_alike h, h.readText]

theorem runtimeGraph_alike (h : Alike s s') : runtimeGraph s' = runtimeGraph s := by
  funext lock
  rw [runtimeGraph, runtimeGraph, importsOf?_alike h]

theorem existing_alike (h : Alike s s') : existing s' = existing s := by
  funext name dir assets
  rw [existing, existing, h.exists?]

theorem dependency_alike (h : Alike s s') : dependency s' = dependency s := by
  funext lock framework chain key t
  rw [dependency, dependency, packageDir?_alike h, existing_alike h]

theorem read_alike (h : Alike s s') : read s' = read s := by
  funext runtime assets
  rw [read, read, LockArtifact.read, LockArtifact.read, h.readText, runtimeGraph_alike h,
    dependency_alike h]

end Context

/-- **A resolution is the same for stores that read alike.** -/
theorem Project.resolve_alike (h : Alike s s') (project : Project) (env : Environment) :
    project.resolve env s' = project.resolve env s := by
  have hversion : AssemblyFile.versionAt? s' = AssemblyFile.versionAt? s := by
    funext p
    rw [AssemblyFile.versionAt?, AssemblyFile.versionAt?, h.read]
  rw [resolve, resolve, Context.read_alike h, hversion]

end ScriptDeps
