/-
What changes do to a tree.

A change that happens has found the location that its path leads to, and it touches
nothing but that.  Moving a file touches two locations: it is taken from the one and put
at the other.  So each change is described by `Sets` and `Clears`, and it leaves a tree.

Changes in a row succeed when each of them does.  Directories that are made on the way to
a path add to a store and take nothing from it.
-/
import ScriptDeps.Proofs.Path

namespace ScriptDeps.Store

open Traversal (bind_eq_ok_iff)

variable {s s' : Store} {p q : Path}

/-! ### Files and directories made -/

/-- The root is a directory, whatever a store says. -/
theorem ne_nil_of_node? {loc : Location} (h : s.node? loc ≠ some .directory) : loc ≠ [] :=
  fun hnil => h (hnil ▸ rfl)

/-- What a change did, if it made `node` stand where `p` leads. -/
structure Puts (s s' : Store) (p : Path) (loc : Location) (node : Node) : Prop where
  locate : s.locate p = .ok loc
  free : s.node? loc ≠ some .directory
  sets : Sets s s' loc node

theorem Puts.keepsDirs {loc : Location} {node : Node} (h : Puts s s' p loc node) :
    KeepsDirs s s' :=
  h.sets.keepsDirs h.free

theorem Puts.isTree {loc : Location} {node : Node} (h : Puts s s' p loc node) (hs : s.IsTree) :
    s'.IsTree :=
  h.sets.isTree hs (reached_of_locate hs h.locate) h.free

/-- What was put somewhere stands there. -/
theorem Puts.lookup {loc : Location} {node : Node} (h : Puts s s' p loc node) :
    s'.lookup p = .ok node :=
  lookup_of_locate (h.keepsDirs.locate h.locate) (by rw [h.sets.node?, if_pos rfl])

/-- A file that was put somewhere is nothing to paths of another name. -/
theorem Puts.standing?_of_ne {loc : Location} {content : ByteArray} {runnable : Bool}
    (h : Puts s s' p loc (.file content runnable)) {a b : String} (hq : q.EndsIn a)
    (hp : p.EndsIn b) (hab : a ≠ b) : s'.standing? q = s.standing? q := by
  refine standing?_congr h.keepsDirs h.sets.keepsDirs_back fun place hplace => ?_
  rw [h.sets.node?, if_neg (ne_of_endsIn hq hp hab hplace h.locate)]

/-- Neither is a file that was taken away. -/
theorem Clears.standing?_of_ne {loc : Location} (h : Clears s s' loc)
    (hfile : s.node? loc ≠ some .directory) (hloc : s.locate p = .ok loc) {a b : String}
    (hq : q.EndsIn a) (hp : p.EndsIn b) (hab : a ≠ b) : s'.standing? q = s.standing? q := by
  refine standing?_congr (h.keepsDirs hfile) h.keepsDirs_back fun place hplace => ?_
  rw [h.node?, if_neg (ne_of_endsIn hq hp hab hplace hloc)]

/-- A file is written where one stands, which may be run as before, or where nothing stands and
something new can be made. -/
theorem write_eq_ok_iff {content : ByteArray} :
    s.write p content = .ok s' ↔ ∃ loc runnable, s.locate p = .ok loc ∧
      ((∃ old, s.node? loc = some (.file old runnable)) ∨
        s.node? loc = none ∧ s.isFrozen loc = false ∧ runnable = false) ∧
      s' = s.put loc (.file content runnable) := by
  rw [write, bind_eq_ok_iff]
  constructor
  · rintro ⟨loc, hloc, h⟩
    split at h
    · contradiction
    · rename_i old runnable hnode
      exact ⟨loc, runnable, hloc, .inl ⟨old, hnode⟩, (Except.ok.inj h).symm⟩
    · rename_i hnode
      split at h
      · contradiction
      · rename_i hfree
        rw [Bool.not_eq_true] at hfree
        exact ⟨loc, false, hloc, .inr ⟨hnode, hfree, rfl⟩, (Except.ok.inj h).symm⟩
  · rintro ⟨loc, runnable, hloc, ⟨old, hnode⟩ | ⟨hnode, hfree, rfl⟩, rfl⟩
    · exact ⟨loc, hloc, by rw [hnode]⟩
    · exact ⟨loc, hloc, by simp [hnode, hfree]⟩

/-- A directory is made where nothing stands and something new can be made. -/
theorem makeDir_eq_ok_iff :
    s.makeDir p = .ok s' ↔ ∃ loc, s.locate (withoutSlashes p) = .ok loc ∧ s.node? loc = none ∧
      s.isFrozen loc = false ∧ s' = s.put loc .directory := by
  rw [makeDir, bind_eq_ok_iff]
  constructor
  · rintro ⟨loc, hloc, h⟩
    split at h
    · contradiction
    · rename_i hnode
      split at h
      · contradiction
      · rename_i hfree
        rw [Bool.not_eq_true] at hfree
        exact ⟨loc, hloc, hnode, hfree, (Except.ok.inj h).symm⟩
  · rintro ⟨loc, hloc, hnode, hfree, rfl⟩
    exact ⟨loc, hloc, by simp [hnode, hfree]⟩

theorem puts_write {content : ByteArray} (h : s.write p content = .ok s') :
    ∃ loc runnable, Puts s s' p loc (.file content runnable) := by
  obtain ⟨loc, runnable, hloc, hnode, rfl⟩ := write_eq_ok_iff.mp h
  have hfree : s.node? loc ≠ some .directory := by
    rcases hnode with ⟨old, hold⟩ | ⟨hnone, -⟩
    · simp [hold]
    · simp [hnone]
  exact ⟨loc, runnable, hloc, hfree, sets_put s _ (ne_nil_of_node? hfree)⟩

theorem puts_makeDir (h : s.makeDir p = .ok s') :
    ∃ loc, s.node? loc = none ∧ Puts s s' (withoutSlashes p) loc .directory := by
  obtain ⟨loc, hloc, hnode, -, rfl⟩ := makeDir_eq_ok_iff.mp h
  have hfree : s.node? loc ≠ some .directory := by simp [hnode]
  exact ⟨loc, hnode, hloc, hfree, sets_put s _ (ne_nil_of_node? hfree)⟩

/-! ### Files removed -/

/-- A file that stands can be removed. -/
theorem removeFile_eq_ok_iff :
    s.removeFile p = .ok s' ↔ ∃ loc content runnable, s.locate p = .ok loc ∧
      s.node? loc = some (.file content runnable) ∧ s' = s.drop loc := by
  rw [removeFile, bind_eq_ok_iff]
  constructor
  · rintro ⟨loc, hloc, h⟩
    split at h
    · contradiction
    · contradiction
    · rename_i content runnable hnode
      exact ⟨loc, content, runnable, hloc, hnode, (Except.ok.inj h).symm⟩
  · rintro ⟨loc, content, runnable, hloc, hnode, rfl⟩
    exact ⟨loc, hloc, by rw [hnode]⟩

theorem clears_removeFile (hs : s.IsTree) (h : s.removeFile p = .ok s') :
    ∃ loc, s.locate p = .ok loc ∧ s.node? loc ≠ some .directory ∧ Clears s s' loc := by
  obtain ⟨loc, content, runnable, hloc, hnode, rfl⟩ := removeFile_eq_ok_iff.mp h
  have hfile : s.node? loc ≠ some .directory := by simp [hnode]
  exact ⟨loc, hloc, hfile, clears_drop hs (ne_nil_of_node? hfile) hfile⟩

theorem removeFile_of_lookup {content : ByteArray} {runnable : Bool}
    (h : s.lookup p = .ok (.file content runnable)) : ∃ s', s.removeFile p = .ok s' := by
  obtain ⟨loc, hloc, hnode⟩ := locate_of_lookup h
  exact ⟨s.drop loc, removeFile_eq_ok_iff.mpr ⟨loc, content, runnable, hloc, hnode, rfl⟩⟩

/-- What was removed is gone. -/
theorem exists?_removeFile (hs : s.IsTree) (h : s.removeFile p = .ok s') :
    s'.exists? p = false := by
  obtain ⟨loc, hloc, hfile, hclears⟩ := clears_removeFile hs h
  have hlocate := (hclears.keepsDirs hfile).locate hloc
  have hnode : s'.node? loc = none := by rw [hclears.node?, if_pos rfl]
  simp [exists?, lookup, hlocate, bind, Except.bind, hnode, Except.toBool]

/-! ### Files moved -/

/-- A path with a separator at its end leads to a directory only. -/
theorem node?_of_slash {loc : Location} (hslash : p.chars.getLast? = some '/')
    (h : s.locate p = .ok loc) : s.node? loc = some .directory := by
  obtain ⟨front, hfront⟩ := List.getLast?_eq_some_iff.mp hslash
  obtain ⟨reached, last, hlast, hstep⟩ := exists_step_of_locate h
  rw [Path.pieces, hfront, Text.splitOn_append_sep, Text.splitOn, List.getLast?_concat,
    Option.some.injEq] at hlast
  have hdir := node?_of_step hstep
  rw [step, hdir, ← hlast] at hstep
  have hreached : reached = loc := by simpa [Path.isIdle] using hstep
  exact hreached ▸ hdir

theorem withoutSlashes_eq (h : p.chars.getLast? ≠ some '/') : withoutSlashes p = p := by
  have hp : Path.ofChars p.chars = p := by simp [Path.ofChars, Path.chars]
  rcases List.eq_nil_or_concat' p.chars with hnil | ⟨front, last, hlast⟩
  · rw [withoutSlashes, hnil]
    simp [Path.isAbsolute, hnil]
  · have hne : ¬ last = '/' := fun hc => h (by rw [hlast, hc, List.getLast?_concat])
    rw [withoutSlashes, hlast, List.reverse_append, List.reverse_singleton, List.singleton_append,
      List.dropWhile_cons_of_neg (by simpa using hne)]
    simp [← hlast, hp]

/-- What stands where after a file was moved. -/
theorem node?_moved (hs : s.IsTree) {loc target : Location} {node : Node}
    (hnode : s.node? loc = some node) (hfile : s.node? loc ≠ some .directory)
    (htarget : s.node? target ≠ some .directory) (l : Location) :
    ({ (s.drop loc).drop target with
        entries := s.moved loc target ++ ((s.drop loc).drop target).entries } : Store).node? l =
      if l = target then some node else (s.drop loc).node? l := by
  have hloc : loc ≠ [] := ne_nil_of_node? hfile
  by_cases hl : l = []
  · rw [if_neg (hl ▸ (ne_nil_of_node? htarget).symm), hl]
    rfl
  · have hkept : ((s.drop loc).drop target).entries.lookup l =
        if target <+: l then none else (s.drop loc).node? l := by
      rw [← node?_eq_lookup _ hl, node?_drop _ target hl]
    rw [node?_eq_lookup _ hl, List.lookup_append, lookup_moved, hkept]
    by_cases hpre : target <+: l
    · obtain ⟨tail, rfl⟩ := hpre
      rw [if_pos (List.prefix_append target tail), if_pos (List.prefix_append target tail),
        List.drop_left, Option.or_none, ← node?_eq_lookup s (by simp [hloc])]
      by_cases htail : tail = []
      · rw [htail, List.append_nil, List.append_nil, if_pos rfl, hnode]
      · -- below the file there was nothing, and below its new place neither
        have hne : ¬ target ++ tail = target := fun hc => htail (by simpa using hc)
        rw [if_neg hne, hs.node?_below hfile htail, (clears_drop hs hloc hfile).node?,
          hs.node?_below htarget htail]
        simp
    · have hne : ¬ l = target := fun hc => hpre (hc ▸ List.prefix_refl target)
      rw [if_neg hpre, if_neg hpre, if_neg hne, Option.none_or]

/-- A file can be moved onto itself, or else to where no directory stands, and neither from nor to
a place that is frozen. -/
theorem rename_file {loc : Location} {content : ByteArray} {runnable : Bool}
    (hloc : s.locate p = .ok loc) (hnode : s.node? loc = some (.file content runnable))
    (h : s.rename p q = .ok s') :
    ∃ target, s.locate q = .ok target ∧ ((target = loc ∧ s' = s) ∨
      (s.node? target ≠ some .directory ∧ (s.isFrozen loc = false ∧ s.isFrozen target = false) ∧
        s' = { (s.drop loc).drop target with
          entries := s.moved loc target ++ ((s.drop loc).drop target).entries })) := by
  have hp : ¬ p.chars.getLast? = some '/' :=
    fun hc => by simp [node?_of_slash hc hloc] at hnode
  rw [rename, withoutSlashes_eq hp, hloc] at h
  cases htarget : s.locate (withoutSlashes q) with
  | error fault => simp [htarget, bind, Except.bind] at h
  | ok target =>
      simp only [htarget, bind, Except.bind, hnode] at h
      split at h
      · contradiction
      split at h
      · contradiction
      rename_i hslash
      have hq : ¬ q.chars.getLast? = some '/' := by
        simpa [Node.isDirectory, hp] using hslash
      rw [withoutSlashes_eq hq] at htarget
      refine ⟨target, htarget, ?_⟩
      split at h
      · rename_i heq
        exact Or.inl ⟨(beq_iff_eq.mp heq).symm, (Except.ok.inj h).symm⟩
      split at h
      · contradiction
      rename_i hfree
      rw [Bool.or_eq_true, not_or, Bool.not_eq_true, Bool.not_eq_true] at hfree
      split at h
      · contradiction
      split at h
      · contradiction
      split at h
      · contradiction
      rename_i hkind
      split at h
      · contradiction
      refine Or.inr ⟨fun hc => ?_, hfree, (Except.ok.inj h).symm⟩
      rw [hc] at hkind
      simp [Node.isDirectory] at hkind

/-- A file that is moved is taken from its place and put at the other. -/
theorem moves_rename (hs : s.IsTree) {content : ByteArray} {runnable : Bool}
    (hfile : s.lookup p = .ok (.file content runnable)) (h : s.rename p q = .ok s') :
    ∃ loc target mid, s.locate p = .ok loc ∧ s.node? loc ≠ some .directory ∧
      Clears s mid loc ∧ Puts mid s' q target (.file content runnable) := by
  obtain ⟨loc, hloc, hnode⟩ := locate_of_lookup hfile
  have hfree : s.node? loc ≠ some .directory := by simp [hnode]
  have hclears := clears_drop hs (ne_nil_of_node? hfree) hfree
  obtain ⟨target, htarget, hmoved⟩ := rename_file hloc hnode h
  have hmid := (hclears.keepsDirs hfree).locate htarget
  refine ⟨loc, target, s.drop loc, hloc, hfree, hclears, ?_⟩
  rcases hmoved with ⟨rfl, rfl⟩ | ⟨hfreeTarget, -, rfl⟩
  · -- moved onto itself, it is gone in between
    refine ⟨hmid, by rw [hclears.node?, if_pos rfl]; simp, rfl, fun l => ?_⟩
    rw [hclears.node?]
    by_cases hl : l = target
    · rw [if_pos hl, hl, hnode]
    · rw [if_neg hl, if_neg hl]
  · refine ⟨hmid, ?_, rfl, node?_moved hs hnode hfree hfreeTarget⟩
    rw [hclears.node?]
    split
    · simp
    · exact hfreeTarget

/-! ### Changes that go well -/

/-- A new file can be written where nothing stands. -/
theorem write_new {loc : Location} (hloc : s.locate p = .ok loc) (hnode : s.node? loc = none)
    (hfree : s.isFrozen loc = false) (content : ByteArray) :
    s.write p content = .ok (s.put loc (.file content false)) :=
  write_eq_ok_iff.mpr ⟨loc, false, hloc, .inr ⟨hnode, hfree, rfl⟩, rfl⟩

/-- A file can be written over. -/
theorem write_over {loc : Location} {old : ByteArray} {runnable : Bool}
    (hloc : s.locate p = .ok loc) (hnode : s.node? loc = some (.file old runnable))
    (content : ByteArray) : s.write p content = .ok (s.put loc (.file content runnable)) :=
  write_eq_ok_iff.mpr ⟨loc, runnable, hloc, .inl ⟨old, hnode⟩, rfl⟩

/-- A file can be written where nothing stands, and then written over. -/
theorem exists_write_twice {loc : Location} (hloc : s.locate p = .ok loc)
    (hnode : s.node? loc = none) (hfree : s.isFrozen loc = false) (first second : ByteArray) :
    ∃ mid s', s.write p first = .ok mid ∧ mid.write p second = .ok s' ∧
      Sets s s' loc (.file second false) ∧ s'.frozen = s.frozen := by
  have hnew : s.node? loc ≠ some .directory := by simp [hnode]
  have hnil : loc ≠ [] := ne_nil_of_node? hnew
  have hfirst := sets_put s (.file first false) hnil
  have hsecond := sets_put (s.put loc (.file first false)) (.file second false) hnil
  have hkeeps := hfirst.keepsDirs hnew
  have hthere : (s.put loc (.file first false)).node? loc = some (.file first false) := by
    rw [hfirst.node?, if_pos rfl]
  refine ⟨_, _, write_new hloc hnode hfree first, write_over (hkeeps.locate hloc) hthere second,
    ⟨rfl, fun l => ?_⟩, rfl⟩
  rw [hsecond.node?, hfirst.node?]
  split <;> rfl

/-- What comes of moving a file to a place that is neither above nor below it. -/
theorem rename_file_eq {loc target : Location} {a b : String} {content : ByteArray}
    {runnable : Bool} (hp : p.EndsIn a) (hq : q.EndsIn b) (hloc : s.locate p = .ok loc)
    (hnode : s.node? loc = some (.file content runnable)) (htarget : s.locate q = .ok target)
    (hside : ¬ loc <+: target) (hside' : ¬ target <+: loc) :
    s.rename p q =
      if s.isFrozen loc || s.isFrozen target then .error .notMovable
      else if s.node? target = some .directory then .error .isDirectory
      else .ok { (s.drop loc).drop target with
        entries := s.moved loc target ++ ((s.drop loc).drop target).entries } := by
  have hpre : loc.isPrefixOf target = false :=
    Bool.eq_false_iff.mpr fun hc => hside (List.isPrefixOf_iff_prefix.mp hc)
  have hpre' : target.isPrefixOf loc = false :=
    Bool.eq_false_iff.mpr fun hc => hside' (List.isPrefixOf_iff_prefix.mp hc)
  have hne : (loc == target) = false :=
    beq_eq_false_iff_ne.mpr fun hc => hside (hc ▸ List.prefix_refl loc)
  rw [rename, withoutSlashes_eq hp.noSlash, withoutSlashes_eq hq.noSlash, hloc, htarget]
  simp only [bind, Except.bind, hp.endsInName, hq.endsInName, hnode, hne, hpre, hpre']
  cases hthere : s.node? target with
  | none => simp [Node.isDirectory, hp.noSlash, hq.noSlash]
  | some node => cases node <;> simp [Node.isDirectory, hp.noSlash, hq.noSlash]

/-- A file can be moved onto another one that is neither above nor below it. -/
theorem exists_rename_file (hs : s.IsTree) {loc target : Location} {a b : String}
    {content old : ByteArray} {runnable runnable' : Bool} (hp : p.EndsIn a) (hq : q.EndsIn b)
    (hloc : s.locate p = .ok loc) (htarget : s.locate q = .ok target)
    (hnode : s.node? loc = some (.file content runnable))
    (hthere : s.node? target = some (.file old runnable')) (hside : ¬ loc <+: target)
    (hside' : ¬ target <+: loc) (hfree : s.isFrozen loc = false)
    (hfree' : s.isFrozen target = false) :
    ∃ s', s.rename p q = .ok s' ∧ s'.cwd = s.cwd ∧ ∀ l, s'.node? l =
      if l = target then some (.file content runnable)
      else if l = loc then none else s.node? l := by
  have hrename : s.rename p q = .ok { (s.drop loc).drop target with
      entries := s.moved loc target ++ ((s.drop loc).drop target).entries } := by
    rw [rename_file_eq hp hq hloc hnode htarget hside hside', hfree, hfree', hthere]
    simp
  have hfile : s.node? loc ≠ some .directory := by simp [hnode]
  refine ⟨_, hrename, rfl, fun l => ?_⟩
  rw [node?_moved hs hnode hfile (by simp [hthere]),
    (clears_drop hs (ne_nil_of_node? hfile) hfile).node?]

/-! ### One after the other -/

theorem perform_cons_ok {e : Effect} {effects : List Effect}
    (h : s.perform (e :: effects) = (s', .ok ())) :
    ∃ mid, e.run s = .ok mid ∧ mid.perform effects = (s', .ok ()) := by
  rw [perform] at h
  split at h
  · rename_i mid hmid
    exact ⟨mid, hmid, h⟩
  · rw [Prod.mk.injEq] at h
    exact absurd h.2 (by simp)

/-- Changes that fail are the end of those in a row. -/
theorem perform_append (s : Store) (first second : List Effect) :
    s.perform (first ++ second) =
      match (s.perform first).2 with
      | .ok _ => (s.perform first).1.perform second
      | .error _ => s.perform first := by
  induction first generalizing s with
  | nil => rfl
  | cons e first ih =>
      rw [List.cons_append, perform, perform]
      cases e.run s with
      | ok next => exact ih next
      | error fault => rfl

/-! ### Directories made on the way to a path -/

/-- All that stood stands there still. -/
structure Extends (s s' : Store) : Prop where
  cwd : s'.cwd = s.cwd
  node? : ∀ loc node, s.node? loc = some node → s'.node? loc = some node

theorem Extends.refl (s : Store) : Extends s s :=
  ⟨rfl, fun _ _ h => h⟩

theorem Extends.trans {s'' : Store} (h1 : Extends s s') (h2 : Extends s' s'') : Extends s s'' :=
  ⟨h2.cwd.trans h1.cwd, fun loc node h => h2.node? loc node (h1.node? loc node h)⟩

theorem Extends.keepsDirs (h : Extends s s') : KeepsDirs s s' :=
  ⟨h.cwd, fun loc hloc => h.node? loc _ hloc⟩

theorem Extends.lookup (h : Extends s s') {q : Path} {node : Node} (hq : s.lookup q = .ok node) :
    s'.lookup q = .ok node := by
  obtain ⟨loc, hloc, hnode⟩ := locate_of_lookup hq
  exact lookup_of_locate (h.keepsDirs.locate hloc) (h.node? loc node hnode)

theorem extends_ensureDir (hs : s.IsTree) {dir : Path}
    (h : (Effect.ensureDir dir).run s = .ok s') : Extends s s' ∧ s'.IsTree := by
  rw [Effect.run] at h
  split at h
  · split at h
    · rw [Except.ok.injEq] at h
      exact h ▸ ⟨Extends.refl s, hs⟩
    · contradiction
  · obtain ⟨loc, hnone, hputs⟩ := puts_makeDir h
    refine ⟨⟨hputs.sets.cwd, fun l node hl => ?_⟩, hputs.isTree hs⟩
    have hne : l ≠ loc := fun heq => by simp [heq, hnone] at hl
    rw [hputs.sets.node?, if_neg hne]
    exact hl

/-- However far a list of directories was made. -/
theorem extends_perform_ensureDir (hs : s.IsTree) (dirs : List Path) :
    Extends s (s.perform (dirs.map .ensureDir)).1 ∧
      (s.perform (dirs.map .ensureDir)).1.IsTree := by
  induction dirs generalizing s with
  | nil => exact ⟨Extends.refl s, hs⟩
  | cons dir dirs ih =>
      rw [List.map_cons, perform]
      split
      · rename_i next hnext
        obtain ⟨hext, htree⟩ := extends_ensureDir hs hnext
        obtain ⟨hrest, htree⟩ := ih htree
        exact ⟨hext.trans hrest, htree⟩
      · exact ⟨Extends.refl s, hs⟩

/-- However far the directories on the way to a path were made. -/
theorem extends_ensureDirs (hs : s.IsTree) {p : Path} {effects : List Effect} {start : Store}
    (heffects : start.ensureDirs p = .ok effects) :
    Extends s (s.perform effects).1 ∧ (s.perform effects).1.IsTree := by
  obtain ⟨dirs, rfl⟩ : ∃ dirs : List Path, effects = dirs.map .ensureDir := by
    rw [ensureDirs] at heffects
    cases hdirs : start.missingDirs p.ancestors with
    | error fault => simp [hdirs, Except.map] at heffects
    | ok dirs => exact ⟨dirs, by simpa [hdirs, Except.map] using heffects.symm⟩
  exact extends_perform_ensureDir hs dirs

end ScriptDeps.Store
