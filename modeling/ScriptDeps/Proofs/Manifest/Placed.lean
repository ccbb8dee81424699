/-
Saving a manifest, place by place.

Once the directories are there, a save changes two places: that of the manifest, where its text
stands afterwards, and that of the draft, where nothing does.  So a save that follows one of the
same manifest finds all it needs, and what it leaves reads like what it found.
-/
import ScriptDeps.Proofs.Store.Alike
import ScriptDeps.Proofs.Store.Made

namespace ScriptDeps.Manifest

open Store (Alike)

variable {s s' : Store} {m : Manifest} {p : Path}

/-- The draft of a manifest is named below the path above it. -/
theorem draftPath_child (dir : Path) {name : String} (h : IsName name) :
    draftPath (dir.child name) = dir.holder.child (name ++ ".tmp") := by
  rw [draftPath, Path.withFileName, (Path.endsIn_child dir h).fileName?, Path.parent?_child dir h,
    Option.getD_some]

/-- What the three changes that save a manifest did. -/
structure Placed (m : Manifest) (p : Path) (s s' : Store) : Prop where
  cwd : s'.cwd = s.cwd
  frozen : s'.frozen = s.frozen
  tree : s'.IsTree
  locate : s'.locate p = .ok (p.seenFrom s.cwd)
  locate_draft : s.locate (draftPath p) = .ok ((draftPath p).seenFrom s.cwd)
  free : s.isFrozen (p.seenFrom s.cwd) = false
  free_draft : s.isFrozen ((draftPath p).seenFrom s.cwd) = false
  file : ∃ runnable, s'.node? (p.seenFrom s.cwd) = some (.file m.render.toUTF8 runnable)
  gone : s'.node? ((draftPath p).seenFrom s.cwd) = none
  others : ∀ loc, loc ≠ p.seenFrom s.cwd → loc ≠ (draftPath p).seenFrom s.cwd →
    s'.node? loc = s.node? loc

theorem frozen_write {content : ByteArray} (h : s.write p content = .ok s') :
    s'.frozen = s.frozen := by
  obtain ⟨_, _, -, -, rfl⟩ := Store.write_eq_ok_iff.mp h
  rfl

theorem placed_saving (hs : s.IsTree) (hne : p.seenFrom s.cwd ≠ (draftPath p).seenFrom s.cwd)
    (h : s.perform (m.saving p) = (s', .ok ())) : Placed m p s s' := by
  obtain ⟨htree, ⟨_, hlookup⟩, -⟩ := saved_saving hs h
  obtain ⟨place, hplaced, -⟩ := Store.locate_of_lookup hlookup
  obtain ⟨created, filled, hcreate, hfill, hmove⟩ := exists_of_saving h
  obtain ⟨draft, _, hcreated⟩ := Store.puts_write hcreate
  obtain ⟨draft', runnable, hfilled⟩ := Store.puts_write hfill
  have hcwd : filled.cwd = s.cwd := hfilled.sets.cwd.trans hcreated.sets.cwd
  have hfrozen : filled.frozen = s.frozen := (frozen_write hfill).trans (frozen_write hcreate)
  obtain rfl : draft' = draft := by
    have hagain := hcreated.keepsDirs.locate hcreated.locate
    exact Except.ok.inj (hfilled.locate.symm.trans hagain)
  have htrees : filled.IsTree := hfilled.isTree (hcreated.isTree hs)
  have hdraft := Store.locate_seenFrom hcreated.locate
  have hlocate := (hfilled.keepsDirs.locate hfilled.locate)
  have hnode : filled.node? draft' = some (.file m.render.toUTF8 runnable) := by
    rw [hfilled.sets.node?, if_pos rfl]
  have hfile : filled.node? draft' ≠ some .directory := by simp [hnode]
  obtain ⟨target, htarget, ⟨rfl, -⟩ | ⟨hthere, ⟨hfree, hfree'⟩, rfl⟩⟩ :=
    Store.rename_file hlocate hnode hmove
  · rw [Store.locate_seenFrom htarget, hcwd] at hdraft
    exact absurd hdraft hne
  · have hplace := Store.locate_seenFrom htarget
    rw [hcwd] at hplace
    have hmoved := Store.node?_moved htrees hnode hfile hthere
    have hcleared := Store.clears_drop htrees (Store.ne_nil_of_node? hfile) hfile
    rw [← hdraft, ← hplace] at hne
    refine ⟨hcwd, hfrozen, htree, ?_, ?_, ?_, ?_, ⟨runnable, ?_⟩, ?_, fun loc hloc hloc' => ?_⟩
    · obtain rfl : place = p.seenFrom s.cwd :=
        (Store.locate_seenFrom hplaced).trans (congrArg (fun start => p.seenFrom start) hcwd)
      exact hplaced
    · rw [hcreated.locate, hdraft]
    · rw [← hplace, Store.isFrozen, ← hfrozen]
      exact hfree'
    · rw [← hdraft, Store.isFrozen, ← hfrozen]
      exact hfree
    · rw [← hplace, hmoved, if_pos rfl]
    · rw [← hdraft, hmoved, if_neg hne.symm, hcleared.node?, if_pos rfl]
    · rw [← hplace] at hloc
      rw [← hdraft] at hloc'
      rw [hmoved, if_neg hloc, hcleared.node?, if_neg hloc', hfilled.sets.node?, if_neg hloc',
        hcreated.sets.node?, if_neg hloc']

/-- **A save that goes well** makes the directories on the way and then changes two places. -/
theorem placed_save (hs : s.IsTree) {dir : Path} (hdir : p.parent? = some dir)
    (hne : p.seenFrom s.cwd ≠ (draftPath p).seenFrom s.cwd) (h : (m.save s p).2 = .ok ()) :
    ∃ made, Store.Adds s made dir ∧ Placed m p made (m.save s p).1 := by
  cases hdirs : s.ensureDirs dir with
  | error fault => simp [save, saveEffects, hdir, hdirs, bind, Except.bind] at h
  | ok dirs =>
      have hadds := Store.adds_ensureDirs hs hdirs
      have hsave := m.save_eq_perform hdir hdirs
      rw [hsave, Store.perform_append] at h ⊢
      cases hmade : (s.perform dirs).2 with
      | error fault => simp [hmade] at h
      | ok done =>
          simp only [hmade] at h ⊢
          exact ⟨_, hadds, placed_saving hadds.tree (hadds.cwd.symm ▸ hne) (Prod.ext rfl h)⟩

/-- The text of a manifest stands where its path leads, in a tree, and there is no draft in the
way of the next save. -/
structure Stands (m : Manifest) (p : Path) (s : Store) : Prop where
  tree : s.IsTree
  file : ∃ runnable, s.node? (p.seenFrom s.cwd) = some (.file m.render.toUTF8 runnable)
  gone : s.node? ((draftPath p).seenFrom s.cwd) = none
  free : s.isFrozen (p.seenFrom s.cwd) = false
  free_draft : s.isFrozen ((draftPath p).seenFrom s.cwd) = false

theorem Placed.stands (h : Placed m p s s') : Stands m p s' :=
  ⟨h.tree, h.cwd.symm ▸ h.file, h.cwd.symm ▸ h.gone,
    by rw [h.cwd, Store.isFrozen, h.frozen]; exact h.free,
    by rw [h.cwd, Store.isFrozen, h.frozen]; exact h.free_draft⟩

/-- What happens elsewhere is nothing to a manifest that stands. -/
theorem Stands.congr (h : Stands m p s) (hcwd : s'.cwd = s.cwd) (hfrozen : s'.frozen = s.frozen)
    (htree : s'.IsTree) (hnode : s'.node? (p.seenFrom s.cwd) = s.node? (p.seenFrom s.cwd))
    (hdraft : s'.node? ((draftPath p).seenFrom s.cwd) = s.node? ((draftPath p).seenFrom s.cwd)) :
    Stands m p s' := by
  refine ⟨htree, ?_, ?_, ?_, ?_⟩
  · rw [hcwd, hnode]
    exact h.file
  · rw [hcwd, hdraft]
    exact h.gone
  · rw [hcwd, Store.isFrozen, hfrozen]
    exact h.free
  · rw [hcwd, Store.isFrozen, hfrozen]
    exact h.free_draft

/-- A manifest that stands where its path leads can be read. -/
theorem Stands.load_eq (h : Stands m p s) (hloc : s.locate p = .ok (p.seenFrom s.cwd))
    (hm : m.Proper) : load s p = .ok m.inLineOrder := by
  obtain ⟨runnable, hfile⟩ := h.file
  have hlookup := Store.lookup_of_locate hloc hfile
  exact load_eq_ok_iff.mpr ⟨_, runnable, _, Store.standing?_eq_some_iff.mpr hlookup,
    Store.fromUTF8?_toUTF8 m.render, parse_render_eq hm⟩

/-- A manifest that was saved can be read. -/
theorem Placed.load_eq (h : Placed m p s s') (hm : m.Proper) : load s' p = .ok m.inLineOrder := by
  have hlocate : s'.locate p = .ok (p.seenFrom s'.cwd) := by
    rw [h.cwd]
    exact h.locate
  exact h.stands.load_eq hlocate hm

/-- **A manifest that stands can be saved again**, and all reads as before. -/
theorem Stands.exists_save (h : Stands m p s) {a b : String} (hp : p.EndsIn a)
    (hd : (draftPath p).EndsIn b) (hthere : DirsThere s p)
    (hloc : s.locate p = .ok (p.seenFrom s.cwd))
    (hdraft : s.locate (draftPath p) = .ok ((draftPath p).seenFrom s.cwd))
    (hside : ¬ p.seenFrom s.cwd <+: (draftPath p).seenFrom s.cwd)
    (hside' : ¬ (draftPath p).seenFrom s.cwd <+: p.seenFrom s.cwd) :
    ∃ again, m.save s p = (again, .ok ()) ∧ Alike s again := by
  obtain ⟨hs, ⟨runnable, hfile⟩, hnone, hfree, hfree'⟩ := h
  generalize p.seenFrom s.cwd = loc at *
  generalize (draftPath p).seenFrom s.cwd = draft at *
  obtain ⟨created, filled, hcreate, hfill, hsets, hfrozen⟩ :=
    Store.exists_write_twice hdraft hnone hfree' ByteArray.empty m.render.toUTF8
  have hfreed : s.node? draft ≠ some .directory := by simp [hnone]
  have hkeeps := hsets.keepsDirs hfreed
  have htree : filled.IsTree := hsets.isTree hs (Store.reached_of_locate hs hdraft) hfreed
  have hne : loc ≠ draft := fun hc => hside (hc ▸ List.prefix_refl loc)
  have hdraftNode : filled.node? draft = some (.file m.render.toUTF8 false) := by
    rw [hsets.node?, if_pos rfl]
  have hlocNode : filled.node? loc = some (.file m.render.toUTF8 runnable) := by
    rw [hsets.node?, if_neg hne, hfile]
  obtain ⟨again, hmove, hcwd, hnodes⟩ := Store.exists_rename_file htree hd hp
    (hkeeps.locate hdraft) (hkeeps.locate hloc) hdraftNode hlocNode hside' hside
    (by rw [Store.isFrozen, hfrozen]; exact hfree') (by rw [Store.isFrozen, hfrozen]; exact hfree)
  refine ⟨again, ?_, hcwd.trans hsets.cwd, fun l => ?_⟩
  · have hsave : m.save s p = s.perform (m.saving p) := by
      cases hdir : p.parent? with
      | none => simp [save, saveEffects, hdir, bind, Except.bind]
      | some dir => exact m.save_eq_perform hdir (hthere dir hdir)
    rw [hsave, saving, Store.perform, Effect.run, hcreate]
    simp only [Store.perform, Effect.run, hfill, hmove]
  · rw [hnodes, hsets.node?]
    by_cases hl : l = loc
    · rw [if_pos hl, hl, hfile]
      rfl
    · by_cases hl' : l = draft
      · rw [if_neg hl, if_pos hl', hl', hnone]
      · rw [if_neg hl, if_neg hl', if_neg hl']

end ScriptDeps.Manifest
