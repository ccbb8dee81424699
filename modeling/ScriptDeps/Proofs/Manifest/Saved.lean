/-
A manifest that was saved is there.

Saving ends well only if the draft was written and moved, and then the text of the manifest
stands at its path, where it can be read again.  If it does not end well, there may be a
draft.  Nothing else has changed in either case but that the directories on the way may be
new.
-/
import ScriptDeps.Manifest.Saved
import ScriptDeps.Proofs.Manifest.RoundTrip
import ScriptDeps.Proofs.Store.Change

namespace ScriptDeps.Manifest

open Traversal (bind_eq_ok_iff mapError_eq_ok_iff)

variable {s s' : Store} {m : Manifest} {p : Path}

/-- A manifest is read from a file that stands there and holds its text. -/
theorem load_eq_ok_iff {p : Path} :
    load s p = .ok m ↔ ∃ content runnable text,
      s.standing? p = some (.file content runnable) ∧ String.fromUTF8? content = some text ∧
        parse text = .ok m := by
  rw [load]
  constructor
  · intro h
    cases hread : s.readText p with
    | error fault => simp [hread] at h
    | ok text =>
        obtain ⟨content, runnable, hfile, htext⟩ := Store.readText_eq_ok_iff.mp hread
        rw [hread] at h
        exact ⟨content, runnable, text, Store.standing?_eq_some_iff.mpr hfile, htext,
          mapError_eq_ok_iff.mp h⟩
  · rintro ⟨content, runnable, text, hfile, htext, hparse⟩
    have hlookup := Store.standing?_eq_some_iff.mp hfile
    rw [Store.readText_eq_ok_iff.mpr ⟨content, runnable, hlookup, htext⟩]
    exact mapError_eq_ok_iff.mpr hparse

theorem load_congr {p : Path} (h : s'.standing? p = s.standing? p) :
    load s' p = .ok m ↔ load s p = .ok m := by
  rw [load_eq_ok_iff, load_eq_ok_iff, h]

/-- The text of a manifest stands at a path, in a tree, and what stands elsewhere is what stood
there before. -/
structure Saved (m : Manifest) (p : Path) (s s' : Store) : Prop where
  tree : s'.IsTree
  file : ∃ runnable, s'.lookup p = .ok (.file m.render.toUTF8 runnable)
  others : ∀ {q a b c}, q.EndsIn a → p.EndsIn b → (draftPath p).EndsIn c → a ≠ b → a ≠ c →
    s'.standing? q = s.standing? q

/-- There may be a draft, and else all is what it was. -/
structure Drafted (p : Path) (s s' : Store) : Prop where
  tree : s'.IsTree
  others : ∀ {q a c}, q.EndsIn a → (draftPath p).EndsIn c → a ≠ c →
    s'.standing? q = s.standing? q

theorem Drafted.refl (p : Path) (hs : s.IsTree) : Drafted p s s :=
  ⟨hs, fun _ _ _ => rfl⟩

/-- One more write to the draft. -/
theorem Drafted.write {content : ByteArray} {s'' : Store} (h : Drafted p s s')
    (hwrite : s'.write (draftPath p) content = .ok s'') : Drafted p s s'' := by
  obtain ⟨loc, runnable, hputs⟩ := Store.puts_write hwrite
  refine ⟨hputs.isTree h.tree, fun hq hd hac => ?_⟩
  rw [hputs.standing?_of_ne hq hd hac]
  exact h.others hq hd hac

/-- The draft is moved to the place of the manifest. -/
theorem Drafted.rename {s'' : Store} {runnable : Bool} (h : Drafted p s s')
    (hdraft : s'.lookup (draftPath p) = .ok (.file m.render.toUTF8 runnable))
    (hmove : s'.rename (draftPath p) p = .ok s'') : Saved m p s s'' := by
  obtain ⟨loc, target, mid, hloc, hfile, hcleared, hmoved⟩ :=
    Store.moves_rename h.tree hdraft hmove
  refine ⟨hmoved.isTree (hcleared.isTree h.tree hfile), ⟨runnable, hmoved.lookup⟩, ?_⟩
  intro q a b c hq hp hd hab hac
  rw [hmoved.standing?_of_ne hq hp hab, hcleared.standing?_of_ne hfile hloc hq hd hac]
  exact h.others hq hd hac

/-- The two writes and the move, each of which goes well. -/
theorem exists_of_saving (h : s.perform (m.saving p) = (s', .ok ())) :
    ∃ created filled, s.write (draftPath p) .empty = .ok created ∧
      created.write (draftPath p) m.render.toUTF8 = .ok filled ∧
      filled.rename (draftPath p) p = .ok s' := by
  obtain ⟨created, hcreate, h⟩ := Store.perform_cons_ok h
  obtain ⟨filled, hfill, h⟩ := Store.perform_cons_ok h
  obtain ⟨final, hmove, h⟩ := Store.perform_cons_ok h
  rw [Store.perform, Prod.mk.injEq] at h
  exact ⟨created, filled, hcreate, hfill, h.1 ▸ hmove⟩

/-- What they do, once the directories are there. -/
theorem saved_saving (hs : s.IsTree) (h : s.perform (m.saving p) = (s', .ok ())) :
    Saved m p s s' := by
  obtain ⟨created, filled, hcreate, hfill, hmove⟩ := exists_of_saving h
  obtain ⟨draft, runnable, hfilled⟩ := Store.puts_write hfill
  exact (((Drafted.refl p hs).write hcreate).write hfill).rename hfilled.lookup hmove

/-- Whichever of the three fails, there is no more than a draft. -/
theorem drafted_saving (hs : s.IsTree) {fault : Fault}
    (h : s.perform (m.saving p) = (s', .error fault)) : Drafted p s s' := by
  have hempty := Drafted.refl p hs
  rw [saving, Store.perform] at h
  split at h
  · rename_i created hcreate
    have hcreated := hempty.write hcreate
    rw [Store.perform] at h
    split at h
    · rename_i filled hfill
      rw [Store.perform] at h
      split at h
      · rw [Store.perform, Prod.mk.injEq] at h
        exact absurd h.2 (by simp)
      · exact (Prod.mk.inj h).1 ▸ hcreated.write hfill
    · exact (Prod.mk.inj h).1 ▸ hcreated
  · exact (Prod.mk.inj h).1 ▸ hempty

/-- No directory is missing on the way to a path. -/
def DirsThere (s : Store) (p : Path) : Prop :=
  ∀ dir, p.parent? = some dir → s.ensureDirs dir = .ok []

/-- The changes that make the directories on the way to a path, before a manifest is saved. -/
theorem exists_dirs_of_saveEffects (hs : s.IsTree) {effects : List Effect}
    (h : m.saveEffects s p = .ok effects) :
    ∃ dirs, effects = dirs ++ m.saving p ∧ (DirsThere s p → dirs = []) ∧
      Store.Extends s (s.perform dirs).1 ∧ (s.perform dirs).1.IsTree := by
  rw [saveEffects] at h
  split at h
  · rename_i dir hdir
    obtain ⟨dirs, hensure, heffects⟩ := bind_eq_ok_iff.mp h
    refine ⟨dirs, (Except.ok.inj heffects).symm, fun hthere => ?_,
      Store.extends_ensureDirs hs hensure⟩
    rw [hthere dir hdir, Except.ok.injEq] at hensure
    exact hensure.symm
  · exact ⟨[], (Except.ok.inj h).symm, fun _ => rfl, Store.Extends.refl s, hs⟩

theorem save_eq_perform (m : Manifest) {dir : Path} {dirs : List Effect}
    (hdir : p.parent? = some dir) (hdirs : s.ensureDirs dir = .ok dirs) :
    m.save s p = s.perform (dirs ++ m.saving p) := by
  simp [save, saveEffects, hdir, hdirs, bind, Except.bind]

/-- Saving makes directories if any are missing, and if that goes well, the rest follows. -/
theorem exists_made_of_save (hs : s.IsTree) (m : Manifest) (p : Path) :
    ∃ made, Store.Extends s made ∧ made.IsTree ∧ (DirsThere s p → made = s) ∧
      (m.save s p = made.perform (m.saving p) ∨ ∃ fault, m.save s p = (made, .error fault)) := by
  cases heffects : m.saveEffects s p with
  | error fault =>
      refine ⟨s, Store.Extends.refl s, hs, fun _ => rfl, Or.inr ⟨fault, ?_⟩⟩
      simp only [save, heffects]
  | ok effects =>
      obtain ⟨dirs, rfl, hnone, hext, htree⟩ := exists_dirs_of_saveEffects hs heffects
      refine ⟨_, hext, htree, fun hthere => by rw [hnone hthere]; rfl, ?_⟩
      have hsave : m.save s p = s.perform (dirs ++ m.saving p) := by simp only [save, heffects]
      rw [hsave, Store.perform_append]
      cases hdirs : (s.perform dirs).2 with
      | ok done => exact Or.inl rfl
      | error fault => exact Or.inr ⟨fault, Prod.ext rfl hdirs⟩

theorem saved_save (hs : s.IsTree) (h : (m.save s p).2 = .ok ()) :
    ∃ made, Store.Extends s made ∧ Saved m p made (m.save s p).1 ∧ (DirsThere s p → made = s) := by
  obtain ⟨made, hext, htree, hthere, hsaving | ⟨fault, hfault⟩⟩ := exists_made_of_save hs m p
  · rw [hsaving] at h ⊢
    exact ⟨made, hext, saved_saving htree (Prod.ext rfl h), hthere⟩
  · rw [hfault] at h
    contradiction

/-- A manifest that could not be saved left no more than directories and a draft. -/
theorem drafted_save (hs : s.IsTree) {fault : Fault} (h : (m.save s p).2 = .error fault) :
    ∃ made, Store.Extends s made ∧ Drafted p made (m.save s p).1 ∧
      (DirsThere s p → made = s) := by
  obtain ⟨made, hext, htree, hthere, hsaving | ⟨failure, hfailure⟩⟩ := exists_made_of_save hs m p
  · rw [hsaving] at h ⊢
    exact ⟨made, hext, drafted_saving htree (Prod.ext rfl h), hthere⟩
  · rw [hfailure]
    exact ⟨made, hext, .refl p htree, hthere⟩

/-- A manifest without blanks around its framework is read again where it was saved. -/
theorem Saved.load_eq (h : Saved m p s s') (hm : m.Proper)
    (htrim : Text.trim m.framework = m.framework) :
    load s' p = .ok m.inLineOrder ∧ Reordered m.inLineOrder m := by
  obtain ⟨runnable, hfile⟩ := h.file
  exact ⟨load_eq_ok_iff.mpr ⟨_, runnable, _, Store.standing?_eq_some_iff.mpr hfile,
    Store.fromUTF8?_toUTF8 m.render, parse_render_eq hm⟩, reordered_inLineOrder htrim⟩

end ScriptDeps.Manifest
