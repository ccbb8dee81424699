/-
Changes that stay within a place.

What a party does changes nothing but what is strictly below its place, except that
directories on the way there may be new.  Such a directory was made where nothing stood and
nothing was frozen, so anyone else who needs it could have made it as well.
-/
import ScriptDeps.Proofs.Manifest.Placed
import ScriptDeps.Proofs.Store.Agree

namespace ScriptDeps.Store

variable {s s' : Store} {place loc : Location} {names : List String} {p q dir : Path}

/-- The stores differ strictly below the place, and by new directories on the way there. -/
structure Within (s s' : Store) (place : Location) : Prop where
  cwd : s'.cwd = s.cwd
  frozen : s'.frozen = s.frozen
  tree : s'.IsTree
  node? : ∀ loc, s'.node? loc = s.node? loc ∨ (place <+: loc ∧ loc ≠ place) ∨
    (loc <+: place ∧ s.node? loc = none ∧ s'.node? loc = some .directory ∧
      s.isFrozen loc = false)

theorem Within.refl (hs : s.IsTree) (place : Location) : Within s s place :=
  ⟨rfl, rfl, hs, fun _ => .inl rfl⟩

theorem Within.trans {s'' : Store} (h₁ : Within s s' place) (h₂ : Within s' s'' place) :
    Within s s'' place := by
  refine ⟨h₂.cwd.trans h₁.cwd, h₂.frozen.trans h₁.frozen, h₂.tree, fun loc => ?_⟩
  rcases h₁.node? loc with hold | hbelow | ⟨hway, hnone, hmade, hfree⟩
  · rcases h₂.node? loc with hsame | hbelow | ⟨hway, hnone, hmade, hfree⟩
    · exact .inl (hsame.trans hold)
    · exact .inr (.inl hbelow)
    · rw [isFrozen, h₁.frozen] at hfree
      exact .inr (.inr ⟨hway, hold ▸ hnone, hmade, hfree⟩)
  · exact .inr (.inl hbelow)
  · rcases h₂.node? loc with hsame | hbelow | ⟨-, hgone, -⟩
    · exact .inr (.inr ⟨hway, hnone, hsame.trans hmade, hfree⟩)
    · exact .inr (.inl hbelow)
    · rw [hmade] at hgone
      contradiction

/-- What was a directory outside of the place, or at it, is one still. -/
theorem Within.directory (h : Within s s' place) (hloc : place <+: loc → loc = place)
    (hdir : s.node? loc = some .directory) : s'.node? loc = some .directory := by
  rcases h.node? loc with hsame | ⟨hbelow, hne⟩ | ⟨-, hnone, -⟩
  · exact hsame.trans hdir
  · exact absurd (hloc hbelow) hne
  · rw [hnone] at hdir
    contradiction

/-- A change strictly below the place. -/
theorem Within.of_others (hs' : s'.IsTree) (hcwd : s'.cwd = s.cwd) (hfrozen : s'.frozen = s.frozen)
    (h : ∀ loc, ¬ (place <+: loc ∧ loc ≠ place) → s'.node? loc = s.node? loc) :
    Within s s' place := by
  refine ⟨hcwd, hfrozen, hs', fun loc => ?_⟩
  by_cases hbelow : place <+: loc ∧ loc ≠ place
  · exact .inr (.inl hbelow)
  · exact .inl (h loc hbelow)

/-! ### Directories made -/

/-- Nothing is made in a frozen directory. -/
theorem free_ensureDir (h : (Effect.ensureDir p).run s = .ok s') (loc : Location) :
    s'.node? loc = s.node? loc ∨ s.isFrozen loc = false := by
  rw [Effect.run] at h
  split at h
  · split at h
    · exact .inl (Except.ok.inj h ▸ rfl)
    · contradiction
  · obtain ⟨made, -, hnode, hfree, rfl⟩ := makeDir_eq_ok_iff.mp h
    have hne : made ≠ [] := ne_nil_of_node? (by rw [hnode]; simp)
    rw [node?_put s _ hne]
    by_cases heq : loc = made
    · exact .inr (heq ▸ hfree)
    · exact .inl (if_neg heq)

theorem free_perform_ensureDir (dirs : List Path) (loc : Location) :
    (s.perform (dirs.map .ensureDir)).1.node? loc = s.node? loc ∨ s.isFrozen loc = false := by
  induction dirs generalizing s with
  | nil => exact .inl rfl
  | cons dir dirs ih =>
      rw [List.map_cons, perform]
      split
      · rename_i next hnext
        rcases free_ensureDir hnext loc with hsame | hfree
        · have hrest := @ih next
          rw [isFrozen, frozen_ensureDir hnext, hsame] at hrest
          exact hrest
        · exact .inr hfree
      · exact .inl rfl

/-- A path on the way to one that spells names spells the first of them. -/
theorem descends_of_isBefore (h : q.IsBefore p) (hp : p.Descends names) :
    ∃ front, q.Descends front ∧ front <+: names := by
  obtain ⟨rest, hrest⟩ := h.parts
  have hparts : p.parts = names.map Component.name := hp
  rw [hparts] at hrest
  obtain ⟨front, others, rfl, hfront, -⟩ := List.map_eq_append_iff.mp hrest.symm
  exact ⟨front, hfront.symm, List.prefix_append _ _⟩

theorem within_makeDirs (hs : s.IsTree) (hp : p.Descends names) :
    Within s (s.makeDirs p.ancestors).1 (p.seenFrom s.cwd) := by
  cases hmissing : s.missingDirs p.ancestors with
  | error fault =>
      rw [makeDirs, hmissing]
      exact .refl hs _
  | ok missing =>
      have hensure : s.ensureDirs p = .ok (missing.map .ensureDir) := by
        rw [ensureDirs, hmissing]
        rfl
      have hadds := adds_ensureDirs hs hensure
      rw [makeDirs, hmissing]
      refine ⟨hadds.cwd, hadds.frozen, hadds.tree, fun loc => ?_⟩
      rcases hadds.node? loc with hsame | ⟨hnone, hmade, q, hq, rfl⟩
      · exact .inl hsame
      · have hbefore := Path.isBefore_of_mem_ancestors hq
        obtain ⟨front, hfront, hprefix⟩ := descends_of_isBefore hbefore hp
        refine .inr (.inr ⟨?_, hnone, hmade, ?_⟩)
        · rw [hfront.seenFrom, hp.seenFrom, Path.base_congr hbefore.isAbsolute]
          exact (List.prefix_append_right_inj _).mpr hprefix
        · rcases free_perform_ensureDir (s := s) missing (q.seenFrom s.cwd) with hsame | hfree
          · rw [hnone] at hsame
            exact absurd (hsame.symm.trans hmade) (by simp)
          · exact hfree

/-! ### Files written, moved and removed -/

theorem within_write (hs : s.IsTree) (hin : place <+: p.seenFrom s.cwd)
    (hne : p.seenFrom s.cwd ≠ place) {content : ByteArray} (h : s.write p content = .ok s') :
    Within s s' place := by
  obtain ⟨loc, runnable, hputs⟩ := puts_write h
  obtain rfl := locate_seenFrom hputs.locate
  refine .of_others (hputs.isTree hs) hputs.sets.cwd (Manifest.frozen_write h) fun l hl => ?_
  rw [hputs.sets.node?, if_neg]
  rintro rfl
  exact hl ⟨hin, hne⟩

theorem within_removeFile (hs : s.IsTree) (hin : place <+: p.seenFrom s.cwd)
    (hne : p.seenFrom s.cwd ≠ place) (h : s.removeFile p = .ok s') : Within s s' place := by
  obtain ⟨loc, hloc, hfile, hclears⟩ := clears_removeFile hs h
  obtain rfl := locate_seenFrom hloc
  have hfrozen : s'.frozen = s.frozen := by
    obtain ⟨_, _, _, -, -, rfl⟩ := removeFile_eq_ok_iff.mp h
    rfl
  refine .of_others (hclears.isTree hs hfile) hclears.cwd hfrozen fun l hl => ?_
  rw [hclears.node?, if_neg]
  rintro rfl
  exact hl ⟨hin, hne⟩

end ScriptDeps.Store
