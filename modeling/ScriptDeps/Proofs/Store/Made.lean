/-
Directories on the way to a path.

What a path goes through is what the paths above it lead to.  So directories that are made on
the way to a path stand where some path above it leads, and if a path leads somewhere, no
directory on the way to it is missing.
-/
import ScriptDeps.Proofs.Path.Place
import ScriptDeps.Proofs.Traversal

namespace ScriptDeps

open Store (withoutSlashes)
open Traversal (foldlM_cons_eq_ok_iff map_eq_ok_iff)

namespace Path

theorem seenFrom_withoutSlashes (start : Location) (p : Path) :
    (withoutSlashes p).seenFrom start = p.seenFrom start := by
  have h := isStripped_withoutSlashes p
  obtain ⟨idles, hidles, hpieces⟩ := h.pieces
  have hparts : p.parts = (withoutSlashes p).parts := by
    rw [parts, hpieces, List.filterMap_append, filterMap_idles hidles, List.append_nil, parts]
  rw [seenFrom_eq, seenFrom_eq, hparts, h.isAbsolute]

/-! ### The paths above a path -/

/-- A path above another one spells the beginning of what that does. -/
structure IsBefore (q p : Path) : Prop where
  isAbsolute : q.isAbsolute = p.isAbsolute
  parts : q.parts <+: p.parts

theorem IsBefore.refl (p : Path) : IsBefore p p :=
  ⟨rfl, List.prefix_refl _⟩

theorem IsBefore.trans {p q r : Path} (h₁ : IsBefore r q) (h₂ : IsBefore q p) : IsBefore r p :=
  ⟨h₁.isAbsolute.trans h₂.isAbsolute, h₁.parts.trans h₂.parts⟩

/-- The pieces of a text that is put together from pieces. -/
theorem pieces_ofChars {pieces : List (List Char)} (hne : pieces ≠ [])
    (h : ∀ piece ∈ pieces, '/' ∉ piece) : (ofChars (Text.joinWith '/' pieces)).pieces = pieces := by
  rw [Path.pieces, chars_ofChars, Text.splitOn_joinWith hne h]

theorem isAbsolute_iff_of_pieces {p : Path} {first : List Char} {rest : List (List Char)}
    (h : p.pieces = first :: rest) : p.isAbsolute = true ↔ first = [] ∧ rest ≠ [] := by
  rw [isAbsolute_iff, h]
  cases rest with
  | nil => simp
  | cons next rest => simp

/-- How the pieces behind the first are cut where the path above ends: `kept` stays, and what
follows are a name and what is idle around it. -/
theorem exists_pieces_of_last {rest kept : List (List Char)} {last : List Char}
    (h : rest.reverse.dropWhile isIdle = last :: kept) :
    ¬ isIdle last = true ∧ ∃ between idles, (∀ piece ∈ between, isIdle piece = true) ∧
      (∀ piece ∈ idles, isIdle piece = true) ∧
      rest = (kept.dropWhile isIdle).reverse ++ between ++ last :: idles := by
  have hhead := List.head?_dropWhile_not isIdle rest.reverse
  rw [h, List.head?_cons] at hhead
  have hrest := List.takeWhile_append_dropWhile (p := isIdle) (l := rest.reverse)
  have hkept := List.takeWhile_append_dropWhile (p := isIdle) (l := kept)
  rw [h] at hrest
  refine ⟨by simpa using hhead, (kept.takeWhile isIdle).reverse,
    (rest.reverse.takeWhile isIdle).reverse, ?_, ?_, ?_⟩
  · intro piece hpiece
    exact List.mem_takeWhile_imp (List.mem_reverse.mp hpiece)
  · intro piece hpiece
    exact List.mem_takeWhile_imp (List.mem_reverse.mp hpiece)
  · calc rest = (rest.reverse.takeWhile isIdle ++
          last :: (kept.takeWhile isIdle ++ kept.dropWhile isIdle)).reverse := by
          rw [hkept, hrest, List.reverse_reverse]
      _ = _ := by
          simp only [List.reverse_append, List.reverse_cons, List.append_assoc,
            List.singleton_append]

/-- The path above spells the beginning of what a path does. -/
theorem isBefore_of_parent? {p dir : Path} (h : p.parent? = some dir) : IsBefore dir p := by
  obtain ⟨first, rest, hpieces⟩ := List.exists_cons_of_ne_nil (Store.pieces_ne_nil p)
  have habsolute := isAbsolute_iff_of_pieces hpieces
  rw [parent?, hpieces] at h
  simp only at h
  split at h
  · rename_i last kept hlast
    obtain ⟨-, between, idles, -, -, hrest⟩ := exists_pieces_of_last hlast
    rw [List.append_assoc] at hrest
    split at h
    · -- only the root is left
      rename_i hroot
      rw [Bool.and_eq_true] at hroot
      rw [← Option.some.inj h]
      exact ⟨hroot.1.symm, List.nil_prefix⟩
    · rename_i hroot
      have hwhole : p.pieces = (first :: (kept.dropWhile isIdle).reverse) ++
          (between ++ last :: idles) := by
        rw [hpieces, hrest, List.cons_append]
      have hdir : dir.pieces = first :: (kept.dropWhile isIdle).reverse := by
        rw [← Option.some.inj h, pieces_ofChars (List.cons_ne_nil _ _)]
        exact fun piece hpiece =>
          Text.not_mem_of_mem_splitOn (hwhole ▸ List.mem_append_left _ hpiece)
      refine ⟨?_, ?_⟩
      · have hne : rest ≠ [] := by simp [hrest]
        rw [Bool.eq_iff_iff, isAbsolute_iff_of_pieces hdir, habsolute]
        refine ⟨fun habs => ⟨habs.1, hne⟩, fun habs => ⟨habs.1, fun hc => hroot ?_⟩⟩
        rw [habsolute.mpr habs, hc]
        rfl
      · rw [parts, parts, hdir, hwhole, List.filterMap_append]
        exact List.prefix_append _ _
  · split at h
    · contradiction
    · -- a relative path with a single component
      rename_i hfirst
      rw [← Option.some.inj h]
      refine ⟨?_, List.nil_prefix⟩
      have hrel : ¬ p.isAbsolute = true := fun habs => hfirst (by simp [(habsolute.mp habs).1])
      rw [Bool.not_eq_true] at hrel
      exact hrel.symm

theorem isBefore_of_mem_ancestors {p q : Path} (h : q ∈ p.ancestors) : IsBefore q p := by
  rw [ancestors] at h
  generalize p.pieces.length = n at h
  induction n generalizing p with
  | zero => exact List.mem_singleton.mp h ▸ .refl p
  | succ n ih =>
      rw [ancestorsUpTo] at h
      cases hdir : p.parent? with
      | none =>
          rw [hdir] at h
          exact List.mem_singleton.mp h ▸ .refl p
      | some dir =>
          rw [hdir] at h
          rcases List.mem_cons.mp h with rfl | habove
          · exact .refl q
          · exact (ih habove).trans (isBefore_of_parent? hdir)

end Path

namespace Store

variable {s s' : Store} {p q : Path} {loc : Location}

/-! ### What a path goes through -/

theorem node?_of_foldlM {pieces : List (List Char)} {start : Location}
    (h : pieces.foldlM s.step start = .ok loc) {begun rest : List Component} {c : Component}
    (hparts : pieces.filterMap Path.component? = begun ++ c :: rest) :
    s.node? (begun.foldl Path.fold start) = some .directory := by
  induction pieces generalizing start begun with
  | nil => simp at hparts
  | cons piece pieces ih =>
      obtain ⟨next, hstep, hrest⟩ := foldlM_cons_eq_ok_iff.mp h
      have hone : [piece].foldlM s.step start = .ok next :=
        foldlM_cons_eq_ok_iff.mpr ⟨next, hstep, rfl⟩
      have hnext := foldlM_step_eq hone
      cases hc : Path.component? piece with
      | none =>
          rw [List.filterMap_cons_none hc] at hparts hnext
          obtain rfl : next = start := hnext
          exact ih hrest hparts
      | some d =>
          rw [List.filterMap_cons_some hc] at hparts hnext
          obtain rfl : next = Path.fold start d := hnext
          cases begun with
          | nil => exact node?_of_step hstep
          | cons b begun =>
              rw [List.cons_append, List.cons.injEq] at hparts
              rw [List.foldl_cons, ← hparts.1]
              exact ih hrest hparts.2

/-- **A path that leads somewhere goes through directories.** -/
theorem node?_of_isBefore (h : s.locate q = .ok loc) (hp : p.IsBefore q)
    (hne : p.parts ≠ q.parts) : s.node? (p.seenFrom s.cwd) = some .directory := by
  obtain ⟨rest, hrest⟩ := hp.parts
  cases rest with
  | nil => exact absurd (by rw [← hrest, List.append_nil]) hne
  | cons c rest =>
      rw [Path.seenFrom_eq, hp.isAbsolute]
      exact node?_of_foldlM (locate_eq_ok_iff.mp h).2 hrest.symm

/-- A name below a directory leads somewhere if it ever did and something below the directory
does. -/
theorem locate_child_again {dir : Path} {name : String} (hname : IsName name)
    (habove : dir.Above q) (h : s.locate q = .ok loc) {earlier : Store} {l : Location}
    (hearlier : earlier.locate (dir.child name) = .ok l) :
    s.locate (dir.child name) = .ok (dir.seenFrom s.cwd ++ [name]) := by
  obtain ⟨reached, hfold, hdir⟩ := exists_front_of_locate habove h
  obtain ⟨hchars, hthen⟩ := locate_eq_ok_iff.mp hearlier
  rw [Path.pieces_child dir hname] at hthen
  obtain ⟨_, -, hstep⟩ := foldlM_step_concat hthen
  have hshort := ((step_name_eq_ok_iff hname).mp hstep).2.1
  have hnow : s.step reached name.toList = .ok (reached ++ [name]) :=
    (step_name_eq_ok_iff hname).mpr ⟨hdir, hshort, rfl⟩
  have hreached : dir.seenFrom s.cwd = reached := by
    rw [Path.seenFrom_eq, ← Path.filterMap_front]
    exact (foldlM_step_eq hfold).symm
  refine locate_eq_ok_iff.mpr ⟨hchars, ?_⟩
  rw [Path.pieces_child dir hname, Path.isAbsolute_child dir hname, List.foldlM_append, hfold,
    hreached]
  simp [bind, Except.bind, hnow, pure, Except.pure]

/-! ### What is frozen stays frozen -/

theorem frozen_makeDir (h : s.makeDir p = .ok s') : s'.frozen = s.frozen := by
  obtain ⟨loc, -, -, -, rfl⟩ := makeDir_eq_ok_iff.mp h
  rfl

theorem frozen_ensureDir (h : (Effect.ensureDir p).run s = .ok s') : s'.frozen = s.frozen := by
  rw [Effect.run] at h
  split at h
  · split at h
    · exact Except.ok.inj h ▸ rfl
    · contradiction
  · exact frozen_makeDir h

/-! ### Directories made -/

/-- Directories were made on the way to a path, and nothing else has changed. -/
structure Adds (s s' : Store) (p : Path) : Prop where
  cwd : s'.cwd = s.cwd
  frozen : s'.frozen = s.frozen
  tree : s'.IsTree
  node? : ∀ loc, s'.node? loc = s.node? loc ∨
    s.node? loc = none ∧ s'.node? loc = some .directory ∧
      ∃ q ∈ p.ancestors, loc = q.seenFrom s.cwd

theorem Adds.refl (hs : s.IsTree) (p : Path) : Adds s s p :=
  ⟨rfl, rfl, hs, fun _ => .inl rfl⟩

theorem Adds.trans {s'' : Store} (h₁ : Adds s s' p) (h₂ : Adds s' s'' p) : Adds s s'' p := by
  refine ⟨h₂.cwd.trans h₁.cwd, h₂.frozen.trans h₁.frozen, h₂.tree, fun loc => ?_⟩
  rcases h₁.node? loc with hold | ⟨hnone, hmade, hway⟩
  · rcases h₂.node? loc with hsame | ⟨hnone, hmade, hway⟩
    · exact .inl (hsame.trans hold)
    · exact .inr ⟨hold ▸ hnone, hmade, h₁.cwd ▸ hway⟩
  · rcases h₂.node? loc with hsame | ⟨hgone, -, -⟩
    · exact .inr ⟨hnone, hsame.trans hmade, hway⟩
    · rw [hmade] at hgone
      contradiction

theorem Adds.extends (h : Adds s s' p) : Extends s s' := by
  refine ⟨h.cwd, fun loc node hnode => ?_⟩
  rcases h.node? loc with hsame | ⟨hnone, -, -⟩
  · exact hsame.trans hnode
  · rw [hnone] at hnode
    contradiction

/-- Where a path leads that goes the same way, nothing is made at a place it does not go
through. -/
theorem Adds.node?_eq (h : Adds s s' p) {there : Store} (hcwd : there.cwd = s.cwd)
    (hway : ∀ q ∈ p.ancestors, there.node? (q.seenFrom there.cwd) = some .directory)
    (hloc : there.node? loc ≠ some .directory) : s'.node? loc = s.node? loc := by
  rcases h.node? loc with hsame | ⟨-, -, q, hq, rfl⟩
  · exact hsame
  · exact absurd (hcwd ▸ hway q hq) hloc

theorem adds_ensureDir (hs : s.IsTree) (hq : q ∈ p.ancestors)
    (h : (Effect.ensureDir q).run s = .ok s') : Adds s s' p := by
  have hfrozen := frozen_ensureDir h
  rw [Effect.run] at h
  split at h
  · split at h
    · exact Except.ok.inj h ▸ .refl hs p
    · contradiction
  · obtain ⟨loc, hnone, hputs⟩ := puts_makeDir h
    refine ⟨hputs.sets.cwd, hfrozen, hputs.isTree hs, fun l => ?_⟩
    rw [hputs.sets.node?]
    by_cases hl : l = loc
    · rw [if_pos hl, hl]
      refine .inr ⟨hnone, rfl, q, hq, ?_⟩
      rw [← Path.seenFrom_withoutSlashes]
      exact locate_seenFrom hputs.locate
    · exact .inl (if_neg hl)

theorem mem_of_mem_missingDirs {dirs missing : List Path} (h : s.missingDirs dirs = .ok missing)
    (hq : q ∈ missing) : q ∈ dirs := by
  induction dirs generalizing missing with
  | nil =>
      rw [missingDirs, Except.ok.injEq] at h
      rw [← h] at hq
      contradiction
  | cons dir above ih =>
      rw [missingDirs] at h
      split at h
      · rw [← Except.ok.inj h] at hq
        contradiction
      · split at h
        · rw [← Except.ok.inj h, List.mem_singleton] at hq
          exact hq ▸ List.mem_cons_self
        · obtain ⟨more, hmore, rfl⟩ := map_eq_ok_iff.mp h
          rcases List.mem_append.mp hq with hold | hnew
          · exact List.mem_cons_of_mem dir (ih hmore hold)
          · rw [List.mem_singleton.mp hnew]
            exact List.mem_cons_self
        · split at h
          · rw [← Except.ok.inj h] at hq
            contradiction
          · contradiction
        · contradiction

/-- However far the directories on the way to a path were made. -/
theorem adds_ensureDirs (hs : s.IsTree) {start : Store} {effects : List Effect}
    (heffects : start.ensureDirs p = .ok effects) : Adds s (s.perform effects).1 p := by
  obtain ⟨dirs, hdirs, rfl⟩ := map_eq_ok_iff.mp heffects
  have hmem : ∀ q ∈ dirs, q ∈ p.ancestors := fun q hq => mem_of_mem_missingDirs hdirs hq
  clear heffects hdirs
  induction dirs generalizing s with
  | nil => exact .refl hs p
  | cons dir dirs ih =>
      rw [List.map_cons, perform]
      split
      · rename_i next hnext
        have hadds := adds_ensureDir hs (hmem dir List.mem_cons_self) hnext
        exact hadds.trans (ih hadds.tree fun q hq => hmem q (List.mem_cons_of_mem dir hq))
      · exact .refl hs p

end Store

end ScriptDeps
