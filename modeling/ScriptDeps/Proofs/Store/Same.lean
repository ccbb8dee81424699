/-
Two stores that are the same at a place.

Once the place is a directory, whatever is read or changed below it is read and changed alike
in both stores: paths lead to the same locations, the same stands there, and so the same
faults come of it.  What is changed alike leaves the stores the same at the place.
-/
import ScriptDeps.Proofs.Manifest.Placed
import ScriptDeps.Proofs.Store.Agree

namespace ScriptDeps.Store

variable {s s' a a' : Store} {start place loc target : Location} {names : List String}
  {p q : Path}

/-- The place is a directory, and the same stands at it, above it and below it in both stores. -/
structure Same (place : Location) (a s : Store) : Prop where
  cwd : s.cwd = a.cwd
  frozen : s.frozen = a.frozen
  tree : a.IsTree
  treeShared : s.IsTree
  directory : a.node? place = some .directory
  node? : ∀ loc, loc <+: place ∨ place <+: loc → s.node? loc = a.node? loc

/-- Stores that agree on a place are the same there as soon as it is a directory. -/
theorem Agree.same (h : Agree start names a s)
    (hdir : a.node? (start ++ names) = some .directory) : Same (start ++ names) a s := by
  have hdir' : s.node? (start ++ names) = some .directory := h.directory (List.prefix_refl _) hdir
  refine ⟨h.cwd, h.frozen, h.tree, h.treeShared, hdir, fun loc hloc => ?_⟩
  rcases hloc with ⟨rest, hrest⟩ | ⟨rest, rfl⟩
  · by_cases hnil : rest = []
    · rw [hnil, List.append_nil] at hrest
      rw [hrest, hdir, hdir']
    · have habove := h.tree.node?_above hnil (by rw [hrest, hdir]; simp)
      have habove' := h.treeShared.node?_above hnil (by rw [hrest, hdir']; simp)
      rw [habove, habove']
  · exact h.below rest

theorem Same.agree (h : Same (start ++ names) a s) : Agree start names a s := by
  refine ⟨h.cwd, h.frozen, h.tree, h.treeShared, ?_, fun rest => ?_, fun front hfront => .inl ?_⟩
  · by_cases hnil : names = []
    · have hdir := h.directory
      rw [hnil, List.append_nil] at hdir
      exact hdir
    · exact h.tree.node?_above hnil (by rw [h.directory]; simp)
  · exact h.node? _ (.inr (List.prefix_append _ _))
  · exact h.node? _ (.inl ((List.prefix_append_right_inj start).mpr hfront))

theorem Same.isFrozen (h : Same place a s) (loc : Location) : s.isFrozen loc = a.isFrozen loc := by
  rw [Store.isFrozen, Store.isFrozen, h.frozen]

/-! ### What is read -/

section Read

variable (h : Same place a s) (hp : p.Descends names) (hin : place <+: p.seenFrom a.cwd)

include h hp hin

theorem Same.locate : s.locate p = a.locate p := by
  refine locate_congr hp h.cwd fun front hfront => h.node? _ ?_
  have hway : p.base a.cwd ++ front <+: p.seenFrom a.cwd := by
    rw [hp.seenFrom]
    exact (List.prefix_append_right_inj _).mpr hfront
  exact List.prefix_or_prefix_of_prefix hway hin

theorem Same.lookup : s.lookup p = a.lookup p := by
  rw [Store.lookup, Store.lookup, h.locate hp hin]
  cases hloc : a.locate p with
  | error fault => rfl
  | ok loc =>
      obtain rfl := locate_seenFrom hloc
      have hnode := h.node? _ (.inr hin)
      simp only [bind, Except.bind, hnode]

theorem Same.exists? : s.exists? p = a.exists? p := by
  rw [Store.exists?, Store.exists?, h.lookup hp hin]

theorem Same.load : Manifest.load s p = Manifest.load a p := by
  rw [Manifest.load, Manifest.load, readText, readText, read, read, h.lookup hp hin]

end Read

/-! ### What is changed -/

/-- The same change was made in both, or it failed with the same fault. -/
inductive EndsAlike (place : Location) : Except Fault Store → Except Fault Store → Prop where
  | done {a s : Store} : Same place a s → EndsAlike place (.ok a) (.ok s)
  | failed (fault : Fault) : EndsAlike place (.error fault) (.error fault)

/-- Places below the place hold the same after a change if they hold the same again. -/
theorem Same.put (h : Same place a s) {node : Node} (hin : place <+: loc) (hne : loc ≠ place)
    (hnode : a.node? loc ≠ some .directory) (hreached : a.Reached loc) :
    Same place (a.put loc node) (s.put loc node) := by
  have hnode' : s.node? loc ≠ some .directory := by
    rw [h.node? loc (.inr hin)]
    exact hnode
  have hreached' : s.Reached loc := by
    intro above name heq
    rw [h.node? above, hreached above name heq]
    rw [heq] at hin hne
    rcases List.prefix_concat_iff.mp hin with hc | hbefore
    · exact absurd hc.symm hne
    · exact .inr hbefore
  have ha := sets_put a node (ne_nil_of_node? hnode)
  have hs := sets_put s node (ne_nil_of_node? hnode')
  refine ⟨h.cwd, h.frozen, ha.isTree h.tree hreached hnode, hs.isTree h.treeShared hreached' hnode',
    ?_, fun l hl => ?_⟩
  · rw [ha.node?, if_neg hne.symm]
    exact h.directory
  · rw [ha.node?, hs.node?, h.node? l hl]

theorem Same.drop (h : Same place a s) (hin : place <+: loc) (hne : loc ≠ place)
    (hnode : a.node? loc ≠ some .directory) : Same place (a.drop loc) (s.drop loc) := by
  have hnode' : s.node? loc ≠ some .directory := by
    rw [h.node? loc (.inr hin)]
    exact hnode
  have ha := clears_drop h.tree (ne_nil_of_node? hnode) hnode
  have hs := clears_drop h.treeShared (ne_nil_of_node? hnode') hnode'
  refine ⟨h.cwd, h.frozen, ha.isTree h.tree hnode, hs.isTree h.treeShared hnode', ?_,
    fun l hl => ?_⟩
  · rw [ha.node?, if_neg hne.symm]
    exact h.directory
  · rw [ha.node?, hs.node?, h.node? l hl]

section Change

variable (h : Same place a s) (hp : p.Descends names) (hin : place <+: p.seenFrom a.cwd)
  (hne : p.seenFrom a.cwd ≠ place)

include h hp hin hne

theorem Same.write (content : ByteArray) :
    EndsAlike place (a.write p content) (s.write p content) := by
  unfold Store.write
  rw [h.locate hp hin]
  cases hloc : a.locate p with
  | error fault => exact .failed fault
  | ok loc =>
      have hreached := reached_of_locate h.tree hloc
      obtain rfl := locate_seenFrom hloc
      have hsame := h.node? _ (.inr hin)
      simp only [bind, Except.bind, hsame, h.isFrozen]
      cases hnode : a.node? (p.seenFrom a.cwd) with
      | none =>
          have hput : ∀ node, Same place (a.put _ node) (s.put _ node) :=
            fun node => h.put hin hne (by rw [hnode]; simp) hreached
          simp only
          split
          · exact .failed .notFound
          · exact .done (hput _)
      | some node =>
          cases node with
          | directory => exact .failed .isDirectory
          | file old runnable => exact .done (h.put hin hne (by rw [hnode]; simp) hreached)

theorem Same.removeFile : EndsAlike place (a.removeFile p) (s.removeFile p) := by
  unfold Store.removeFile
  rw [h.locate hp hin]
  cases hloc : a.locate p with
  | error fault => exact .failed fault
  | ok loc =>
      obtain rfl := locate_seenFrom hloc
      have hsame := h.node? _ (.inr hin)
      simp only [bind, Except.bind, hsame]
      cases hnode : a.node? (p.seenFrom a.cwd) with
      | none => exact .failed .notFound
      | some node =>
          cases node with
          | directory => exact .failed .isDirectory
          | file content runnable => exact .done (h.drop hin hne (by rw [hnode]; simp))

end Change

/-- What stands where after a file was moved. -/
theorem node?_rename (hs : s.IsTree) {content : ByteArray} {runnable : Bool}
    (hfile : s.lookup p = .ok (.file content runnable)) (h : s.rename p q = .ok s') :
    s'.cwd = s.cwd ∧ s'.IsTree ∧ ∀ l, s'.node? l =
      if l = q.seenFrom s.cwd then some (.file content runnable)
      else if l = p.seenFrom s.cwd then none else s.node? l := by
  obtain ⟨loc, target, mid, hloc, hfree, hclears, hputs⟩ := moves_rename hs hfile h
  obtain rfl := locate_seenFrom hloc
  have htarget := locate_seenFrom hputs.locate
  rw [hclears.cwd] at htarget
  refine ⟨hputs.sets.cwd.trans hclears.cwd, hputs.isTree (hclears.isTree hs hfree), fun l => ?_⟩
  rw [hputs.sets.node?, hclears.node?, htarget]

/-- A file is moved alike in both. -/
theorem Same.rename (h : Same place a s) {names' : List String} {x y : String}
    {content : ByteArray} {runnable : Bool} (hp : p.EndsIn x) (hq : q.EndsIn y)
    (hpNames : p.Descends names) (hqNames : q.Descends names')
    (hpIn : place <+: p.seenFrom a.cwd) (hqIn : place <+: q.seenFrom a.cwd)
    (hpNe : p.seenFrom a.cwd ≠ place) (hqNe : q.seenFrom a.cwd ≠ place)
    (hside : ¬ p.seenFrom a.cwd <+: q.seenFrom a.cwd)
    (hside' : ¬ q.seenFrom a.cwd <+: p.seenFrom a.cwd)
    (hfile : a.lookup p = .ok (.file content runnable)) :
    EndsAlike place (a.rename p q) (s.rename p q) := by
  obtain ⟨loc, hloc, hnode⟩ := locate_of_lookup hfile
  obtain rfl := locate_seenFrom hloc
  have hloc' := (h.locate hpNames hpIn).trans hloc
  have hsame := h.node? _ (.inr hpIn)
  have hnode' := hsame.trans hnode
  cases htarget : a.locate q with
  | error fault =>
      have htarget' := (h.locate hqNames hqIn).trans htarget
      rw [Store.rename, Store.rename, withoutSlashes_eq hp.noSlash, withoutSlashes_eq hq.noSlash,
        hloc, hloc', htarget, htarget']
      exact .failed fault
  | ok target =>
      obtain rfl := locate_seenFrom htarget
      have htarget' := (h.locate hqNames hqIn).trans htarget
      have hthere := h.node? _ (.inr hqIn)
      rw [rename_file_eq hp hq hloc hnode htarget hside hside',
        rename_file_eq hp hq hloc' hnode' htarget' hside hside', h.isFrozen, h.isFrozen, hthere]
      split
      · exact .failed .notMovable
      split
      · exact .failed .isDirectory
      refine .done ?_
      rename_i hfree hfree'
      have hmoved := rename_file_eq hp hq hloc hnode htarget hside hside'
      have hmoved' := rename_file_eq hp hq hloc' hnode' htarget' hside hside'
      rw [if_neg hfree, if_neg hfree'] at hmoved
      rw [h.isFrozen, h.isFrozen, hthere, if_neg hfree, if_neg hfree'] at hmoved'
      obtain ⟨hcwd, htree, hnodes⟩ := node?_rename h.tree hfile hmoved
      obtain ⟨hcwd', htree', hnodes'⟩ :=
        node?_rename h.treeShared ((h.lookup hpNames hpIn).trans hfile) hmoved'
      refine ⟨by rw [hcwd, hcwd', h.cwd], h.frozen, htree, htree', ?_, fun l hl => ?_⟩
      · rw [hnodes, if_neg hqNe.symm, if_neg hpNe.symm]
        exact h.directory
      · rw [hnodes, hnodes', h.cwd, h.node? l hl]

end ScriptDeps.Store
