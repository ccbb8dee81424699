/-
Saving a manifest in one place, apart from others.

A save writes a draft and moves it, both in the directory of the manifest.  So it stays
within that place however far it gets, and where two stores agree on the place, it comes to
the same in both.
-/
import ScriptDeps.Proofs.Store.Same
import ScriptDeps.Proofs.Store.Within

namespace ScriptDeps.Manifest

open Store (Same Agree Within EndsAlike)

variable {s s' a : Store} {m : Manifest} {p q dir : Path} {place start : Location}
  {names : List String} {name : String}

/-- The path leads to the file of that name in a place. -/
structure LeadsTo (p : Path) (start place : Location) (name : String) : Prop where
  endsIn : p.EndsIn name
  descends : ∃ names, p.Descends names
  seenFrom : p.seenFrom start = place ++ [name]

namespace LeadsTo

variable (h : LeadsTo p start place name)

include h

theorem below : place <+: p.seenFrom start := by
  rw [h.seenFrom]
  exact List.prefix_append _ _

theorem ne : p.seenFrom start ≠ place := by
  rw [h.seenFrom]
  simp

theorem not_prefix {other : String} (hq : LeadsTo q start place other) (hne : name ≠ other) :
    ¬ p.seenFrom start <+: q.seenFrom start := by
  rw [h.seenFrom, hq.seenFrom, List.prefix_append_right_inj, List.cons_prefix_cons]
  exact fun hc => hne hc.1

end LeadsTo

/-- A child of a directory that spells names. -/
theorem leadsTo_child (hd : dir.Descends names) (hname : IsName name) (start : Location) :
    LeadsTo (dir.child name) start (dir.seenFrom start) name :=
  ⟨Path.endsIn_child dir hname, ⟨_, hd.child hname⟩, Path.seenFrom_child start dir hname⟩

/-- The draft of a child is in the same place. -/
theorem leadsTo_draft (hd : dir.Descends names) (hname : IsName name)
    (hdraft : IsName (name ++ ".tmp")) (start : Location) :
    LeadsTo (draftPath (dir.child name)) start (dir.seenFrom start) (name ++ ".tmp") := by
  rw [draftPath_child dir hname, ← Path.seenFrom_holder]
  exact leadsTo_child hd.holder hdraft start

theorem ne_draft (name : String) : name ++ ".tmp" ≠ name := by
  intro hc
  have hlength := congrArg String.length hc
  have hfour : ".tmp".length = 4 := rfl
  rw [String.length_append, hfour] at hlength
  omega

theorem LeadsTo.congr {start' : Location} (h : LeadsTo p start place name)
    (hstart : start' = start) : LeadsTo p start' place name :=
  hstart ▸ h

/-! ### One store -/

theorem within_rename (hs : s.IsTree) {content : ByteArray} {runnable : Bool} {other : String}
    (hp : LeadsTo p s.cwd place name) (hq : LeadsTo q s.cwd place other)
    (hfile : s.lookup p = .ok (.file content runnable)) (h : s.rename p q = .ok s') :
    Within s s' place := by
  obtain ⟨hcwd, htree, hnodes⟩ := Store.node?_rename hs hfile h
  have hfrozen : s'.frozen = s.frozen := by
    obtain ⟨loc, hloc, hnode⟩ := Store.locate_of_lookup hfile
    obtain ⟨target, -, ⟨-, rfl⟩ | ⟨-, -, rfl⟩⟩ := Store.rename_file hloc hnode h
    · rfl
    · rfl
  refine .of_others htree hcwd hfrozen fun l hl => ?_
  rw [hnodes, if_neg, if_neg]
  · rintro rfl
    exact hl ⟨hp.below, hp.ne⟩
  · rintro rfl
    exact hl ⟨hq.below, hq.ne⟩

/-- However far the draft is written and moved. -/
theorem within_saving (hs : s.IsTree) {draft : String} (hp : LeadsTo p s.cwd place name)
    (hd : LeadsTo (draftPath p) s.cwd place draft) : Within s (s.perform (m.saving p)).1 place := by
  have hwrite : ∀ {mid next : Store} {content : ByteArray}, Within s mid place →
      mid.write (draftPath p) content = .ok next → Within s next place := by
    intro mid next content hmid hnext
    have hd := hd.congr hmid.cwd
    exact hmid.trans (Store.within_write hmid.tree hd.below hd.ne hnext)
  rw [saving, Store.perform]
  split
  · rename_i created hcreate
    have hcreated := hwrite (.refl hs place) hcreate
    rw [Store.perform]
    split
    · rename_i filled hfill
      have hfilled := hwrite hcreated hfill
      rw [Store.perform]
      split
      · rename_i final hmove
        obtain ⟨_, _, hputs⟩ := Store.puts_write hfill
        exact hfilled.trans (within_rename hfilled.tree (hd.congr hfilled.cwd)
          (hp.congr hfilled.cwd) hputs.lookup hmove)
      · exact hfilled
    · exact hcreated
  · exact .refl hs place

theorem save_eq (hdir : p.parent? = some dir) (s : Store) (m : Manifest) :
    m.save s p = Store.thenPerform (s.makeDirs dir.ancestors) (m.saving p) := by
  rw [← Store.ensureDirs_eq, save, saveEffects, hdir]
  simp only
  cases s.ensureDirs dir with
  | error fault => rfl
  | ok dirs => rfl

/-- **A save stays within the place of the manifest**, however far it gets. -/
theorem within_save (hs : s.IsTree) (hd : dir.Descends names) (hname : IsName name)
    (hdraft : IsName (name ++ ".tmp")) :
    Within s (m.save s (dir.child name)).1 (dir.seenFrom s.cwd) := by
  have hmade := Store.within_makeDirs hs hd.holder
  rw [Path.seenFrom_holder] at hmade
  rw [save_eq (Path.parent?_child dir hname), Store.thenPerform]
  split
  · have hchild := (leadsTo_child hd hname s.cwd).congr hmade.cwd
    have hbeside := (leadsTo_draft hd hname hdraft s.cwd).congr hmade.cwd
    exact hmade.trans (within_saving hmade.tree hchild hbeside)
  · exact hmade

/-! ### Two stores -/

/-- Two pieces of work came to the same result, and left stores that are related. -/
structure Paired (R : Store → Store → Prop) (x y : Store × Except Fault Unit) : Prop where
  result : y.2 = x.2
  after : R x.1 y.1

/-- Effects that begin alike, and go on alike if they go on. -/
theorem paired_perform_cons {e : Effect} {effects : List Effect} (h : Same place a s)
    (hfirst : EndsAlike place (e.run a) (e.run s))
    (hrest : ∀ {a' s'}, e.run a = .ok a' → Same place a' s' →
      Paired (Same place) (a'.perform effects) (s'.perform effects)) :
    Paired (Same place) (a.perform (e :: effects)) (s.perform (e :: effects)) := by
  rw [Store.perform, Store.perform]
  cases hx : e.run a with
  | ok a' =>
      rw [hx] at hfirst
      cases hy : e.run s with
      | ok s' =>
          rw [hy] at hfirst
          cases hfirst with
          | done hsame => exact hrest hx hsame
      | error fault =>
          rw [hy] at hfirst
          cases hfirst
  | error fault =>
      rw [hx] at hfirst
      cases hy : e.run s with
      | ok s' =>
          rw [hy] at hfirst
          cases hfirst
      | error fault' =>
          rw [hy] at hfirst
          cases hfirst
          exact ⟨rfl, h⟩

theorem paired_saving (h : Same place a s) {draft : String} (hp : LeadsTo p a.cwd place name)
    (hd : LeadsTo (draftPath p) a.cwd place draft) (hne : draft ≠ name) :
    Paired (Same place) (a.perform (m.saving p)) (s.perform (m.saving p)) := by
  obtain ⟨names, hpNames⟩ := hp.descends
  obtain ⟨names', hdNames⟩ := hd.descends
  refine paired_perform_cons h (h.write hdNames hd.below hd.ne _) fun {a₁ s₁} hcreate h₁ => ?_
  obtain ⟨_, _, hcreated⟩ := Store.puts_write hcreate
  have hd₁ := hd.congr hcreated.sets.cwd
  refine paired_perform_cons h₁ (h₁.write hdNames hd₁.below hd₁.ne _) fun {a₂ s₂} hfill h₂ => ?_
  obtain ⟨_, _, hfilled⟩ := Store.puts_write hfill
  have hd₂ := hd₁.congr hfilled.sets.cwd
  have hp₂ := hp.congr (hfilled.sets.cwd.trans hcreated.sets.cwd)
  refine paired_perform_cons h₂ ?_ fun _ h₃ => ⟨rfl, h₃⟩
  exact h₂.rename hd₂.endsIn hp₂.endsIn hdNames hpNames hd₂.below hp₂.below hd₂.ne hp₂.ne
    (hd₂.not_prefix hp₂ hne) (hp₂.not_prefix hd₂ hne.symm) hfilled.lookup

theorem length_le_pieces (hd : dir.Descends names) : names.length ≤ dir.pieces.length := by
  have hlength := List.length_filter_le (fun piece => !Path.isIdle piece) dir.pieces
  rw [hd.pieces, List.length_map] at hlength
  exact hlength

/-- **A save in a place comes to the same in both stores.** -/
theorem paired_save (h : Agree start names a s) (hd : dir.Descends names)
    (hbase : dir.base a.cwd = start) (hname : IsName name) (hdraft : IsName (name ++ ".tmp")) :
    Paired (Agree start names) (m.save a (dir.child name)) (m.save s (dir.child name)) := by
  have hholder : dir.holder.base a.cwd = start :=
    (Path.base_congr (Path.isAbsolute_holder dir) _).trans hbase
  have hmade := h.makeDirs hd.holder hholder (List.prefix_refl _)
    (fun _ hne => absurd rfl hne) (length_le_pieces hd.holder)
  have hcwd := (Store.extends_makeDirs h.tree dir.holder.ancestors).1.cwd
  rw [save_eq (Path.parent?_child dir hname), save_eq (Path.parent?_child dir hname)]
  obtain ⟨x, hx⟩ : ∃ x, a.makeDirs dir.holder.ancestors = x := ⟨_, rfl⟩
  obtain ⟨y, hy⟩ : ∃ y, s.makeDirs dir.holder.ancestors = y := ⟨_, rfl⟩
  rw [Path.ancestors] at hcwd hx hy
  rw [hx, hy] at hmade
  rw [hx] at hcwd
  rw [Path.ancestors, hx, hy]
  obtain ⟨a', result⟩ := x
  obtain ⟨s', result'⟩ := y
  obtain rfl : result' = result := hmade.result
  cases result' with
  | error fault => exact ⟨rfl, hmade.agree⟩
  | ok done =>
      have hplace : dir.seenFrom a'.cwd = start ++ names := by
        rw [hcwd, hd.seenFrom, hbase]
      have hsaved := paired_saving (m := m) (hmade.agree.same (hmade.there rfl))
        (hplace ▸ leadsTo_child hd hname a'.cwd) (hplace ▸ leadsTo_draft hd hname hdraft a'.cwd)
        (ne_draft name)
      exact ⟨hsaved.result, hsaved.after.agree⟩

/-! ### A directory in the way -/

/-- A draft is not moved over a directory. -/
theorem free_of_saving (hne : p.seenFrom s.cwd ≠ (draftPath p).seenFrom s.cwd)
    (h : s.perform (m.saving p) = (s', .ok ())) :
    s.node? (p.seenFrom s.cwd) ≠ some .directory := by
  intro hdir
  obtain ⟨created, filled, hcreate, hfill, hmove⟩ := exists_of_saving h
  obtain ⟨draft, _, hcreated⟩ := Store.puts_write hcreate
  obtain ⟨_, _, hfilled⟩ := Store.puts_write hfill
  have hkeeps : Store.KeepsDirs s filled := hcreated.keepsDirs.trans hfilled.keepsDirs
  obtain ⟨draft', hdraft, hfile⟩ := Store.locate_of_lookup hfilled.lookup
  obtain ⟨target, htarget, ⟨rfl, -⟩ | ⟨hfree, -⟩⟩ := Store.rename_file hdraft hfile hmove
  · rw [← hkeeps.cwd, ← Store.locate_seenFrom hdraft, ← Store.locate_seenFrom htarget] at hne
    exact hne rfl
  · rw [Store.locate_seenFrom htarget, hkeeps.cwd] at hfree
    exact hfree (hkeeps.node? _ hdir)

/-- Where a manifest was saved there was no directory. -/
theorem free_of_save (hs : s.IsTree) (hne : p.seenFrom s.cwd ≠ (draftPath p).seenFrom s.cwd)
    (h : (m.save s p).2 = .ok ()) : s.node? (p.seenFrom s.cwd) ≠ some .directory := by
  obtain ⟨made, hmade, -, -, hsaving | ⟨fault, hfault⟩⟩ := exists_made_of_save hs m p
  · intro hdir
    rw [← hmade.cwd] at hne
    rw [hsaving] at h
    refine free_of_saving hne (Prod.ext rfl h) ?_
    rw [hmade.cwd]
    exact hmade.node? _ _ hdir
  · rw [hfault] at h
    contradiction

end ScriptDeps.Manifest
