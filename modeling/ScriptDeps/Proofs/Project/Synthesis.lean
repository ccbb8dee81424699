/-
Synthesizing a project, change by change.

A synthesis reads the scripts first.  If one of them cannot be read it ends there, and nothing
has changed.  Behind that come the changes that `changes` lists: directories on the way to the
project, the draft of the manifest, and the move of the draft to its place.

Wherever a synthesis stops, it has touched no more than the place of the manifest and that of
the draft, and some directories on the way are new.  All changes but the last leave the place
of the manifest alone, and the last puts the whole new text there.
-/
import ScriptDeps.Proofs.Needs
import ScriptDeps.Proofs.Project.Apart

namespace ScriptDeps

open Layout (ofProjectDir)
open Needs (Readable)
open ScriptGraph (Reached)
open Traversal (map_eq_ok_iff)

namespace Store

variable {s t t' : Store} {effects : List Effect} {e : Effect} {p q dir : Path}
  {places : List Location} {loc : Location} {content : ByteArray} {runnable : Bool}

/-! ### Changes in a row -/

/-- What each change keeps holds at every stage. -/
theorem forall_stages {P : Store → Prop} (hs : P s)
    (hstep : ∀ e ∈ effects, ∀ t t', P t → e.run t = .ok t' → P t') :
    ∀ t ∈ s.stages effects, P t := by
  induction effects generalizing s with
  | nil =>
      intro t ht
      exact List.mem_singleton.mp ht ▸ hs
  | cons e effects ih =>
      intro t ht
      rw [stages] at ht
      cases hrun : e.run s with
      | error fault =>
          rw [hrun] at ht
          exact List.mem_singleton.mp ht ▸ hs
      | ok next =>
          rw [hrun] at ht
          rcases List.mem_cons.mp ht with rfl | ht
          · exact hs
          · have hnext := hstep e List.mem_cons_self s next hs hrun
            exact ih hnext (fun e he => hstep e (List.mem_cons_of_mem _ he)) t ht

/-- The last stage is what the changes leave. -/
theorem perform_mem_stages (s : Store) (effects : List Effect) :
    (s.perform effects).1 ∈ s.stages effects := by
  induction effects generalizing s with
  | nil => exact List.mem_singleton_self s
  | cons e effects ih =>
      rw [perform, stages]
      cases e.run s with
      | error fault => exact List.mem_singleton_self s
      | ok next => exact List.mem_cons_of_mem s (ih next)

theorem mem_stages_concat (h : t ∈ s.stages (effects ++ [e])) :
    t ∈ s.stages effects ∨
      ∃ mid, s.perform effects = (mid, .ok ()) ∧ e.run mid = .ok t := by
  induction effects generalizing s with
  | nil =>
      rw [List.nil_append, stages] at h
      cases hrun : e.run s with
      | error fault =>
          rw [hrun] at h
          exact .inl h
      | ok next =>
          rw [hrun] at h
          rcases List.mem_cons.mp h with rfl | h
          · exact .inl (List.mem_singleton_self t)
          · exact .inr ⟨s, rfl, List.mem_singleton.mp h ▸ hrun⟩
  | cons first effects ih =>
      rw [List.cons_append, stages] at h
      rw [stages, perform]
      cases hrun : first.run s with
      | error fault =>
          rw [hrun] at h
          exact .inl h
      | ok next =>
          rw [hrun] at h
          rcases List.mem_cons.mp h with rfl | h
          · exact .inl List.mem_cons_self
          · exact (ih h).imp_left (List.mem_cons_of_mem s)

theorem perform_concat_ok (h : s.perform (effects ++ [e]) = (t, .ok ())) :
    ∃ mid, s.perform effects = (mid, .ok ()) ∧ e.run mid = .ok t := by
  rw [perform_append] at h
  cases hresult : (s.perform effects).2 with
  | error fault =>
      rw [hresult] at h
      exact absurd (hresult.symm.trans (congrArg Prod.snd h)) (by simp)
  | ok done =>
      rw [hresult] at h
      obtain ⟨last, hrun, hlast⟩ := perform_cons_ok h
      obtain rfl : last = t := congrArg Prod.fst hlast
      exact ⟨_, Prod.ext rfl hresult, hrun⟩

/-! ### What files hold -/

/-- What the file at a location holds. -/
def contentAt? (s : Store) (loc : Location) : Option ByteArray :=
  (s.node? loc).bind Node.content?

theorem read_eq_ok_iff :
    s.read p = .ok content ↔ ∃ loc, s.locate p = .ok loc ∧ s.contentAt? loc = some content := by
  simp only [read_eq_ok_iff_lookup, lookup_eq_ok_iff]
  rw [exists_comm]
  refine exists_congr fun loc => ?_
  rw [exists_and_left, contentAt?]
  refine and_congr_right fun _ => ?_
  cases s.node? loc with
  | none => simp
  | some node => cases node <;> simp [Node.content?]

/-! ### Changes around a project -/

/-- Some places were touched and directories made on the way to a path, and nothing else has
changed. -/
structure Around (dir : Path) (places : List Location) (s t : Store) : Prop where
  frozen : t.frozen = s.frozen
  tree : t.IsTree
  keeps : s.KeepsDirs t
  others : ∀ loc, loc ∉ places → t.node? loc = s.node? loc ∨
    s.node? loc = none ∧ t.node? loc = some .directory ∧
      ∃ q : Path, q.IsBefore dir ∧ loc = q.seenFrom s.cwd

namespace Around

theorem refl (hs : s.IsTree) : Around dir places s s :=
  ⟨rfl, hs, .refl s, fun _ _ => .inl rfl⟩

theorem mono {more : List Location} (h : Around dir places s t) (hsub : places ⊆ more) :
    Around dir more s t :=
  ⟨h.frozen, h.tree, h.keeps, fun loc hloc => h.others loc fun hc => hloc (hsub hc)⟩

theorem ensureDir (h : Around dir places s t) (hq : q.IsBefore dir)
    (hrun : (Effect.ensureDir q).run t = .ok t') : Around dir places s t' := by
  obtain ⟨above, habove⟩ := exists_ancestors q
  have hadds : t.Adds t' q := adds_ensureDir h.tree (habove ▸ List.mem_cons_self) hrun
  refine ⟨hadds.frozen.trans h.frozen, hadds.tree, h.keeps.trans hadds.extends.keepsDirs, ?_⟩
  intro loc hloc
  -- what is new now was not there before either, since nothing goes away
  rcases hadds.node? loc with hsame | ⟨hnone, hmade, r, hr, hway⟩
  · rw [hsame]
    exact h.others loc hloc
  · rcases h.others loc hloc with hold | ⟨-, hnew, -⟩
    · refine .inr ⟨hold ▸ hnone, hmade, r, (Path.isBefore_of_mem_ancestors hr).trans hq, ?_⟩
      rw [hway, h.keeps.cwd]
    · rw [hnew] at hnone
      contradiction

theorem write (h : Around dir places s t) (hp : p.seenFrom s.cwd ∈ places)
    (hwrite : t.write p content = .ok t') : Around dir places s t' := by
  obtain ⟨loc, runnable, hputs⟩ := puts_write hwrite
  have hloc : loc = p.seenFrom s.cwd := h.keeps.cwd ▸ locate_seenFrom hputs.locate
  refine ⟨(Manifest.frozen_write hwrite).trans h.frozen, hputs.isTree h.tree,
    h.keeps.trans hputs.keepsDirs, fun l hl => ?_⟩
  have hne : l ≠ loc := fun hc => hl (hc ▸ hloc ▸ hp)
  rw [hputs.sets.node?, if_neg hne]
  exact h.others l hl

/-- A file is moved from one of the places to another. -/
theorem rename (h : Around dir places s t) (hp : p.seenFrom s.cwd ∈ places)
    (hq : q.seenFrom s.cwd ∈ places) (hpq : p.seenFrom s.cwd ≠ q.seenFrom s.cwd)
    (hfile : t.lookup p = .ok (.file content runnable)) (hmove : t.rename p q = .ok t') :
    Around dir places s t' ∧ t'.lookup q = .ok (.file content runnable) ∧
      t'.node? (p.seenFrom s.cwd) = none := by
  have hfrozen : t'.frozen = t.frozen := by
    obtain ⟨loc, hloc, hnode⟩ := locate_of_lookup hfile
    obtain ⟨target, -, ⟨-, rfl⟩ | ⟨-, -, rfl⟩⟩ := rename_file hloc hnode hmove <;> rfl
  obtain ⟨loc, target, mid, hloc, hfree, hclears, hputs⟩ := moves_rename h.tree hfile hmove
  have hplace : loc = p.seenFrom s.cwd := h.keeps.cwd ▸ locate_seenFrom hloc
  have htarget : target = q.seenFrom s.cwd := by
    rw [locate_seenFrom hputs.locate, hclears.cwd, h.keeps.cwd]
  have hmid := hclears.keepsDirs hfree
  refine ⟨⟨hfrozen.trans h.frozen, hputs.isTree (hclears.isTree h.tree hfree),
    h.keeps.trans (hmid.trans hputs.keepsDirs), fun l hl => ?_⟩, hputs.lookup, ?_⟩
  · have hne : l ≠ target := fun hc => hl (hc ▸ htarget ▸ hq)
    have hne' : l ≠ loc := fun hc => hl (hc ▸ hplace ▸ hp)
    rw [hputs.sets.node?, if_neg hne, hclears.node?, if_neg hne']
    exact h.others l hl
  · have hne : loc ≠ target := fun hc => hpq (hplace ▸ htarget ▸ hc)
    rw [← hplace, hputs.sets.node?, if_neg hne, hclears.node?, if_pos rfl]

/-- A new directory holds nothing that a file could hold. -/
theorem contentAt?_eq (h : Around dir places s t) (hloc : loc ∉ places) :
    t.contentAt? loc = s.contentAt? loc := by
  unfold contentAt?
  rcases h.others loc hloc with hsame | ⟨hnone, hmade, -⟩
  · rw [hsame]
  · rw [hnone, hmade]
    rfl

end Around

end Store

/-! ### Old or new -/

/-- The place of a manifest holds what it held before, or the whole text of the manifest. -/
structure Manifest.OldOrNew (m : Manifest) (p : Path) (s t : Store) : Prop where
  place : t.contentAt? (p.seenFrom s.cwd) = s.contentAt? (p.seenFrom s.cwd) ∨
    t.contentAt? (p.seenFrom s.cwd) = some m.render.toUTF8
  /-- What could be read can be read. -/
  still : ∀ old, s.read p = .ok old → t.read p = .ok old ∨ t.read p = .ok m.render.toUTF8
  /-- Nothing else is read. -/
  only : ∀ content, t.read p = .ok content →
    s.contentAt? (p.seenFrom s.cwd) = some content ∨ content = m.render.toUTF8

theorem Manifest.oldOrNew_of_place {m : Manifest} {p : Path} {s t : Store} (hkeeps : s.KeepsDirs t)
    (h : t.contentAt? (p.seenFrom s.cwd) = s.contentAt? (p.seenFrom s.cwd) ∨
      t.contentAt? (p.seenFrom s.cwd) = some m.render.toUTF8) : m.OldOrNew p s t := by
  refine ⟨h, fun old hold => ?_, fun content hcontent => ?_⟩
  · obtain ⟨loc, hloc, hthere⟩ := Store.read_eq_ok_iff.mp hold
    have hlocate := hkeeps.locate hloc
    rw [← Store.locate_seenFrom hloc] at h
    rcases h with hsame | hnew
    · exact .inl (Store.read_eq_ok_iff.mpr ⟨loc, hlocate, hsame.trans hthere⟩)
    · exact .inr (Store.read_eq_ok_iff.mpr ⟨loc, hlocate, hnew⟩)
  · obtain ⟨loc, hloc, hthere⟩ := Store.read_eq_ok_iff.mp hcontent
    rw [Store.locate_seenFrom hloc, hkeeps.cwd] at hthere
    rcases h with hsame | hnew
    · exact .inl (hsame.symm.trans hthere)
    · exact .inr (Option.some.inj (hthere.symm.trans hnew))

namespace Project

variable {env : Environment} {entry dir p : Path} {project : Project} {m after : Machine}
  {s t : Store} {failure : Failure} {fault : Fault}

/-! ### The changes of a synthesis -/

/-- The changes that synthesizing a planned project makes, as far as each of them goes well.  What
the save needs is found out once the project directory is there. -/
def changing (project : Project) (s : Store) : List Effect :=
  match project.layout.ensuring s with
  | .error _ => []
  | .ok dirs =>
    match project.manifest.saveEffects (s.perform dirs).1 project.layout.manifest with
    | .error _ => dirs
    | .ok more => dirs ++ more

/-- The changes that a synthesis makes, none if there is no plan. -/
def changes (env : Environment) (s : Store) (entry : Path) : List Effect :=
  match plan env s entry with
  | .error _ => []
  | .ok project => project.changing s

theorem exists_ensured {q : Path} (hq : q.IsBefore dir) {effects : List Effect}
    (h : s.ensureDirs q = .ok effects) :
    ∃ dirs : List Path, effects = dirs.map .ensureDir ∧ ∀ r ∈ dirs, r.IsBefore dir := by
  obtain ⟨dirs, hdirs, rfl⟩ := map_eq_ok_iff.mp h
  refine ⟨dirs, rfl, fun r hr => ?_⟩
  exact (Path.isBefore_of_mem_ancestors (Store.mem_of_mem_missingDirs hdirs hr)).trans hq

theorem saveEffects_manifest (m : Manifest) (s : Store) (dir : Path) :
    m.saveEffects s (ofProjectDir dir).manifest =
      (s.ensureDirs dir.holder).map (· ++ m.saving (ofProjectDir dir).manifest) := by
  unfold Manifest.saveEffects
  rw [Layout.parent?_manifest]
  show (s.ensureDirs dir.holder >>= fun dirs => _) = _
  cases s.ensureDirs dir.holder <;> rfl

/-- The draft is written, and then it is moved. -/
theorem saving_eq (m : Manifest) (p : Path) :
    m.saving p = [.create (Manifest.draftPath p),
      .fill (Manifest.draftPath p) m.render.toUTF8] ++ [.move (Manifest.draftPath p) p] := rfl

/-- The changes are directories on the way and then those that save the manifest.  If it does not
come to the save, it ends with a fault. -/
theorem exists_changing (hlayout : project.layout = ofProjectDir dir) (s : Store) :
    ∃ dirs : List Path, (∀ q ∈ dirs, q.IsBefore dir) ∧
      ((project.changing s = dirs.map .ensureDir ++
            project.manifest.saving (ofProjectDir dir).manifest ∧
          synthesizing project s = s.perform (project.changing s)) ∨
        (project.changing s = dirs.map .ensureDir ∧ ∃ fault,
          synthesizing project s = ((s.perform (project.changing s)).1, .error fault))) := by
  unfold synthesizing changing Layout.ensure Layout.ensuring Manifest.save
  rw [hlayout]
  cases hensure : s.ensureDirs (ofProjectDir dir).projectDir with
  | error fault => exact ⟨[], by simp, .inr ⟨rfl, fault, rfl⟩⟩
  | ok effects =>
      obtain ⟨dirs, rfl, hdirs⟩ := exists_ensured (.refl dir) hensure
      simp only [saveEffects_manifest]
      -- the save looks for its directories where those of the project were made
      cases hmade : s.perform (dirs.map .ensureDir) with
      | mk made result =>
          cases hmore : made.ensureDirs dir.holder with
          | error other =>
              refine ⟨dirs, hdirs, .inr ⟨by simp [Except.map], ?_⟩⟩
              cases result with
              | error fault => exact ⟨fault, by simp [hmade, Except.map]⟩
              | ok done => exact ⟨other, by simp [hmore, hmade, Except.map]⟩
          | ok effects =>
              obtain ⟨more, rfl, hways⟩ := exists_ensured (Path.isBefore_holder dir) hmore
              refine ⟨dirs ++ more, fun q hq => ?_, .inl ⟨?_, ?_⟩⟩
              · exact (List.mem_append.mp hq).elim (hdirs q) (hways q)
              · simp [Except.map]
              · simp only [Except.map, Store.perform_append, hmade]
                cases result with
                | error fault => rfl
                | ok done =>
                    simp only [hmore]
                    exact Store.perform_append made _ _

/-! ### Every stage -/

/-- What a synthesis has done so far: it has touched two places at most, made directories on the
way, and the place of the manifest holds what it did before or all that it is to hold. -/
structure Underway (project : Project) (s t : Store) : Prop where
  around : s.Around project.layout.projectDir [project.layout.manifest.seenFrom s.cwd,
    (Manifest.draftPath project.layout.manifest).seenFrom s.cwd] t
  oldOrNew : project.manifest.OldOrNew project.layout.manifest s t

/-- What a synthesis that went well has done. -/
structure Synthesized (project : Project) (s t : Store) : Prop extends Underway project s t where
  manifest : t.readText project.layout.manifest = .ok project.manifest.render
  noDraft : t.exists? (Manifest.draftPath project.layout.manifest) = false
  directory : t.node? (project.layout.projectDir.seenFrom s.cwd) = some .directory
  /-- The path leads to the directory, unless it is empty, which leads nowhere. -/
  isDir : project.layout.projectDir.chars ≠ [] → t.isDir project.layout.projectDir = true

section Changing

variable {dirs : List Path} {draft : Path} {content : ByteArray} {effects : List Effect}

/-- Directories on the way and writing the draft leave all other places alone. -/
theorem around_of_mem_stages (hs : s.IsTree)
    (heffects : ∀ e ∈ effects, (∃ q : Path, q.IsBefore dir ∧ e = .ensureDir q) ∨
      e = .create draft ∨ ∃ content, e = .fill draft content) :
    ∀ t ∈ s.stages effects, s.Around dir [draft.seenFrom s.cwd] t := by
  refine Store.forall_stages (.refl hs) fun e he t t' ht hrun => ?_
  rcases heffects e he with ⟨q, hq, rfl⟩ | rfl | ⟨content, rfl⟩
  · exact ht.ensureDir hq hrun
  · exact ht.write List.mem_cons_self hrun
  · exact ht.write List.mem_cons_self hrun

/-- The changes before the move. -/
theorem around_before_move (hs : s.IsTree) (hdirs : ∀ q ∈ dirs, q.IsBefore dir) :
    ∀ t ∈ s.stages (dirs.map .ensureDir ++ [.create draft, .fill draft content]),
      s.Around dir [draft.seenFrom s.cwd] t := by
  refine around_of_mem_stages hs fun e he => ?_
  rcases List.mem_append.mp he with he | he
  · obtain ⟨q, hq, rfl⟩ := List.mem_map.mp he
    exact .inl ⟨q, hdirs q hq, rfl⟩
  · exact .inr ((List.mem_pair.mp he).imp_right fun hfill => ⟨content, hfill⟩)

/-- What the move does behind them. -/
theorem around_move {mid : Store} (hs : s.IsTree) (hdirs : ∀ q ∈ dirs, q.IsBefore dir)
    (hne : p.seenFrom s.cwd ≠ draft.seenFrom s.cwd)
    (hmid : s.perform (dirs.map .ensureDir ++ [.create draft, .fill draft content]) =
      (mid, .ok ()))
    (hmove : (Effect.move draft p).run mid = .ok t) :
    s.Around dir [p.seenFrom s.cwd, draft.seenFrom s.cwd] t ∧
      (∃ runnable, t.lookup p = .ok (.file content runnable)) ∧
      t.node? (draft.seenFrom s.cwd) = none := by
  have hmem := Store.perform_mem_stages s
    (dirs.map .ensureDir ++ [.create draft, .fill draft content])
  rw [hmid] at hmem
  have haround := around_before_move hs hdirs mid hmem
  -- the draft holds all of the text once it is filled
  rw [List.append_cons] at hmid
  obtain ⟨created, -, hfilled⟩ := Store.perform_concat_ok hmid
  obtain ⟨loc, runnable, hputs⟩ := Store.puts_write hfilled
  have htouched : s.Around dir [p.seenFrom s.cwd, draft.seenFrom s.cwd] mid :=
    haround.mono (List.subset_cons_self _ _)
  obtain ⟨hmoved, hlookup, hgone⟩ :=
    htouched.rename (by simp) (by simp) hne.symm hputs.lookup hmove
  exact ⟨hmoved, ⟨runnable, hlookup⟩, hgone⟩

end Changing

section Places

variable (hlayout : project.layout = ofProjectDir dir)

include hlayout

theorem manifest_ne_draft (start : Location) :
    project.layout.manifest.seenFrom start ≠
      (Manifest.draftPath project.layout.manifest).seenFrom start := by
  rw [hlayout, Layout.seenFrom_manifest, Layout.seenFrom_draft]
  exact ne_beside _ (by decide)

/-- As long as only the draft was touched, the manifest is the old one. -/
theorem underway_of_around
    (h : s.Around dir [(Manifest.draftPath project.layout.manifest).seenFrom s.cwd] t) :
    project.Underway s t := by
  have hne := manifest_ne_draft hlayout s.cwd
  refine ⟨?_, Manifest.oldOrNew_of_place h.keeps (.inl (h.contentAt?_eq (by simpa using hne)))⟩
  have hdir : project.layout.projectDir = dir := by rw [hlayout]; rfl
  rw [hdir]
  exact h.mono (List.subset_cons_self _ _)

/-- What is left once the draft was moved. -/
theorem synthesized_of_around
    (haround : s.Around dir [project.layout.manifest.seenFrom s.cwd,
      (Manifest.draftPath project.layout.manifest).seenFrom s.cwd] t)
    (hfile : ∃ runnable, t.lookup project.layout.manifest =
      .ok (.file project.manifest.render.toUTF8 runnable))
    (hgone : t.node? ((Manifest.draftPath project.layout.manifest).seenFrom s.cwd) = none) :
    project.Synthesized s t := by
  obtain ⟨runnable, hlookup⟩ := hfile
  obtain ⟨loc, hloc, hnode⟩ := Store.locate_of_lookup hlookup
  have hdir : project.layout.projectDir = dir := by rw [hlayout]; rfl
  have hcwd := haround.keeps.cwd
  have hcontent : t.contentAt? loc = some project.manifest.render.toUTF8 := by
    unfold Store.contentAt?
    rw [hnode]
    rfl
  have hread := Store.read_eq_ok_iff.mpr ⟨loc, hloc, hcontent⟩
  have hplace : loc = project.layout.manifest.seenFrom s.cwd := by
    rw [Store.locate_seenFrom hloc, hcwd]
  have hchild : project.layout.manifest = dir.child "script.csproj" := by rw [hlayout]; rfl
  refine ⟨⟨hdir ▸ haround, Manifest.oldOrNew_of_place haround.keeps (.inr (hplace ▸ hcontent))⟩,
    Store.readText_of_read hread, ?_, ?_, fun hne => ?_⟩
  · rw [Store.exists?, Store.lookup]
    cases hdraft : t.locate (Manifest.draftPath project.layout.manifest) with
    | error fault => rfl
    | ok place =>
        rw [← hcwd, ← Store.locate_seenFrom hdraft] at hgone
        simp [bind, Except.bind, hgone, Except.toBool]
  · rw [hchild] at hloc
    obtain ⟨hbefore, hparts⟩ := (Path.IsBefore.refl dir).child Layout.isName_manifest
    rw [hdir, ← hcwd]
    exact Store.node?_of_isBefore hloc hbefore hparts
  · rw [hchild] at hloc
    rw [hdir] at hne ⊢
    obtain ⟨reached, hreached, -, hthere⟩ :=
      Store.locate_above (Path.above_child dir Layout.isName_manifest) hloc hne
    rw [Store.isDir, Store.lookup_of_locate hreached hthere]

/-- **At every stage the place of the manifest holds the old text or the new one**, and nothing
but that place, the draft and directories on the way has changed. -/
theorem underway_of_mem_stages (hs : s.IsTree) :
    ∀ t ∈ s.stages (project.changing s), project.Underway s t := by
  intro t ht
  obtain ⟨dirs, hdirs, ⟨hchanging, -⟩ | ⟨hchanging, -⟩⟩ := exists_changing hlayout s
  · rw [hchanging, ← hlayout, saving_eq, ← List.append_assoc] at ht
    rcases Store.mem_stages_concat ht with ht | ⟨mid, hmid, hmove⟩
    · exact underway_of_around hlayout (around_before_move hs hdirs t ht)
    · obtain ⟨haround, hfile, hgone⟩ :=
        around_move hs hdirs (manifest_ne_draft hlayout s.cwd) hmid hmove
      exact (synthesized_of_around hlayout haround hfile hgone).toUnderway
  · rw [hchanging] at ht
    refine underway_of_around hlayout (around_of_mem_stages hs (fun e he => ?_) t ht)
    obtain ⟨q, hq, rfl⟩ := List.mem_map.mp he
    exact .inl ⟨q, hdirs q hq, rfl⟩

theorem synthesized_of_synthesizing (hs : s.IsTree) (h : synthesizing project s = (t, .ok ())) :
    project.Synthesized s t := by
  obtain ⟨dirs, hdirs, ⟨hchanging, heq⟩ | ⟨-, fault, heq⟩⟩ := exists_changing hlayout s
  · rw [heq, hchanging, ← hlayout, saving_eq, ← List.append_assoc] at h
    obtain ⟨mid, hmid, hmove⟩ := Store.perform_concat_ok h
    obtain ⟨haround, hfile, hgone⟩ :=
      around_move hs hdirs (manifest_ne_draft hlayout s.cwd) hmid hmove
    exact synthesized_of_around hlayout haround hfile hgone
  · rw [heq] at h
    exact absurd (congrArg Prod.snd h) (by simp)

theorem synthesizing_fst : (synthesizing project s).1 = (s.perform (project.changing s)).1 := by
  obtain ⟨dirs, -, ⟨-, heq⟩ | ⟨-, fault, heq⟩⟩ := exists_changing hlayout s <;> rw [heq]

end Places

/-! ### Scripts that cannot be read -/

/-- There is a plan if all scripts that loading reaches can be read, and else planning fails with
one that cannot. -/
theorem plan_cases (env : Environment) (s : Store) (entry : Path) :
    ((∀ p, Reached s [entry] p → Readable s p) ∧ ∃ project, plan env s entry = .ok project) ∨
      ∃ p fault, Reached s [entry] p ∧ s.readText p = .error fault ∧
        plan env s entry = .error (.unreadableScript p fault) := by
  have hends : ScriptGraph.Ends s [entry] (ScriptGraph.ofEntries s [entry]) :=
    (ScriptGraph.walking_starts s [entry]).ends
  rw [plan]
  generalize ScriptGraph.ofEntries s [entry] = result at hends
  cases hends with
  | @unreadable p fault hp hfault => exact .inr ⟨p, fault, hp, hfault, rfl⟩
  | @all steps files hfiles =>
      have hneeds : Needs.ofScripts s files = .ok (Needs.addAll s .empty files) :=
        Needs.foldlM_addScript_of_readable hfiles.readable .empty
      refine .inl ⟨fun p hp => hfiles.readable p ((hfiles.mem_iff p).mpr hp), ?_⟩
      simp only [hneeds, bind, Except.bind]
      exact ⟨_, rfl⟩

theorem on_synthesize_of_error (h : plan env m.store entry = .error failure) :
    (synthesize env entry).on m = (.error failure, m) := by
  rw [synthesize, Job.on_bind, Job.on_store]
  show Job.on (liftM (plan env m.store entry) >>= _) m = _
  rw [Job.on_bind, Job.on_liftExcept, h]

/-- **A synthesis changes the manifest or nothing.**  If a script that loading reaches cannot be
read, it fails with such a script and leaves the machine as it was; it does not fail with a script
otherwise.  If it goes well, the project directory is there, the manifest reads as the rendering
of what was planned, there is no draft, and nothing else has changed but that directories on the
way to the project may be new.  At every stage on the way, and so wherever it fails, the place of
the manifest holds its old text or all of the new one, and the frame is the same. -/
theorem synthesize_frames (env : Environment) (entry : Path) (hs : m.store.IsTree) :
    ((∃ p, Reached m.store [entry] p ∧ ¬ Readable m.store p) →
      ∃ p fault, Reached m.store [entry] p ∧ m.store.readText p = .error fault ∧
        (synthesize env entry).on m = (.error (.unreadableScript p fault), m)) ∧
    (∀ p fault after, (synthesize env entry).on m = (.error (.unreadableScript p fault), after) →
      after = m) ∧
    (∀ project after, (synthesize env entry).on m = (.ok project, after) →
      after = { m with store := after.store } ∧ project.Synthesized m.store after.store) ∧
    ((synthesize env entry).on m).2.store =
      (m.store.perform (changes env m.store entry)).1 ∧
    ∀ project, plan env m.store entry = .ok project →
      ∀ t ∈ m.store.stages (changes env m.store entry), project.Underway m.store t := by
  rcases plan_cases env m.store entry with
    ⟨hreadable, project, hplan⟩ | ⟨p, fault, hp, hfault, hplan⟩
  · have hlayout := layout_eq hplan
    have hchanges : changes env m.store entry = project.changing m.store := by
      rw [changes, hplan]
    rw [on_synthesize_eq hplan, hchanges]
    refine ⟨fun ⟨p, hp, hfails⟩ => absurd (hreadable p hp) hfails, fun p fault after h => ?_,
      fun found after h => ?_, synthesizing_fst hlayout, fun found hfound => ?_⟩
    · -- a change fails with a fault of the disk
      cases hresult : (synthesizing project m.store).2 <;> simp [hresult, Except.mapError,
        Except.map] at h
    · cases hresult : (synthesizing project m.store).2 with
      | error fault => simp [hresult, Except.mapError, Except.map] at h
      | ok done =>
          simp only [hresult, Except.mapError, Except.map, Prod.mk.injEq, Except.ok.injEq] at h
          obtain ⟨rfl, rfl⟩ := h
          exact ⟨rfl, synthesized_of_synthesizing hlayout hs (Prod.ext rfl hresult)⟩
    · obtain rfl : project = found := Except.ok.inj (hplan.symm.trans hfound)
      exact underway_of_mem_stages hlayout hs
  · have hchanges : changes env m.store entry = [] := by rw [changes, hplan]
    rw [on_synthesize_of_error hplan, hchanges]
    refine ⟨fun _ => ⟨p, fault, hp, hfault, rfl⟩, fun q other after h => ?_,
      fun found after h => ?_, rfl, fun found hfound => ?_⟩
    · exact (congrArg Prod.snd h).symm
    · exact absurd (congrArg Prod.fst h) (by simp)
    · rw [hplan] at hfound
      contradiction

theorem synthesize_frames_oneScript :
    oneScript.store.IsTree ∧ oneProject.Synthesized oneScript.store oneSynthesized.store ∧
      ∀ t ∈ oneScript.store.stages (changes oneEnvironment oneScript.store oneEntry),
        oneProject.Underway oneScript.store t := by
  have hplan := (on_synthesize_ok_iff.mp on_synthesize_oneScript).1
  obtain ⟨-, -, hdone, -, hstages⟩ :=
    synthesize_frames oneEnvironment oneEntry isTree_oneScript
  exact ⟨isTree_oneScript, (hdone oneProject oneSynthesized on_synthesize_oneScript).2,
    hstages oneProject hplan⟩

end Project

end ScriptDeps
