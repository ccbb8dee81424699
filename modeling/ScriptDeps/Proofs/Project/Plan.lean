/-
A plan hangs on its scripts alone.

What a project is to be is read from its scripts.  Where those stay as they are, changes
elsewhere do not change the plan.  The manifest of a plan is proper, since it is put together
by adding one reference after the other.
-/
import ScriptDeps.Project
import ScriptDeps.Proofs.Manifest.Members
import ScriptDeps.Proofs.ScriptGraph.Order
import ScriptDeps.Proofs.Store.Change

namespace ScriptDeps

open Store (pathOf)
open Traversal (bind_eq_ok_iff foldlM_cons_eq_ok_iff)

variable {s s' : Store} {place : Location}

/-! ### What stands outside of a place -/

/-- All that stood outside of a place stands there still. -/
structure Store.KeepsOutside (s s' : Store) (place : Location) : Prop where
  cwd : s'.cwd = s.cwd
  node? : ∀ loc node, ¬ place <+: loc → s.node? loc = some node → s'.node? loc = some node

namespace Store.KeepsOutside

theorem trans {s'' : Store} (h₁ : KeepsOutside s s' place) (h₂ : KeepsOutside s' s'' place) :
    KeepsOutside s s'' place :=
  ⟨h₂.cwd.trans h₁.cwd, fun loc node hloc hnode =>
    h₂.node? loc node hloc (h₁.node? loc node hloc hnode)⟩

/-- Names that lead outside of the place lead there still. -/
theorem foldlM_step_names (h : KeepsOutside s s' place) {names start loc : Location}
    (hnames : ∀ name ∈ names, IsName name) (hout : ¬ place <+: start ++ names)
    (hfold : (names.map String.toList).foldlM s.step start = .ok loc) :
    (names.map String.toList).foldlM s'.step start = .ok loc := by
  induction names generalizing start with
  | nil => exact hfold
  | cons name names ih =>
      obtain ⟨next, hstep, hrest⟩ := foldlM_cons_eq_ok_iff.mp hfold
      have hname := hnames name List.mem_cons_self
      obtain ⟨hdir, hshort, hnext⟩ := (step_name_eq_ok_iff hname).mp hstep
      have hkept : s'.node? start = some .directory :=
        h.node? start _ (fun hc => hout (hc.trans (List.prefix_append _ _))) hdir
      refine foldlM_cons_eq_ok_iff.mpr
        ⟨next, (step_name_eq_ok_iff hname).mpr ⟨hkept, hshort, hnext⟩, ?_⟩
      refine ih (fun other hother => hnames other (List.mem_cons_of_mem _ hother)) ?_ hrest
      rw [hnext, List.append_assoc]
      exact hout

/-- A script outside of the place reads as before. -/
theorem readText (h : KeepsOutside s s' place) {p : Path} (hp : p.IsNormal)
    (hout : ¬ place <+: p.names) {text : String} (hread : s.readText p = .ok text) :
    s'.readText p = .ok text := by
  obtain ⟨names, hnames, rfl⟩ := hp
  rw [Path.names_pathOf hnames] at hout
  obtain ⟨loc, bytes, runnable, hloc, hnode, htext⟩ := ScriptGraph.node_of_readText hread
  obtain rfl := locate_pathOf hnames hloc
  have hfile : s.node? loc ≠ some .directory := by simp [hnode]
  have hne : loc ≠ [] := Store.ne_nil_of_node? hfile
  have hloc' : s'.locate (pathOf loc) = .ok loc := by
    obtain ⟨hchars, hfold⟩ := locate_eq_ok_iff.mp hloc
    refine locate_eq_ok_iff.mpr ⟨hchars, ?_⟩
    have hroot : ∀ s : Store, s.step [] [] = .ok [] := fun _ => rfl
    rw [Path.isAbsolute_pathOf, if_pos rfl, Path.pieces_pathOf hnames hne, List.foldlM_cons,
      hroot] at hfold ⊢
    exact h.foldlM_step_names hnames hout hfold
  have hlookup := lookup_of_locate hloc' (h.node? loc _ hout hnode)
  exact readText_eq_ok_iff.mpr ⟨bytes, runnable, hlookup, htext⟩

end Store.KeepsOutside

/-! ### The graph and the needs -/

namespace ScriptGraph

variable {entries files : List Path}

/-- A listing is the same where its files read the same. -/
theorem Listing.congr {stack seen : List Path} (h : Listing s stack seen files)
    (hread : ∀ p ∈ files, ∀ text, s.readText p = .ok text → s'.readText p = .ok text) :
    Listing s' stack seen files := by
  induction h with
  | done => exact .done
  | skip hp _ ih => exact .skip hp (ih hread)
  | visit hp hsource hrest ih =>
      refine .visit hp (hread _ ?_ _ hsource) (ih hread)
      exact hrest.isPrefix.subset (List.mem_append_right _ List.mem_cons_self)

theorem isNormal_of_ofEntries (h : ofEntries s entries = .ok files) :
    ∀ p ∈ files, p.IsNormal := by
  have hends : Ends s entries (ofEntries s entries) := (walking_starts s entries).ends
  rw [h] at hends
  cases hends with
  | all hwalking => exact fun p hp => hwalking.isNormal (List.mem_append_left _ hp)

theorem ofEntries_congr (hcwd : s'.cwd = s.cwd)
    (hread : ∀ p ∈ files, ∀ text, s.readText p = .ok text → s'.readText p = .ok text)
    (h : ofEntries s entries = .ok files) : ofEntries s' entries = .ok files := by
  rw [ofEntries_eq_ok_iff] at h ⊢
  have hstarts : starts s' entries = starts s entries := by rw [starts, starts, hcwd]
  rw [hstarts]
  exact h.congr hread

end ScriptGraph

namespace Needs

theorem addScript_eq_ok_iff {p : Path} {needs more : Needs} :
    addScript s needs p = .ok more ↔
      ∃ text, s.readText p = .ok text ∧ more = needs.add p (Directives.parse text) := by
  rw [addScript]
  cases s.readText p <;> simp [eq_comm]

theorem addScript_of_readText {p : Path} {text : String} (h : s.readText p = .ok text)
    (needs : Needs) : addScript s needs p = .ok (needs.add p (Directives.parse text)) :=
  addScript_eq_ok_iff.mpr ⟨text, h, rfl⟩

theorem foldlM_addScript_congr {files : List Path} {needs all : Needs}
    (hread : ∀ p ∈ files, ∀ text, s.readText p = .ok text → s'.readText p = .ok text)
    (h : files.foldlM (addScript s) needs = .ok all) :
    files.foldlM (addScript s') needs = .ok all := by
  induction files generalizing needs with
  | nil => exact h
  | cons p files ih =>
      obtain ⟨more, hmore, hrest⟩ := foldlM_cons_eq_ok_iff.mp h
      obtain ⟨text, htext, rfl⟩ := addScript_eq_ok_iff.mp hmore
      refine foldlM_cons_eq_ok_iff.mpr
        ⟨_, addScript_of_readText (hread p List.mem_cons_self text htext) needs, ?_⟩
      exact ih (fun q hq => hread q (List.mem_cons_of_mem p hq)) hrest

/-- The packages and the assemblies are distinct, and the packages are trimmed. -/
structure Proper (needs : Needs) : Prop where
  packages : (needs.packages.map PackageReference.key).Nodup
  trimmed : ∀ r ∈ needs.packages, r.IsTrimmed
  assemblies : (needs.assemblies.map Path.components).Nodup

theorem isTrimmed_of_packageOf? {body : List Char} {r : PackageReference}
    (h : Pragma.packageOf? body = some r) : r.IsTrimmed := by
  simp only [Pragma.packageOf?, Option.bind_eq_bind, Option.bind_eq_some_iff] at h
  obtain ⟨_, -, _, -, _, -, h⟩ := h
  split at h
  · contradiction
  · exact Option.some.inj h ▸ PackageReference.isTrimmed_of _ _

theorem isTrimmed_of_mem_parse {source : String} {r : PackageReference}
    (h : r ∈ (Directives.parse source).packages) : r.IsTrimmed := by
  obtain ⟨p, -, hp⟩ := List.mem_filterMap.mp h
  rw [Pragma.package?] at hp
  split at hp
  · contradiction
  · exact isTrimmed_of_packageOf? hp

theorem Proper.add {needs : Needs} (h : needs.Proper) (p : Path) (source : String) :
    (needs.add p (Directives.parse source)).Proper := by
  refine ⟨nodup_insertAll PackageReference.compares_same h.packages _, fun r hr => ?_,
    nodup_insertAll Path.compares_same h.assemblies _⟩
  rcases mem_of_mem_insertAll hr with hold | hnew
  · exact h.trimmed r hold
  · exact isTrimmed_of_mem_parse hnew

theorem proper_of_foldlM {files : List Path} {needs all : Needs} (hneeds : needs.Proper)
    (h : files.foldlM (addScript s) needs = .ok all) : all.Proper := by
  induction files generalizing needs with
  | nil => exact Except.ok.inj h ▸ hneeds
  | cons p files ih =>
      obtain ⟨more, hmore, hrest⟩ := foldlM_cons_eq_ok_iff.mp h
      obtain ⟨text, -, rfl⟩ := addScript_eq_ok_iff.mp hmore
      exact ih (hneeds.add p text) hrest

theorem proper_ofScripts {files : List Path} {needs : Needs}
    (h : ofScripts s files = .ok needs) : needs.Proper := by
  have hempty : empty.Proper := ⟨List.nodup_nil, by simp [empty], List.nodup_nil⟩
  exact proper_of_foldlM hempty h

end Needs

/-! ### The plan -/

namespace Project

variable {env : Environment} {entry : Path} {project : Project}

/-- What a plan is put together from. -/
theorem plan_eq_ok_iff :
    plan env s entry = .ok project ↔ ∃ needs,
      ScriptGraph.ofEntries s [entry] = .ok project.graph ∧
      Needs.ofScripts s project.graph = .ok needs ∧
      project.manifest = needs.manifest env.framework ∧
      project.entry = project.graph.head?.getD entry ∧
      project.layout = .ofScriptDir env.cacheRoot
        (project.entry.parent?.getD ⟨"/"⟩) project.manifest.framework := by
  simp only [plan, bind_eq_ok_iff, Except.ok.injEq]
  constructor
  · rintro ⟨graph, hgraph, needs, hneeds, rfl⟩
    exact ⟨needs, hgraph, hneeds, rfl, rfl, rfl⟩
  · rintro ⟨needs, hgraph, hneeds, hmanifest, hentry, hlayout⟩
    refine ⟨_, hgraph, needs, hneeds, ?_⟩
    rw [hentry, hmanifest] at hlayout
    cases project
    simp only at hmanifest hentry hlayout
    rw [hmanifest, hentry, hlayout]

theorem plan_proper (h : plan env s entry = .ok project) : project.manifest.Proper := by
  obtain ⟨needs, -, hneeds, hmanifest, -⟩ := plan_eq_ok_iff.mp h
  have hproper := Needs.proper_ofScripts hneeds
  rw [hmanifest]
  exact ⟨hproper.packages, hproper.trimmed, hproper.assemblies⟩

/-- **A plan stays the same if its scripts do.** -/
theorem plan_keepsOutside (h : plan env s entry = .ok project) (hkeeps : s.KeepsOutside s' place)
    (hout : ∀ script ∈ project.graph, ¬ place <+: script.names) :
    plan env s' entry = .ok project := by
  obtain ⟨needs, hgraph, hneeds, hrest⟩ := plan_eq_ok_iff.mp h
  have hnormal := ScriptGraph.isNormal_of_ofEntries hgraph
  have hread : ∀ p ∈ project.graph, ∀ text, s.readText p = .ok text →
      s'.readText p = .ok text :=
    fun p hp text htext => hkeeps.readText (hnormal p hp) (hout p hp) htext
  exact plan_eq_ok_iff.mpr ⟨needs, ScriptGraph.ofEntries_congr hkeeps.cwd hread hgraph,
    Needs.foldlM_addScript_congr hread hneeds, hrest⟩

end Project

end ScriptDeps
