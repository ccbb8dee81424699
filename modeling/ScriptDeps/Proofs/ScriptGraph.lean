/-
What the walk over the scripts reaches.

The walk keeps a stack of scripts to visit and the list of those that it has seen.  Three
facts are kept by every step, and together they say that the list is in the end just what
loading reaches.

  * Whatever is on the stack or in the list is reached.
  * What a script in the list loads is in the list or on the stack, and so are the entries.
    So once the stack is empty the list is closed, and holds all that is reached.
  * The steps that are left are at least as many as there are scripts on the stack and
    loads in the files not seen yet.  A file seen for the first time pays for its loads,
    and it is seen once, since two paths in normal form lead to one file only if they are
    one path.  So the steps do not run out before the stack is empty.

How a script is spelled where it is loaded makes no difference: a path is made absolute before
anything else, and what it becomes hangs on the place alone that it spells.
-/
import Mathlib
import ScriptDeps.Proofs.Dictionary
import ScriptDeps.Proofs.Path.Place
import ScriptDeps.ScriptGraph

namespace ScriptDeps.ScriptGraph

open Store (pathOf)

variable {s : Store} {entries : List Path} {steps : Nat} {stack seen : List Path} {p q : Path}
  {source : String}

/-! ### What is reached -/

/-- The script is an entry, or a readable one that is reached loads it. -/
inductive Reached (s : Store) (entries : List Path) : Path → Prop
  | entry {e : Path} : e ∈ entries → Reached s entries ((pathOf s.cwd).absolutize e)
  | load {p : Path} {source load : String} : Reached s entries p → s.readText p = .ok source →
      load ∈ (Directives.parse source).loads →
      Reached s entries ((p.parent?.getD ⟨"/"⟩).absolutize ⟨load⟩)

theorem Reached.isNormal (h : Reached s entries p) : p.IsNormal := by
  induction h with
  | entry he => exact Path.isNormal_absolutize (Path.isAbsolute_pathOf s.cwd) _
  | @load p source load hp hsource hload ih =>
      refine Path.isNormal_absolutize ?_ _
      rw [ih.parent?_getD]
      exact Path.isAbsolute_pathOf _

theorem Reached.target (h : Reached s entries p) (hsource : s.readText p = .ok source)
    (hq : q ∈ targets p source) : Reached s entries q := by
  obtain ⟨load, hload, rfl⟩ := List.mem_map.mp hq
  exact h.load hsource hload

/-- The entries as seen from where relative paths start. -/
def starts (s : Store) (entries : List Path) : List Path :=
  entries.map (pathOf s.cwd).absolutize

theorem reached_of_mem_starts (h : p ∈ starts s entries) : Reached s entries p := by
  obtain ⟨e, he, rfl⟩ := List.mem_map.mp h
  exact .entry he

/-! ### The loads of all files -/

/-- The number of scripts that are loaded by the script at a path. -/
def loadsAt (s : Store) (p : Path) : Nat :=
  match s.readText p with
  | .ok source => (targets p source).length
  | .error _ => 0

theorem loadsAt_of_ok (h : s.readText p = .ok source) :
    loadsAt s p = (targets p source).length := by
  simp [loadsAt, h]

/-- The loads of all files together. -/
def allLoads (s : Store) : Nat :=
  (s.entries.map fun e => loadCount e.2).sum

theorem enough_eq (s : Store) (entryCount : Nat) :
    enough s entryCount = entryCount + allLoads s := by
  unfold enough allLoads
  induction s.entries with
  | nil => simp
  | cons e rest ih =>
      rw [List.foldr_cons, ih, List.map_cons, List.sum_cons]
      omega

theorem node_of_readText {content : String} (h : s.readText p = .ok content) :
    ∃ loc bytes runnable, s.locate p = .ok loc ∧ s.node? loc = some (.file bytes runnable) ∧
      String.fromUTF8? bytes = some content := by
  obtain ⟨bytes, runnable, hlookup, htext⟩ := Store.readText_eq_ok_iff.mp h
  obtain ⟨loc, hloc, hnode⟩ := Store.locate_of_lookup hlookup
  exact ⟨loc, bytes, runnable, hloc, hnode, htext⟩

/-- The loads of a script are those of the file that stands at its names. -/
theorem loadsAt_le (hp : p.IsNormal) :
    loadsAt s p ≤ ((s.entries.lookup p.names).map loadCount).getD 0 := by
  obtain ⟨names, hnames, rfl⟩ := hp
  cases hread : s.readText (pathOf names) with
  | error fault => simp [loadsAt, hread]
  | ok content =>
      obtain ⟨loc, bytes, runnable, hloc, hnode, htext⟩ := node_of_readText hread
      obtain rfl := Store.locate_pathOf hnames hloc
      have hne : loc ≠ [] := by
        rintro rfl
        simp [Store.node?] at hnode
      rw [Store.node?_eq_lookup s hne] at hnode
      rw [Path.names_pathOf hnames, hnode, loadsAt_of_ok hread]
      simp [targets, loadCount, htext]

theorem nodup_names (hnormal : ∀ p ∈ seen, p.IsNormal) (hnodup : seen.Nodup) :
    (seen.map Path.names).Nodup :=
  hnodup.map_on fun p hp q hq h => (hnormal p hp).names_inj (hnormal q hq) h

/-- The files that were seen have no more loads than all files. -/
theorem sum_loadsAt_le (hnormal : ∀ p ∈ seen, p.IsNormal) (hnodup : seen.Nodup) :
    (seen.map (loadsAt s)).sum ≤ allLoads s := by
  calc (seen.map (loadsAt s)).sum
      ≤ (seen.map fun p => ((s.entries.lookup p.names).map loadCount).getD 0).sum :=
        List.sum_le_sum fun p hp => loadsAt_le (hnormal p hp)
    _ = ((seen.map Path.names).map
          fun names => ((s.entries.lookup names).map loadCount).getD 0).sum := by
        rw [List.map_map]
        rfl
    _ ≤ allLoads s :=
        Dictionary.sum_lookup_le loadCount s.entries (nodup_names hnormal hnodup)

/-! ### One step -/

/-- What the walk knows while it runs. -/
structure Walking (s : Store) (entries : List Path) (steps : Nat) (stack seen : List Path) :
    Prop where
  /-- Nothing was met that is not reached. -/
  reached : ∀ p ∈ seen ++ stack, Reached s entries p
  /-- Only what can be read is seen. -/
  readable : ∀ p ∈ seen, ∃ source, s.readText p = .ok source
  nodup : seen.Nodup
  /-- The entries are not forgotten. -/
  started : ∀ p ∈ starts s entries, p ∈ seen ++ stack
  /-- Neither is anything that was loaded. -/
  loaded : ∀ p ∈ seen, ∀ source, s.readText p = .ok source →
    ∀ q ∈ targets p source, q ∈ seen ++ stack
  /-- The first entry stays the first. -/
  first : (seen ++ stack).head? = (starts s entries).head?
  /-- The steps pay for the stack and for the loads of what was not seen. -/
  budget : stack.length + allLoads s ≤ steps + (seen.map (loadsAt s)).sum

namespace Walking

theorem isNormal (h : Walking s entries steps stack seen) (hp : p ∈ seen ++ stack) : p.IsNormal :=
  (h.reached p hp).isNormal

/-- A script on top of the stack has been seen if it is in the list. -/
theorem any_same (h : Walking s entries steps (p :: stack) seen) :
    seen.any p.same = true ↔ p ∈ seen := by
  have hp : p.IsNormal := h.isNormal (by simp)
  rw [List.any_eq_true]
  constructor
  · rintro ⟨q, hq, hsame⟩
    have hnormal : q.IsNormal := h.isNormal (List.mem_append_left _ hq)
    rw [(hp.same_iff hnormal).mp hsame]
    exact hq
  · intro hmem
    exact ⟨p, hmem, (hp.same_iff hp).mpr rfl⟩

/-- The steps do not run out while there is a script on the stack. -/
theorem steps_pos (h : Walking s entries steps (p :: stack) seen) : 0 < steps := by
  have hsum := sum_loadsAt_le (s := s) (fun q hq => h.isNormal (List.mem_append_left _ hq)) h.nodup
  have hbudget := h.budget
  rw [List.length_cons] at hbudget
  omega

/-- A script that was seen is passed over. -/
theorem skip (h : Walking s entries (steps + 1) (p :: stack) seen) (hp : p ∈ seen) :
    Walking s entries steps stack seen := by
  have hmem : ∀ q, q ∈ seen ++ p :: stack → q ∈ seen ++ stack := by
    intro q hq
    simp only [List.mem_append, List.mem_cons] at hq ⊢
    rcases hq with hq | rfl | hq
    · exact Or.inl hq
    · exact Or.inl hp
    · exact Or.inr hq
  refine ⟨?_, h.readable, h.nodup, fun q hq => hmem q (h.started q hq),
    fun q hq source hsource r hr => hmem r (h.loaded q hq source hsource r hr), ?_, ?_⟩
  · intro q hq
    refine h.reached q ?_
    simp only [List.mem_append, List.mem_cons] at hq ⊢
    exact hq.imp id Or.inr
  · rw [← h.first]
    cases seen with
    | nil => contradiction
    | cons first seen => rfl
  · have hbudget := h.budget
    rw [List.length_cons] at hbudget
    omega

/-- A script that was not seen is visited, and what it loads comes next. -/
theorem visit (h : Walking s entries (steps + 1) (p :: stack) seen) (hp : p ∉ seen)
    (hsource : s.readText p = .ok source) :
    Walking s entries steps (targets p source ++ stack) (seen ++ [p]) := by
  have hreached : Reached s entries p := h.reached p (by simp)
  have hmem : ∀ q, q ∈ seen ++ p :: stack → q ∈ (seen ++ [p]) ++ (targets p source ++ stack) := by
    intro q hq
    simp only [List.mem_append, List.mem_cons, List.not_mem_nil, or_false] at hq ⊢
    tauto
  refine ⟨?_, ?_, ?_, fun q hq => hmem q (h.started q hq), ?_, ?_, ?_⟩
  · intro q hq
    by_cases hold : q ∈ seen ++ p :: stack
    · exact h.reached q hold
    · refine hreached.target hsource ?_
      simp only [List.mem_append, List.mem_cons, List.not_mem_nil, or_false] at hq hold
      tauto
  · intro q hq
    rcases List.mem_append.mp hq with hq | hq
    · exact h.readable q hq
    · rw [List.mem_singleton.mp hq]
      exact ⟨source, hsource⟩
  · refine List.nodup_append.mpr ⟨h.nodup, List.nodup_singleton p, ?_⟩
    intro a ha b hb hab
    rw [List.mem_singleton.mp hb] at hab
    exact hp (hab ▸ ha)
  · intro q hq content hcontent r hr
    rcases List.mem_append.mp hq with hq | hq
    · exact hmem r (h.loaded q hq content hcontent r hr)
    · rw [List.mem_singleton.mp hq, hsource] at hcontent
      rw [List.mem_singleton.mp hq, ← Except.ok.inj hcontent] at hr
      simp [hr]
  · rw [← h.first]
    cases seen <;> rfl
  · have hbudget := h.budget
    rw [List.length_cons] at hbudget
    rw [List.map_append, List.sum_append, List.map_singleton, List.sum_singleton,
      loadsAt_of_ok hsource, List.length_append]
    omega

/-- Once the stack is empty the list is what is reached. -/
theorem mem_iff (h : Walking s entries steps [] seen) (p : Path) :
    p ∈ seen ↔ Reached s entries p := by
  have hseen : ∀ q, q ∈ seen ++ [] → q ∈ seen := fun q hq => by simpa using hq
  constructor
  · intro hp
    exact h.reached p (List.mem_append_left _ hp)
  · intro hp
    induction hp with
    | entry he => exact hseen _ (h.started _ (List.mem_map_of_mem he))
    | @load p source load hp hsource hload ih =>
        exact hseen _ (h.loaded p ih source hsource _ (List.mem_map_of_mem hload))

theorem pairwise_same (h : Walking s entries steps stack seen) :
    seen.Pairwise fun p q => p.same q = false := by
  refine h.nodup.imp_of_mem fun {p q} hp hq hne => ?_
  rw [Bool.eq_false_iff]
  intro hsame
  have hnormal : ∀ r ∈ seen, r.IsNormal := fun r hr => h.isNormal (List.mem_append_left _ hr)
  exact hne (((hnormal p hp).same_iff (hnormal q hq)).mp hsame)

end Walking

/-! ### The whole walk -/

theorem walking_starts (s : Store) (entries : List Path) :
    Walking s entries (enough s entries.length) (starts s entries) [] where
  reached p hp := reached_of_mem_starts (by simpa using hp)
  readable p hp := absurd hp List.not_mem_nil
  nodup := List.nodup_nil
  started p hp := by simpa using hp
  loaded p hp := absurd hp List.not_mem_nil
  first := rfl
  budget := by simp [enough_eq, starts]

/-- How a walk ends: with an empty stack, or at a script that cannot be read. -/
inductive Ends (s : Store) (entries : List Path) : Except Failure (List Path) → Prop
  | all {steps : Nat} {files : List Path} : Walking s entries steps [] files →
      Ends s entries (.ok files)
  | unreadable {p : Path} {fault : Fault} : Reached s entries p → s.readText p = .error fault →
      Ends s entries (.error (.unreadableScript p fault))

theorem Walking.ends (h : Walking s entries steps stack seen) :
    Ends s entries (walk s steps stack seen) := by
  induction steps generalizing stack seen with
  | zero =>
      cases stack with
      | nil => exact .all h
      | cons p stack => exact absurd h.steps_pos (Nat.lt_irrefl 0)
  | succ steps ih =>
      cases stack with
      | nil => exact .all h
      | cons p stack =>
          rw [walk]
          by_cases hp : p ∈ seen
          · rw [if_pos (h.any_same.mpr hp)]
            exact ih (h.skip hp)
          · rw [if_neg (mt h.any_same.mp hp)]
            cases hsource : s.readText p with
            | error fault => exact .unreadable (h.reached p (by simp)) hsource
            | ok source => exact ih (h.visit hp hsource)

/-- More steps change nothing. -/
theorem Walking.walk_add (h : Walking s entries steps stack seen) (more : Nat) :
    walk s (steps + more) stack seen = walk s steps stack seen := by
  induction steps generalizing stack seen with
  | zero =>
      cases stack with
      | nil => simp [walk]
      | cons p stack => exact absurd h.steps_pos (Nat.lt_irrefl 0)
  | succ steps ih =>
      cases stack with
      | nil => simp [walk]
      | cons p stack =>
          rw [Nat.succ_add_eq_add_succ, Nat.add_succ, walk, walk]
          by_cases hp : p ∈ seen
          · rw [if_pos (h.any_same.mpr hp), if_pos (h.any_same.mpr hp)]
            exact ih (h.skip hp)
          · rw [if_neg (mt h.any_same.mp hp), if_neg (mt h.any_same.mp hp)]
            cases hsource : s.readText p with
            | error fault => rfl
            | ok source => exact ih (h.visit hp hsource)

/-- **The graph is what loading reaches, each script once and the first entry first**, and it is
given exactly if all of that can be read.  The walk ends by itself: no number of steps above
the bound changes what it gives. -/
theorem ofEntries_reached (s : Store) (entries : List Path) :
    (∀ more, walk s (enough s entries.length + more) (starts s entries) [] =
      ofEntries s entries) ∧
    ((∀ p, Reached s entries p → ∃ source, s.readText p = .ok source) →
      ∃ files, ofEntries s entries = .ok files ∧
        (∀ p, p ∈ files ↔ Reached s entries p) ∧
        files.Pairwise (fun p q => p.same q = false) ∧
        files.head? = (starts s entries).head?) ∧
    ((∃ p fault, Reached s entries p ∧ s.readText p = .error fault) →
      ∃ p fault, Reached s entries p ∧ s.readText p = .error fault ∧
        ofEntries s entries = .error (.unreadableScript p fault)) := by
  have hends : Ends s entries (ofEntries s entries) := (walking_starts s entries).ends
  refine ⟨(walking_starts s entries).walk_add, ?_, ?_⟩
  · intro hreadable
    generalize ofEntries s entries = result at hends
    cases hends with
    | @all steps files hfiles =>
        exact ⟨files, rfl, hfiles.mem_iff, hfiles.pairwise_same, by simpa using hfiles.first⟩
    | @unreadable p fault hp hfault =>
        obtain ⟨source, hsource⟩ := hreadable p hp
        rw [hsource] at hfault
        contradiction
  · rintro ⟨p, fault, hp, hfault⟩
    generalize ofEntries s entries = result at hends
    cases hends with
    | @all steps files hfiles =>
        obtain ⟨source, hsource⟩ := hfiles.readable p ((hfiles.mem_iff p).mpr hp)
        rw [hsource] at hfault
        contradiction
    | @unreadable q other hq hother => exact ⟨q, other, hq, hother, rfl⟩

/-! ### Spellings -/

theorem exists_walking (h : ofEntries s entries = .ok seen) :
    ∃ steps, Walking s entries steps [] seen := by
  have hends : Ends s entries (ofEntries s entries) := (walking_starts s entries).ends
  rw [h] at hends
  cases hends with
  | all hseen => exact ⟨_, hseen⟩

/-- A place that is reached is that of one script in the list. -/
theorem Walking.count_names (h : Walking s entries steps [] seen) (hp : Reached s entries p) :
    (seen.map Path.names).count p.names = 1 := by
  have hnames := nodup_names (fun q hq => h.isNormal (List.mem_append_left _ hq)) h.nodup
  exact List.count_eq_one_of_mem hnames (List.mem_map_of_mem ((h.mem_iff p).mpr hp))

/-- What a script loads is found from the directory that the script is in. -/
theorem names_target (hp : p.IsNormal) (load : String) :
    ((p.parent?.getD ⟨"/"⟩).absolutize ⟨load⟩).names =
      (Path.mk load).seenFrom p.names.dropLast := by
  have hdir : ∀ name ∈ p.names.dropLast, IsName name := fun name hname =>
    Path.isName_of_mem_names (List.dropLast_subset _ hname)
  rw [hp.parent?_getD, Path.names_absolutize (Path.isAbsolute_pathOf _), Path.names_pathOf hdir]

/-- **Making absolute is reading a path lexically.**  The result is absolute without `.` and `..`:
it is written from the names that are left on a stack when the components are read, first those
of the directory and then, unless the path is absolute, onto these its own.  The loop that pushes
components onto a path and pops them off gives the same.  The result stays when it is made absolute
again, from wherever; two paths one after the other are the two in a row; and two spellings become
one path exactly if they spell one place.  So however the entries and the loads are spelled, the
place of each is that of one script in the graph. -/
theorem absolutize_lexical {base : Path} (hbase : base.isAbsolute = true) (p : Path) :
    (base.absolutize p).isAbsolute = true ∧
    .here ∉ (base.absolutize p).components ∧ .up ∉ (base.absolutize p).components ∧
    base.absolutize p = pathOf (((if p.isAbsolute then [] else base.components) ++
      p.components).foldl Path.fold []) ∧
    (if p.isAbsolute then p else base.join p).looped (fun before => before.join ⟨"/"⟩) =
      base.absolutize p ∧
    (∀ other : Path, other.absolutize (base.absolutize p) = base.absolutize p) ∧
    (∀ q, (base.absolutize p).absolutize q = base.absolutize (p.join q)) ∧
    (∀ q, base.absolutize p = base.absolutize q ↔
      p.seenFrom base.names = q.seenFrom base.names) ∧
    ∀ s entries files, ofEntries s entries = .ok files →
      (∀ e ∈ entries, (files.map Path.names).count (e.seenFrom (pathOf s.cwd).names) = 1) ∧
      ∀ f ∈ files, ∀ source, s.readText f = .ok source →
        ∀ load ∈ (Directives.parse source).loads,
          (files.map Path.names).count ((Path.mk load).seenFrom f.names.dropLast) = 1 := by
  have hnormal := Path.isNormal_absolutize hbase p
  have hcomponents := Path.components_absolutize hbase p
  refine ⟨hnormal.isAbsolute, by simp [hcomponents], by simp [hcomponents], ?_,
    Path.looped_absolutize hbase p, hnormal.absolutize, Path.absolutize_absolutize hbase p,
    fun q => Path.absolutize_eq_iff hbase, fun s entries files hfiles => ?_⟩
  · rw [Path.absolutize_eq hbase, Path.seenFrom, List.foldl_append]
    split <;> rfl
  · obtain ⟨steps, hwalking⟩ := exists_walking hfiles
    constructor
    · intro e he
      rw [← Path.names_absolutize (Path.isAbsolute_pathOf s.cwd)]
      exact hwalking.count_names (.entry he)
    · intro f hf source hsource load hload
      have hreached := (hwalking.mem_iff f).mp hf
      rw [← names_target hreached.isNormal]
      exact hwalking.count_names (.load hreached hsource hload)

/-- Three loads of one script, each in another spelling. -/
def spelledLoads : String :=
  "#load \"b.csx\"\n#load \"./x//../b.csx\"\n#load \"/../s/b.csx\"\n"

/-- Two scripts, of which the first loads the second. -/
def spelledScripts : Store :=
  let s := Store.empty.put ["s"] .directory
  let s := s.put ["s", "a.csx"] (.file spelledLoads.toUTF8 false)
  s.put ["s", "b.csx"] (.file "".toUTF8 false)

/-- Spellings of the second script, from another directory and from the first script. -/
theorem absolutize_lexical_spelled :
    (⟨"/t/../s//"⟩ : Path).isAbsolute = true ∧
    (⟨"/t/../s//"⟩ : Path).absolutize ⟨"./x//../b.csx"⟩ =
      (⟨"/t/../s//"⟩ : Path).absolutize ⟨"/../s/b.csx"⟩ ∧
    ofEntries spelledScripts [⟨"/s/a.csx"⟩] = .ok [⟨"/s/a.csx"⟩, ⟨"/s/b.csx"⟩] ∧
    ([⟨"/s/a.csx"⟩, ⟨"/s/b.csx"⟩].map Path.names).count
      ((Path.mk "./x//../b.csx").seenFrom ["s"]) = 1 := by
  have hbase : (⟨"/t/../s//"⟩ : Path).isAbsolute = true := by decide
  have hfiles : ofEntries spelledScripts [⟨"/s/a.csx"⟩] = .ok [⟨"/s/a.csx"⟩, ⟨"/s/b.csx"⟩] := by
    decide +kernel
  obtain ⟨-, -, -, -, -, -, -, hspelled, hgraph⟩ := absolutize_lexical hbase ⟨"./x//../b.csx"⟩
  refine ⟨hbase, (hspelled ⟨"/../s/b.csx"⟩).mpr (by decide +kernel), hfiles, ?_⟩
  have hsource : spelledScripts.readText ⟨"/s/a.csx"⟩ = .ok spelledLoads := by decide +kernel
  have hload : "./x//../b.csx" ∈ (Directives.parse spelledLoads).loads := by decide +kernel
  exact (hgraph _ _ _ hfiles).2 ⟨"/s/a.csx"⟩ List.mem_cons_self _ hsource _ hload

end ScriptDeps.ScriptGraph
