/-
What merging does to the imports of each runtime.

A runtime keeps the imports that it has and gets those of the other graph behind them, each
once.  Seen runtime by runtime, merging is adding one set to another, and its laws come from
there: what is added does not depend on the order in which the other graph is gone through,
a graph has nothing to add to itself, and of three graphs it does not matter which two are
merged first.

How far a chain goes depends on what is imported and not on the order of the imports, so
merging more graphs in another order leaves the members of every chain as they are.  The graph
of a project is the known one with what its packages add, and they take nothing from a chain.
-/
import ScriptDeps.Context
import ScriptDeps.Proofs.Distinct
import ScriptDeps.Proofs.RuntimeGraph.Chain

namespace ScriptDeps.RuntimeGraph

variable {g a b c : RuntimeGraph} {r s : String} {entries order : List (String × List String)}

/-- A graph is what it says of each runtime. -/
theorem eq_of_get? (ha : a.imports.Rising) (hb : b.imports.Rising)
    (h : ∀ r, a.imports.get? r = b.imports.get? r) : a = b :=
  congrArg RuntimeGraph.mk (ha.ext hb h)

theorem importsOf_of_get?_none (h : g.imports.get? r = none) : g.importsOf r = [] := by
  rw [importsOf, h, Option.getD_none]

theorem importsOf_of_get?_some {more : List String} (h : g.imports.get? r = some more) :
    g.importsOf r = more := by
  rw [importsOf, h, Option.getD_some]

/-! ### Adding imports -/

/-- The graph with the imports of several runtimes added one after the other. -/
def addAll (g : RuntimeGraph) (entries : List (String × List String)) : RuntimeGraph :=
  entries.foldl (fun g e => g.addImports e.1 e.2) g

theorem merge_eq_addAll (a b : RuntimeGraph) : a.merge b = a.addAll b.imports := rfl

theorem get?_addImports (g : RuntimeGraph) (r : String) (more : List String) (s : String) :
    (g.addImports r more).imports.get? s =
      if s = r then some (insertAll (· == ·) (g.importsOf r) more) else g.imports.get? s :=
  Dictionary.get?_insert g.imports r s _

theorem importsOf_addImports_of_ne (g : RuntimeGraph) (more : List String) (h : s ≠ r) :
    (g.addImports r more).importsOf s = g.importsOf s := by
  rw [importsOf, importsOf, get?_addImports, if_neg h]

/-- Of each runtime the graph says what it said before, with the imports of its entry added. -/
theorem get?_addAll (hnodup : (entries.map Prod.fst).Nodup) (g : RuntimeGraph) (s : String) :
    (g.addAll entries).imports.get? s =
      ((Dictionary.get? entries s).map (insertAll (· == ·) (g.importsOf s))).or
        (g.imports.get? s) := by
  induction entries generalizing g with
  | nil => rfl
  | cons e rest ih =>
      obtain ⟨r, more⟩ := e
      rw [List.map_cons, List.nodup_cons] at hnodup
      have hstep : g.addAll ((r, more) :: rest) = (g.addImports r more).addAll rest := rfl
      rw [hstep, ih hnodup.2, Dictionary.get?_cons, get?_addImports]
      by_cases hs : s = r
      · subst hs
        rw [Dictionary.get?_eq_none_iff.mpr hnodup.1, if_pos rfl, if_pos rfl]
        rfl
      · rw [importsOf_addImports_of_ne g more hs, if_neg hs, if_neg hs]

theorem rising_addAll (hg : g.imports.Rising) (entries : List (String × List String)) :
    (g.addAll entries).imports.Rising := by
  induction entries generalizing g with
  | nil => exact hg
  | cons e rest ih => exact ih (hg.insert e.1 _)

/-- The order in which the entries come does not matter. -/
theorem addAll_eq_merge (ha : a.imports.Rising) (hb : b.imports.Rising)
    (horder : order.Perm b.imports) : a.addAll order = a.merge b := by
  have hnodup : (order.map Prod.fst).Nodup := (horder.map Prod.fst).nodup_iff.mpr hb.nodup
  have hget : ∀ r, Dictionary.get? order r = b.imports.get? r := by
    intro r
    refine Option.ext fun more => ?_
    rw [Dictionary.get?_eq_some_iff hnodup, Dictionary.get?_eq_some_iff hb.nodup,
      horder.mem_iff]
  refine eq_of_get? (rising_addAll ha order) (rising_addAll ha b.imports) fun r => ?_
  rw [get?_addAll hnodup, merge_eq_addAll, get?_addAll hb.nodup, hget]

/-! ### Graphs in order

A graph holds each runtime once, in the order of their names.  What is known without packages
and what packages describe is so, and merging keeps it.
-/

theorem rising_known : known.imports.Rising :=
  Dictionary.rising_ofEntries _

theorem rising_of_parse? {text : String} (h : parse? text = some g) : g.imports.Rising := by
  obtain ⟨j, -, hj⟩ := Option.bind_eq_some_iff.mp h
  simp only [ofJson?, Option.bind_eq_bind, Option.bind_eq_some_iff] at hj
  obtain ⟨fields, -, hj⟩ := hj
  split at hj
  · obtain ⟨entries, -, hg⟩ := Option.bind_eq_some_iff.mp hj
    rw [← Option.some.inj hg]
    exact Dictionary.rising_ofEntries entries
  · contradiction

theorem rising_merge (ha : a.imports.Rising) (b : RuntimeGraph) : (a.merge b).imports.Rising :=
  rising_addAll ha b.imports

/-! ### Merging -/

theorem get?_merge (hb : b.imports.Rising) (a : RuntimeGraph) (r : String) :
    (a.merge b).imports.get? r =
      ((b.imports.get? r).map (insertAll (· == ·) (a.importsOf r))).or (a.imports.get? r) :=
  get?_addAll hb.nodup a r

theorem importsOf_merge (hb : b.imports.Rising) (a : RuntimeGraph) (r : String) :
    (a.merge b).importsOf r = insertAll (· == ·) (a.importsOf r) (b.importsOf r) := by
  rw [importsOf, get?_merge hb]
  cases hr : b.imports.get? r with
  | none => rw [importsOf_of_get?_none hr]; rfl
  | some more => rw [importsOf_of_get?_some hr]; rfl

theorem mem_importsOf_merge (hb : b.imports.Rising) :
    s ∈ (a.merge b).importsOf r ↔ s ∈ a.importsOf r ∨ s ∈ b.importsOf r := by
  have hkeys : s ∈ (insertAll (· == ·) (a.importsOf r) (b.importsOf r)).map id ↔
      s ∈ (a.importsOf r).map id ∨ s ∈ (b.importsOf r).map id :=
    mem_keys_insertAll compares_beq
  rw [importsOf_merge hb]
  simpa using hkeys

/-- A runtime gets those imports of the other graph that it does not have, each once. -/
theorem exists_importsOf_merge (hb : b.imports.Rising) (a : RuntimeGraph) (r : String) :
    ∃ new, (a.merge b).importsOf r = a.importsOf r ++ new ∧
      FirstSeen ((b.importsOf r).filter (· ∉ a.importsOf r)) new := by
  refine ⟨_, (importsOf_merge hb a r).trans (insertAll_eq_append_new _ _), ?_⟩
  have hfilter : (b.importsOf r).filter (fun s => !(a.importsOf r).contains s) =
      (b.importsOf r).filter (· ∉ a.importsOf r) := by
    refine List.filter_congr fun s _ => ?_
    simp
  rw [hfilter]
  exact firstSeen_insertAll _

theorem mem_keys_merge (hb : b.imports.Rising) :
    r ∈ (a.merge b).imports.keys ↔ r ∈ a.imports.keys ∨ r ∈ b.imports.keys := by
  have hnot : r ∉ (a.merge b).imports.keys ↔ r ∉ b.imports.keys ∧ r ∉ a.imports.keys := by
    rw [← Dictionary.get?_eq_none_iff, get?_merge hb, Option.or_eq_none_iff, Option.map_eq_none_iff,
      Dictionary.get?_eq_none_iff, Dictionary.get?_eq_none_iff]
  tauto

theorem merge_self (ha : a.imports.Rising) : a.merge a = a := by
  refine eq_of_get? (rising_merge ha a) ha fun r => ?_
  rw [get?_merge ha]
  cases hr : a.imports.get? r with
  | none => rfl
  | some imports =>
      rw [importsOf_of_get?_some hr, Option.map_some,
        insertAll_of_subset compares_beq (fun s hs => List.mem_map_of_mem hs)]
      rfl

theorem merge_assoc (ha : a.imports.Rising) (hb : b.imports.Rising) (hc : c.imports.Rising) :
    (a.merge b).merge c = a.merge (b.merge c) := by
  refine eq_of_get? (rising_merge (rising_merge ha b) c) (rising_merge ha _) fun r => ?_
  rw [get?_merge hc, get?_merge (rising_merge hb c), get?_merge hc, importsOf_merge hb,
    get?_merge hb]
  cases hr : c.imports.get? r with
  | none => rfl
  | some more =>
      rw [Option.map_some, Option.map_some, Option.some_or, Option.some_or, Option.map_some,
        Option.some_or, insertAll_insertAll compares_beq]

/-! ### The chains of a merged graph -/

theorem mem_expand_of_subset (hsub : ∀ r, ∀ s ∈ a.importsOf r, s ∈ b.importsOf r)
    (hr : r ∈ a.expand s) : r ∈ b.expand s := by
  rw [mem_expand_iff] at hr ⊢
  exact hr.imp_left (Reached.mono hsub)

theorem mem_importsOf_merge_swap (hb : b.imports.Rising) (hc : c.imports.Rising)
    (h : s ∈ ((a.merge b).merge c).importsOf r) : s ∈ ((a.merge c).merge b).importsOf r := by
  rw [mem_importsOf_merge hc, mem_importsOf_merge hb] at h
  rw [mem_importsOf_merge hb, mem_importsOf_merge hc]
  tauto

/-! ### The graph of a project -/

theorem rising_of_importsOf? {s : Store} {folders : List String} {key : String} {library : Library}
    (h : Context.importsOf? s folders key library = some g) : g.imports.Rising := by
  simp only [Context.importsOf?, Option.bind_eq_bind] at h
  split at h
  · contradiction
  · simp only [Option.bind_eq_some_iff] at h
    obtain ⟨_, -, _, -, hg⟩ := h
    exact rising_of_parse? hg

/-- The graph of a project is in order and knows all that is known without packages. -/
theorem runtimeGraph_enlarges (s : Store) (lock : LockArtifact) :
    (Context.runtimeGraph s lock).imports.Rising ∧
      ∀ r, ∀ p ∈ known.importsOf r, p ∈ (Context.runtimeGraph s lock).importsOf r := by
  refine List.foldlRecOn lock.libraries _ (motive := fun g : RuntimeGraph =>
    g.imports.Rising ∧ ∀ r, ∀ p ∈ known.importsOf r, p ∈ g.importsOf r)
    ⟨rising_known, fun _ _ hp => hp⟩ ?_
  rintro g ⟨hg, hknown⟩ ⟨key, library⟩ -
  cases hread : Context.importsOf? s lock.packageFolders key library with
  | none => simpa only [hread, Option.elim_none] using And.intro hg hknown
  | some fragment =>
      simp only [hread, Option.elim_some]
      refine ⟨rising_merge hg fragment, fun r p hp => ?_⟩
      exact (mem_importsOf_merge (rising_of_importsOf? hread)).mpr (Or.inl (hknown r p hp))

/-- Packages take nothing from the chain of a runtime. -/
theorem mem_expand_runtimeGraph {start : String} (s : Store) (lock : LockArtifact)
    (hr : r ∈ known.expand start) : r ∈ (Context.runtimeGraph s lock).expand start :=
  mem_expand_of_subset (runtimeGraph_enlarges s lock).2 hr

/-- **Merging is a union that keeps the order.**  Every runtime keeps its imports and gets the
new ones behind them, in whatever order the other graph is gone through; merging a graph with
itself changes nothing, three graphs may be merged from either end, and graphs that are merged
later reach no more and no less in another order. -/
theorem merge_orderedUnion (a b c : RuntimeGraph) (ha : a.imports.Rising) (hb : b.imports.Rising)
    (hc : c.imports.Rising) :
    (∀ r, ∃ new, (a.merge b).importsOf r = a.importsOf r ++ new ∧
      FirstSeen ((b.importsOf r).filter (· ∉ a.importsOf r)) new) ∧
    (∀ order : List (String × List String), order.Perm b.imports → a.addAll order = a.merge b) ∧
    (∀ r, r ∈ (a.merge b).imports.keys ↔ r ∈ a.imports.keys ∨ r ∈ b.imports.keys) ∧
    a.merge a = a ∧
    (a.merge b).merge c = a.merge (b.merge c) ∧
    ∀ start, (∀ r, r ∈ ((a.merge b).merge c).expand start ↔
        r ∈ ((a.merge c).merge b).expand start) ∧
      ∀ r ∈ a.expand start, r ∈ ((a.merge b).merge c).expand start := by
  refine ⟨exists_importsOf_merge hb a, fun _ => addAll_eq_merge ha hb, fun _ => mem_keys_merge hb,
    merge_self ha, merge_assoc ha hb hc, fun start => ⟨fun r => ⟨?_, ?_⟩, fun r => ?_⟩⟩
  · exact mem_expand_of_subset fun _ _ => mem_importsOf_merge_swap hb hc
  · exact mem_expand_of_subset fun _ _ => mem_importsOf_merge_swap hc hb
  · refine mem_expand_of_subset fun p s hs => ?_
    rw [mem_importsOf_merge hc, mem_importsOf_merge hb]
    exact Or.inl (Or.inl hs)

/-- What a package says that knows more general runtimes of Linux, some of them twice. -/
def glibcGraph : RuntimeGraph :=
  ⟨.ofEntries [("linux-x64", ["glibc-x64", "linux", "glibc-x64", "glibc"]),
    ("glibc-x64", ["glibc", "linux-x64"])]⟩

/-- What a package says that has a runtime of its own. -/
def forgeGraph : RuntimeGraph :=
  ⟨.ofEntries [("forge", ["linux-x64", "forge"]), ("linux-x64", ["glibc", "unix"])]⟩

/-- Two packages extend the same runtime of those that are known without them. -/
theorem merge_orderedUnion_twoPackages :
    known.imports.Rising ∧ glibcGraph.imports.Rising ∧ forgeGraph.imports.Rising ∧
    (∃ new, (known.merge glibcGraph).importsOf "linux-x64" = ["linux", "unix-x64"] ++ new ∧
      FirstSeen ["glibc-x64", "glibc-x64", "glibc"] new) ∧
    (known.merge glibcGraph).merge forgeGraph = known.merge (glibcGraph.merge forgeGraph) ∧
    "unix-x64" ∈ ((known.merge glibcGraph).merge forgeGraph).expand "linux-x64" := by
  have hglibc : glibcGraph.imports.Rising := Dictionary.rising_ofEntries _
  have hforge : forgeGraph.imports.Rising := Dictionary.rising_ofEntries _
  obtain ⟨hnew, -, -, -, hassoc, hreach⟩ :=
    merge_orderedUnion known glibcGraph forgeGraph rising_known hglibc hforge
  have hold : known.importsOf "linux-x64" = ["linux", "unix-x64"] := by decide +kernel
  have hadded : (glibcGraph.importsOf "linux-x64").filter (· ∉ ["linux", "unix-x64"]) =
      ["glibc-x64", "glibc-x64", "glibc"] := by
    decide +kernel
  refine ⟨rising_known, hglibc, hforge, ?_, hassoc, (hreach "linux-x64").2 _ (by decide +kernel)⟩
  obtain ⟨new, himports, hseen⟩ := hnew "linux-x64"
  rw [hold] at himports hseen
  rw [hadded] at hseen
  exact ⟨new, himports, hseen⟩

end ScriptDeps.RuntimeGraph
