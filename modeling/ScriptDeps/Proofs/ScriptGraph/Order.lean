/-
The order of the graph.

A script comes before what it loads, and all that its first load brings in comes before its
second.  So what a script brings in stands together behind it: those scripts that loading
reaches from it without going through one that was listed before.

`Listing` is the walk without its steps.  A walk that does not fail is a listing, and a
listing of two stacks, one on top of the other, is a listing of the first and then one of
the second.  That is what makes a block of the scripts on top of a stack.
-/
import ScriptDeps.Proofs.ScriptGraph

namespace ScriptDeps.ScriptGraph

variable {s : Store} {entries : List Path} {steps : Nat} {p q r : Path}
  {stack below seen files avoid : List Path} {source : String}

/-! ### Listings -/

/-- Going through a stack of scripts, with some of them seen before, gives a list. -/
inductive Listing (s : Store) : List Path → List Path → List Path → Prop
  | done {seen : List Path} : Listing s [] seen seen
  | skip {p : Path} {stack seen files : List Path} : p ∈ seen → Listing s stack seen files →
      Listing s (p :: stack) seen files
  | visit {p : Path} {source : String} {stack seen files : List Path} : p ∉ seen →
      s.readText p = .ok source → Listing s (targets p source ++ stack) (seen ++ [p]) files →
      Listing s (p :: stack) seen files

/-- **A walk gives what a listing does**, and fails if there is none. -/
theorem Walking.walk_eq_ok_iff (h : Walking s entries steps stack seen) :
    walk s steps stack seen = .ok files ↔ Listing s stack seen files := by
  induction steps generalizing stack seen with
  | zero =>
      cases stack with
      | cons p stack => exact absurd h.steps_pos (Nat.lt_irrefl 0)
      | nil =>
          rw [walk, Except.ok.injEq]
          exact ⟨fun heq => heq ▸ .done, fun hlisting => by cases hlisting; rfl⟩
  | succ steps ih =>
      cases stack with
      | nil =>
          rw [walk, Except.ok.injEq]
          exact ⟨fun heq => heq ▸ .done, fun hlisting => by cases hlisting; rfl⟩
      | cons p stack =>
          rw [walk]
          by_cases hp : p ∈ seen
          · rw [if_pos (h.any_same.mpr hp), ih (h.skip hp)]
            refine ⟨.skip hp, fun hlisting => ?_⟩
            cases hlisting with
            | skip _ hrest => exact hrest
            | visit hnew => exact absurd hp hnew
          · rw [if_neg (mt h.any_same.mp hp)]
            cases hsource : s.readText p with
            | error fault =>
                refine ⟨fun hc => by contradiction, fun hlisting => ?_⟩
                cases hlisting with
                | skip hold => exact absurd hold hp
                | visit _ hread => simp [hsource] at hread
            | ok source =>
                simp only [ih (h.visit hp hsource)]
                refine ⟨.visit hp hsource, fun hlisting => ?_⟩
                cases hlisting with
                | skip hold => exact absurd hold hp
                | visit _ hread hrest =>
                    rw [hsource, Except.ok.injEq] at hread
                    exact hread ▸ hrest

theorem ofEntries_eq_ok_iff :
    ofEntries s entries = .ok files ↔ Listing s (starts s entries) [] files :=
  (walking_starts s entries).walk_eq_ok_iff

namespace Listing

/-- What was seen stays in front. -/
theorem isPrefix (h : Listing s stack seen files) : seen <+: files := by
  induction h with
  | done => exact List.prefix_refl _
  | skip _ _ ih => exact ih
  | visit _ _ _ ih => exact (List.prefix_append _ _).trans ih

/-- There is no other list. -/
theorem unique {others : List Path} (h : Listing s stack seen files)
    (ho : Listing s stack seen others) : files = others := by
  induction h with
  | done =>
      cases ho
      rfl
  | skip hp _ ih =>
      cases ho with
      | skip _ hrest => exact ih hrest
      | visit hnew => exact absurd hp hnew
  | visit hp hsource _ ih =>
      cases ho with
      | skip hold => exact absurd hold hp
      | visit _ hread hrest =>
          rw [hsource, Except.ok.injEq] at hread
          subst hread
          exact ih hrest

/-- What is on top of a stack is listed first. -/
theorem append (h : Listing s (stack ++ below) seen files) :
    ∃ mid, Listing s stack seen mid ∧ Listing s below mid files := by
  generalize hwhole : stack ++ below = whole at h
  induction h generalizing stack with
  | done =>
      obtain ⟨rfl, rfl⟩ := List.append_eq_nil_iff.mp hwhole
      exact ⟨_, .done, .done⟩
  | @skip p rest seen files hp hrest ih =>
      cases stack with
      | nil =>
          rw [List.nil_append] at hwhole
          exact ⟨seen, .done, hwhole ▸ .skip hp hrest⟩
      | cons top stack =>
          obtain ⟨rfl, rfl⟩ := List.cons.inj hwhole
          obtain ⟨mid, hmid, hbelow⟩ := ih rfl
          exact ⟨mid, .skip hp hmid, hbelow⟩
  | @visit p source rest seen files hp hsource hrest ih =>
      cases stack with
      | nil =>
          rw [List.nil_append] at hwhole
          exact ⟨seen, .done, hwhole ▸ .visit hp hsource hrest⟩
      | cons top stack =>
          obtain ⟨rfl, rfl⟩ := List.cons.inj hwhole
          obtain ⟨mid, hmid, hbelow⟩ := ih (List.append_assoc _ _ _)
          exact ⟨mid, .visit hp hsource hmid, hbelow⟩

theorem nodup (h : Listing s stack seen files) (hseen : seen.Nodup) : files.Nodup := by
  induction h with
  | done => exact hseen
  | skip _ _ ih => exact ih hseen
  | visit hp _ _ ih =>
      refine ih (List.nodup_append'.mpr ⟨hseen, List.nodup_singleton _, ?_⟩)
      simpa using hp

end Listing

/-! ### What a script brings in -/

/-- Loading reaches `q` from `p`, and never a script that is to be avoided. -/
inductive Through (s : Store) (avoid : List Path) (p : Path) : Path → Prop
  | start : p ∉ avoid → Through s avoid p p
  | load {q r : Path} {source : String} : Through s avoid p q → s.readText q = .ok source →
      r ∈ targets q source → r ∉ avoid → Through s avoid p r

namespace Through

theorem not_mem_start (h : Through s avoid p q) : p ∉ avoid := by
  induction h with
  | start hp => exact hp
  | load _ _ _ _ ih => exact ih

theorem not_mem (h : Through s avoid p q) : q ∉ avoid := by
  cases h with
  | start hp => exact hp
  | load _ _ _ hr => exact hr

theorem mono {fewer : List Path} (h : Through s avoid p q) (hsub : fewer ⊆ avoid) :
    Through s fewer p q := by
  induction h with
  | start hp => exact .start fun hc => hp (hsub hc)
  | load _ hsource hr hnot ih => exact .load ih hsource hr fun hc => hnot (hsub hc)

theorem trans (h : Through s avoid p q) (hr : Through s avoid q r) : Through s avoid p r := by
  induction hr with
  | start => exact h
  | load _ hsource htarget hnot ih => exact .load ih hsource htarget hnot

/-- A way that comes by `x` leads there, or goes on from one of its loads and never comes by it
again. -/
theorem avoid_or {x : Path} (hsource : s.readText x = .ok source) (h : Through s avoid p q) :
    Through s (avoid ++ [x]) p q ∨ q = x ∨
      ∃ t ∈ targets x source, Through s (avoid ++ [x]) t q := by
  have hnew : ∀ {y : Path}, y ∉ avoid → y ≠ x → y ∉ avoid ++ [x] := by
    intro y hy hne hc
    rcases List.mem_append.mp hc with hc | hc
    · exact hy hc
    · exact hne (List.mem_singleton.mp hc)
  induction h with
  | start hp =>
      by_cases hx : p = x
      · exact Or.inr (Or.inl hx)
      · exact Or.inl (.start (hnew hp hx))
  | @load q r content hq hcontent hr hnot ih =>
      by_cases hx : r = x
      · exact Or.inr (Or.inl hx)
      rcases ih with hway | rfl | ⟨t, ht, hway⟩
      · exact Or.inl (.load hway hcontent hr (hnew hnot hx))
      · rw [hsource, Except.ok.injEq] at hcontent
        exact Or.inr (Or.inr ⟨r, hcontent ▸ hr, .start (hnew hnot hx)⟩)
      · exact Or.inr (Or.inr ⟨t, ht, .load hway hcontent hr (hnew hnot hx)⟩)

end Through

/-- **A listing adds what loading reaches from its stack past what was seen**, and nothing else. -/
theorem Listing.mem_iff (h : Listing s stack seen files) :
    q ∈ files ↔ q ∈ seen ∨ ∃ p ∈ stack, Through s seen p q := by
  induction h with
  | done => simp
  | @skip p stack seen files hp _ ih =>
      rw [ih]
      refine or_congr_right ⟨?_, ?_⟩
      · rintro ⟨t, ht, hway⟩
        exact ⟨t, List.mem_cons_of_mem p ht, hway⟩
      · rintro ⟨t, ht, hway⟩
        rcases List.mem_cons.mp ht with rfl | ht
        · exact absurd hp hway.not_mem_start
        · exact ⟨t, ht, hway⟩
  | @visit p source stack seen files hp hsource _ ih =>
      rw [ih, List.mem_append, List.mem_singleton, or_assoc]
      refine or_congr_right ⟨?_, ?_⟩
      · rintro (rfl | ⟨t, ht, hway⟩)
        · exact ⟨q, List.mem_cons_self, .start hp⟩
        · have hold := hway.mono (List.subset_append_left seen [p])
          rcases List.mem_append.mp ht with ht | ht
          · have hload : Through s seen p t := .load (.start hp) hsource ht hold.not_mem_start
            exact ⟨p, List.mem_cons_self, hload.trans hold⟩
          · exact ⟨t, List.mem_cons_of_mem p ht, hold⟩
      · rintro ⟨t, ht, hway⟩
        rcases hway.avoid_or hsource with hpast | rfl | ⟨u, hu, hpast⟩
        · rcases List.mem_cons.mp ht with rfl | ht
          · exact absurd (List.mem_append_right seen List.mem_cons_self) hpast.not_mem_start
          · exact Or.inr ⟨t, List.mem_append_right _ ht, hpast⟩
        · exact Or.inl rfl
        · exact Or.inr ⟨u, List.mem_append_left _ hu, hpast⟩

/-! ### Blocks -/

/-- The script `p` with all that it brings in past `before`, itself first and each once. -/
structure IsBlock (s : Store) (before : List Path) (p : Path) (block : List Path) : Prop where
  head : block.head? = some p
  nodup : block.Nodup
  mem_iff : ∀ q, q ∈ block ↔ Through s before p q

/-- The blocks of some scripts one after the other, where a script that is listed when its turn
comes has none. -/
inductive Blocks (s : Store) : List Path → List Path → List Path → Prop
  | nil {before : List Path} : Blocks s before [] []
  | listed {before scripts blocks : List Path} {p : Path} : p ∈ before →
      Blocks s before scripts blocks → Blocks s before (p :: scripts) blocks
  | block {before scripts block blocks : List Path} {p : Path} : p ∉ before →
      IsBlock s before p block → Blocks s (before ++ block) scripts blocks →
      Blocks s before (p :: scripts) (block ++ blocks)

/-- What is listed for a single script that was not seen is its block. -/
theorem Listing.isBlock {block : List Path} (h : Listing s [p] seen (seen ++ block))
    (hp : p ∉ seen) (hnodup : seen.Nodup) : IsBlock s seen p block := by
  have hall := List.nodup_append'.mp (h.nodup hnodup)
  refine ⟨?_, hall.2.1, fun q => ?_⟩
  · cases h with
    | skip hold => exact absurd hold hp
    | visit _ _ hrest =>
        have hfront := hrest.isPrefix
        rw [List.prefix_append_right_inj] at hfront
        obtain ⟨more, rfl⟩ := hfront
        rfl
  · have hmem := h.mem_iff (q := q)
    simp only [List.mem_append, List.mem_singleton, exists_eq_left] at hmem
    constructor
    · intro hq
      exact (hmem.mp (Or.inr hq)).resolve_left fun hc => hall.2.2 hc hq
    · intro hway
      exact (hmem.mpr (Or.inr hway)).resolve_left hway.not_mem

theorem Listing.blocks {blocks : List Path} (h : Listing s stack seen (seen ++ blocks))
    (hnodup : seen.Nodup) : Blocks s seen stack blocks := by
  induction stack generalizing seen blocks with
  | nil =>
      generalize hfiles : seen ++ blocks = files at h
      cases h
      rw [List.append_right_eq_self.mp hfiles]
      exact .nil
  | cons p stack ih =>
      by_cases hp : p ∈ seen
      · cases h with
        | skip _ hrest => exact .listed hp (ih hrest hnodup)
        | visit hnew => exact absurd hp hnew
      · have hsplit : Listing s ([p] ++ stack) seen (seen ++ blocks) := h
        obtain ⟨mid, hfirst, hrest⟩ := hsplit.append
        obtain ⟨block, rfl⟩ := hfirst.isPrefix
        obtain ⟨more, hmore⟩ := hrest.isPrefix
        rw [List.append_assoc, List.append_cancel_left_eq] at hmore
        subst hmore
        rw [← List.append_assoc] at hrest
        exact .block hp (hfirst.isBlock hp hnodup) (ih hrest (hfirst.nodup hnodup))

/-- Where a script is listed, its listing begins. -/
theorem Listing.exists_at {before after : List Path}
    (h : Listing s stack seen (before ++ p :: after)) (hbefore : seen <+: before) :
    ∃ block rest, after = block ++ rest ∧ Listing s [p] before (before ++ p :: block) := by
  generalize hfiles : before ++ p :: after = files at h
  induction h with
  | @done seen =>
      have hlength := hbefore.length_le
      rw [← hfiles, List.length_append, List.length_cons] at hlength
      omega
  | skip _ _ ih => exact ih hbefore hfiles
  | @visit top source stack seen files hnew hsource hrest ih =>
      by_cases hhere : seen = before
      · -- the script is the one that is visited here
        subst hhere
        obtain ⟨more, hmore⟩ := hrest.isPrefix
        rw [List.append_assoc, ← hfiles, List.append_cancel_left_eq] at hmore
        obtain ⟨rfl, rfl⟩ := List.cons.inj hmore
        obtain ⟨mid, hloads, hbelow⟩ := hrest.append
        obtain ⟨block, rfl⟩ := hloads.isPrefix
        obtain ⟨rest, hrest⟩ := hbelow.isPrefix
        rw [← hfiles, List.append_assoc, List.append_assoc, List.append_cancel_left_eq] at hrest
        refine ⟨block, rest, (List.cons.inj hrest).2.symm, .visit hnew hsource ?_⟩
        rw [List.append_nil]
        rw [List.append_assoc, List.singleton_append] at hloads
        exact hloads
      · refine ih ?_ hfiles
        -- what is listed before it goes on with the script that is visited here
        obtain ⟨more, hmore⟩ := hbefore
        cases more with
        | nil => exact absurd (by simpa using hmore) hhere
        | cons next more =>
            obtain ⟨rest, hrest⟩ := hrest.isPrefix
            rw [← hfiles, ← hmore, List.append_assoc, List.append_assoc,
              List.append_cancel_left_eq] at hrest
            obtain ⟨rfl, -⟩ := List.cons.inj hrest
            exact ⟨more, by rw [← hmore, List.append_assoc]; rfl⟩

/-! ### The whole graph -/

/-- The listing of a script is the script and the blocks of its loads. -/
theorem Listing.loads {block : List Path} (h : Listing s [p] seen (seen ++ p :: block))
    (hp : p ∉ seen) (hnodup : seen.Nodup) :
    ∃ source, s.readText p = .ok source ∧ Blocks s (seen ++ [p]) (targets p source) block := by
  cases h with
  | skip hold => exact absurd hold hp
  | @visit _ source _ _ _ _ hsource hloads =>
      refine ⟨source, hsource, ?_⟩
      rw [List.append_nil, List.append_cons seen p block] at hloads
      refine hloads.blocks (List.nodup_append'.mpr ⟨hnodup, List.nodup_singleton p, ?_⟩)
      simpa using hp

/-- **The graph is in depth-first order.**  Behind every script stands, without a gap, just what
it brings in past the scripts before it: the blocks of its loads, in the order of the loads.
So a graph of more entries goes on where that of the first of them ends. -/
theorem ofEntries_preorder (s : Store) (entries files : List Path)
    (h : ofEntries s entries = .ok files) :
    files.Nodup ∧
    (∀ before p after, files = before ++ p :: after →
      ∃ source block rest, s.readText p = .ok source ∧ after = block ++ rest ∧
        IsBlock s before p (p :: block) ∧ Blocks s (before ++ [p]) (targets p source) block) ∧
    ∀ more longer, ofEntries s (entries ++ more) = .ok longer → files <+: longer := by
  have hlisting : Listing s (starts s entries) [] files := ofEntries_eq_ok_iff.mp h
  have hnodup : files.Nodup := hlisting.nodup List.nodup_nil
  refine ⟨hnodup, ?_, ?_⟩
  · rintro before p after rfl
    obtain ⟨hbefore, -, hdisjoint⟩ := List.nodup_append'.mp hnodup
    have hp : p ∉ before := fun hc => hdisjoint hc List.mem_cons_self
    obtain ⟨block, rest, rfl, hblock⟩ := hlisting.exists_at (List.nil_prefix)
    obtain ⟨source, hsource, hloads⟩ := hblock.loads hp hbefore
    exact ⟨source, block, rest, hsource, rfl, hblock.isBlock hp hbefore, hloads⟩
  · intro more longer hlonger
    have hall : Listing s (starts s entries ++ starts s more) [] longer := by
      rw [starts, starts, ← List.map_append]
      exact ofEntries_eq_ok_iff.mp hlonger
    obtain ⟨mid, hfirst, hrest⟩ := hall.append
    rw [hlisting.unique hfirst]
    exact hrest.isPrefix

/-- Four scripts in one directory.  The first loads the second and the last, both of which load
the third, and the third loads the first. -/
def fourScripts : Store :=
  let script (s : Store) (name text : String) : Store :=
    s.put ["s", name] (.file text.toUTF8 false)
  let s := Store.empty.put ["s"] .directory
  let s := script s "a.csx" "#load \"b.csx\"\n#load \"d.csx\"\n"
  let s := script s "b.csx" "#load \"c.csx\"\n"
  let s := script s "c.csx" "#load \"a.csx\"\n"
  script s "d.csx" "#load \"c.csx\"\n"

theorem ofEntries_fourScripts :
    ofEntries fourScripts [⟨"/s/a.csx"⟩] =
      .ok [⟨"/s/a.csx"⟩, ⟨"/s/b.csx"⟩, ⟨"/s/c.csx"⟩, ⟨"/s/d.csx"⟩] := by
  decide +kernel

/-- The second script stands with the third behind it, and a graph that goes on from there begins
with all four. -/
theorem ofEntries_preorder_fourScripts :
    (∃ source block rest, fourScripts.readText ⟨"/s/b.csx"⟩ = .ok source ∧
      [⟨"/s/c.csx"⟩, ⟨"/s/d.csx"⟩] = block ++ rest ∧
      IsBlock fourScripts [⟨"/s/a.csx"⟩] ⟨"/s/b.csx"⟩ (⟨"/s/b.csx"⟩ :: block) ∧
      Blocks fourScripts ([⟨"/s/a.csx"⟩] ++ [⟨"/s/b.csx"⟩]) (targets ⟨"/s/b.csx"⟩ source) block) ∧
    ∀ more longer, ofEntries fourScripts ([⟨"/s/a.csx"⟩] ++ more) = .ok longer →
      [⟨"/s/a.csx"⟩, ⟨"/s/b.csx"⟩, ⟨"/s/c.csx"⟩, ⟨"/s/d.csx"⟩] <+: longer := by
  obtain ⟨-, hblocks, hfront⟩ :=
    ofEntries_preorder fourScripts [⟨"/s/a.csx"⟩] _ ofEntries_fourScripts
  exact ⟨hblocks [⟨"/s/a.csx"⟩] _ _ rfl, hfront⟩

end ScriptDeps.ScriptGraph
