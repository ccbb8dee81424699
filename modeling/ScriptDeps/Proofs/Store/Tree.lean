/-
A store is a tree.

Whatever stands in a store stands in a directory.  A store that is put together anyhow need
not be so, but every change keeps it, because a path leads to a location only through
directories.

All that a change does is said by what stands at each location afterwards.  `Sets` and
`Clears` are the two ways in which it can differ: something stands there that did not, or
nothing does.  Neither takes a directory away, so a path that led somewhere before the
change leads to the same place after it.
-/
import Mathlib.Data.List.Basic
import Mathlib.Data.List.Induction
import ScriptDeps.Proofs.Text.Split
import ScriptDeps.Proofs.Traversal
import ScriptDeps.Store

namespace ScriptDeps.Store

open Traversal (bind_eq_ok_iff foldlM_append_eq_ok_iff foldlM_cons_eq_ok_iff)

variable {s s' : Store} {loc : Location}

/-! ### What stands where after a change -/

theorem node?_eq_lookup (s : Store) (h : loc ≠ []) : s.node? loc = s.entries.lookup loc := by
  cases loc with
  | nil => contradiction
  | cons name rest => rfl

theorem lookup_filter_place (keep : Location → Bool) (entries : List (Location × Node)) :
    (entries.filter fun e => keep e.1).lookup loc =
      if keep loc then entries.lookup loc else none := by
  induction entries with
  | nil => simp
  | cons e entries ih =>
      obtain ⟨place, node⟩ := e
      by_cases hplace : loc = place
      · rw [List.filter_cons]
        by_cases hkeep : keep loc = true
        · simp [← hplace, hkeep]
        · simp [← hplace, hkeep, ih]
      · have hne : (loc == place) = false := by simpa using hplace
        rw [List.filter_cons, List.lookup_cons, hne]
        by_cases hkeep : keep place = true
        · rw [if_pos hkeep, List.lookup_cons, hne]
          exact ih
        · rw [if_neg hkeep]
          exact ih

theorem node?_put (s : Store) (node : Node) (h : loc ≠ []) (l : Location) :
    (s.put loc node).node? l = if l = loc then some node else s.node? l := by
  by_cases hl : l = []
  · rw [if_neg (hl ▸ h.symm), hl]
    rfl
  · rw [node?_eq_lookup _ hl, node?_eq_lookup _ hl, put, List.lookup_cons]
    by_cases heq : l = loc
    · simp [heq]
    · have hne : (l == loc) = false := by simpa using heq
      rw [hne, if_neg heq, lookup_filter_place fun place => place != loc]
      simp [heq]

theorem node?_drop (s : Store) (loc : Location) {l : Location} (hl : l ≠ []) :
    (s.drop loc).node? l = if loc <+: l then none else s.node? l := by
  rw [node?_eq_lookup _ hl, node?_eq_lookup _ hl, drop,
    lookup_filter_place fun place => !loc.isPrefixOf place]
  by_cases h : loc <+: l
  · have hpre : loc.isPrefixOf l = true := List.isPrefixOf_iff_prefix.mpr h
    simp [h, hpre]
  · have hpre : loc.isPrefixOf l = false :=
      Bool.eq_false_iff.mpr fun hc => h (List.isPrefixOf_iff_prefix.mp hc)
    simp [h, hpre]

theorem lookup_moved (s : Store) (loc target l : Location) :
    (s.moved loc target).lookup l =
      if target <+: l then s.entries.lookup (loc ++ l.drop target.length) else none := by
  unfold moved
  induction s.entries with
  | nil => simp
  | cons e entries ih =>
      obtain ⟨place, node⟩ := e
      by_cases hplace : loc <+: place
      · obtain ⟨rest, rfl⟩ := hplace
        have hpre : loc.isPrefixOf (loc ++ rest) = true :=
          List.isPrefixOf_iff_prefix.mpr (List.prefix_append loc rest)
        simp only [List.filterMap_cons, hpre, if_true, List.drop_left, List.lookup_cons, ih]
        by_cases hl : target <+: l
        · obtain ⟨tail, rfl⟩ := hl
          simp only [List.drop_left, List.prefix_append, if_true]
          by_cases htail : tail = rest
          · simp [htail]
          · have h1 : (target ++ tail == target ++ rest) = false := by simpa using htail
            have h2 : (loc ++ tail == loc ++ rest) = false := by simpa using htail
            rw [h1, h2]
        · have hne : (l == target ++ rest) = false := by
            rw [beq_eq_false_iff_ne]
            exact fun h => hl (h ▸ List.prefix_append target rest)
          rw [hne, if_neg hl, if_neg hl]
      · have hpre : loc.isPrefixOf place = false :=
          Bool.eq_false_iff.mpr fun hc => hplace (List.isPrefixOf_iff_prefix.mp hc)
        have hne : (loc ++ l.drop target.length == place) = false := by
          rw [beq_eq_false_iff_ne]
          exact fun h => hplace (h ▸ List.prefix_append loc _)
        simp only [List.filterMap_cons, hpre, Bool.false_eq_true, if_false, List.lookup_cons, hne]
        exact ih

/-! ### Trees and changes -/

/-- Whatever stands in the store stands in a directory. -/
def IsTree (s : Store) : Prop :=
  ∀ loc name, (s.node? (loc ++ [name])).isSome = true → s.node? loc = some .directory

/-- The change made `node` stand at `loc`, and nothing else. -/
structure Sets (s s' : Store) (loc : Location) (node : Node) : Prop where
  cwd : s'.cwd = s.cwd
  node? : ∀ l, s'.node? l = if l = loc then some node else s.node? l

/-- The change took away what stood at `loc`, and nothing else. -/
structure Clears (s s' : Store) (loc : Location) : Prop where
  cwd : s'.cwd = s.cwd
  node? : ∀ l, s'.node? l = if l = loc then none else s.node? l

/-- The directory that holds a location is there. -/
def Reached (s : Store) (loc : Location) : Prop :=
  ∀ above name, loc = above ++ [name] → s.node? above = some .directory

/-- All directories are there still, and relative paths start where they did. -/
structure KeepsDirs (s s' : Store) : Prop where
  cwd : s'.cwd = s.cwd
  node? : ∀ l, s.node? l = some .directory → s'.node? l = some .directory

theorem KeepsDirs.refl (s : Store) : KeepsDirs s s :=
  ⟨rfl, fun _ h => h⟩

theorem KeepsDirs.trans {s'' : Store} (h1 : KeepsDirs s s') (h2 : KeepsDirs s' s'') :
    KeepsDirs s s'' :=
  ⟨h2.cwd.trans h1.cwd, fun l h => h2.node? l (h1.node? l h)⟩

/-- What is put in the place of no directory takes none away. -/
theorem Sets.keepsDirs {node : Node} (h : Sets s s' loc node)
    (hloc : s.node? loc ≠ some .directory) : KeepsDirs s s' := by
  refine ⟨h.cwd, fun l hl => ?_⟩
  have hne : l ≠ loc := fun heq => hloc (heq ▸ hl)
  rw [h.node?, if_neg hne]
  exact hl

theorem Clears.keepsDirs (h : Clears s s' loc) (hloc : s.node? loc ≠ some .directory) :
    KeepsDirs s s' := by
  refine ⟨h.cwd, fun l hl => ?_⟩
  have hne : l ≠ loc := fun heq => hloc (heq ▸ hl)
  rw [h.node?, if_neg hne]
  exact hl

/-- A file makes no directory. -/
theorem Sets.keepsDirs_back {content : ByteArray} {runnable : Bool}
    (h : Sets s s' loc (.file content runnable)) : KeepsDirs s' s := by
  refine ⟨h.cwd.symm, fun l hl => ?_⟩
  rw [h.node?] at hl
  split at hl
  · exact absurd hl (by simp)
  · exact hl

theorem Clears.keepsDirs_back (h : Clears s s' loc) : KeepsDirs s' s := by
  refine ⟨h.cwd.symm, fun l hl => ?_⟩
  rw [h.node?] at hl
  split at hl
  · contradiction
  · exact hl

theorem Sets.isTree {node : Node} (h : Sets s s' loc node) (hs : s.IsTree)
    (hreached : s.Reached loc) (hloc : s.node? loc ≠ some .directory) : s'.IsTree := by
  intro above name hname
  refine (h.keepsDirs hloc).node? above ?_
  rw [h.node?] at hname
  split at hname
  · rename_i heq
    exact hreached above name heq.symm
  · exact hs above name hname

theorem Clears.isTree (h : Clears s s' loc) (hs : s.IsTree)
    (hloc : s.node? loc ≠ some .directory) : s'.IsTree := by
  intro above name hname
  refine (h.keepsDirs hloc).node? above (hs above name ?_)
  rw [h.node?] at hname
  split at hname
  · contradiction
  · exact hname

/-- Below what is no directory there is nothing. -/
theorem IsTree.node?_below (hs : s.IsTree) (hloc : s.node? loc ≠ some .directory)
    {rest : Location} (hrest : rest ≠ []) : s.node? (loc ++ rest) = none := by
  induction rest using List.reverseRecOn with
  | nil => contradiction
  | append_singleton rest name ih =>
      by_contra hne
      have habove := hs (loc ++ rest) name (by
        rw [List.append_assoc]
        exact Option.isSome_iff_ne_none.mpr hne)
      by_cases hnil : rest = []
      · rw [hnil, List.append_nil] at habove
        exact hloc habove
      · rw [ih hnil] at habove
        contradiction

/-- A store is a tree if all its entries stand in directories. -/
theorem isTree_of_entries (h : ∀ entry ∈ s.entries, s.node? entry.1.dropLast = some .directory) :
    s.IsTree := by
  intro above name hname
  rw [node?_eq_lookup s (by simp)] at hname
  obtain ⟨node, hnode⟩ := Option.isSome_iff_exists.mp hname
  obtain ⟨front, back, heq, -⟩ := List.lookup_eq_some_iff.mp hnode
  have habove := h (above ++ [name], node) (by simp [heq])
  rwa [List.dropLast_concat] at habove

theorem sets_put (s : Store) (node : Node) (hloc : loc ≠ []) : Sets s (s.put loc node) loc node :=
  ⟨rfl, s.node?_put node hloc⟩

/-- A file has nothing below it, so it goes alone. -/
theorem clears_drop (hs : s.IsTree) (hnil : loc ≠ []) (hloc : s.node? loc ≠ some .directory) :
    Clears s (s.drop loc) loc := by
  refine ⟨rfl, fun l => ?_⟩
  by_cases hl : l = []
  · rw [if_neg (hl ▸ hnil.symm), hl]
    rfl
  · rw [node?_drop s loc hl]
    by_cases heq : l = loc
    · rw [if_pos (heq ▸ List.prefix_refl loc), if_pos heq]
    · rw [if_neg heq]
      split
      · rename_i hpre
        obtain ⟨rest, rfl⟩ := hpre
        exact (hs.node?_below hloc fun hc => heq (by rw [hc, List.append_nil])).symm
      · rfl

/-! ### Where a path leads -/

/-- What a path goes through is a directory. -/
theorem node?_of_step {reached next : Location} {piece : List Char}
    (h : s.step reached piece = .ok next) : s.node? reached = some .directory := by
  rw [step] at h
  split at h
  · contradiction
  · contradiction
  · assumption

/-- What is idle leads nowhere else. -/
theorem step_idle {reached next : Location} {piece : List Char} (hidle : Path.isIdle piece = true)
    (h : s.step reached piece = .ok next) : next = reached := by
  rw [step, node?_of_step h] at h
  simp only [hidle, if_true] at h
  exact (Except.ok.inj h).symm

theorem foldlM_step_idles {idles : List (List Char)} {start reached : Location}
    (hidles : ∀ piece ∈ idles, Path.isIdle piece = true)
    (h : idles.foldlM s.step start = .ok reached) : start = reached := by
  induction idles with
  | nil => exact Except.ok.inj h
  | cons piece idles ih =>
      obtain ⟨next, hstep, hrest⟩ := foldlM_cons_eq_ok_iff.mp h
      have hnext : next = start := step_idle (hidles piece List.mem_cons_self) hstep
      exact ih (fun other hother => hidles other (List.mem_cons_of_mem _ hother)) (hnext ▸ hrest)

theorem reached_of_step (hs : s.IsTree) {reached next : Location} {piece : List Char}
    (h : s.step reached piece = .ok next) : s.Reached next := by
  have hdir := node?_of_step h
  have hup : ∀ above name, reached = above ++ [name] → s.node? above = some .directory :=
    fun above name heq => hs above name (by rw [← heq, hdir]; rfl)
  rw [step, hdir] at h
  simp only at h
  intro above name hnext
  split at h
  · rw [Except.ok.injEq] at h
    exact hup above name (h.trans hnext)
  · split at h
    · rw [Except.ok.injEq] at h
      -- one step up from a directory is a directory, and so is one more
      rcases List.eq_nil_or_concat' reached with hnil | ⟨front, last, hlast⟩
      · rw [hnil, List.dropLast_nil] at h
        exact absurd (h.trans hnext) (by simp)
      · rw [hlast, List.dropLast_concat] at h
        exact hs above name (by rw [← hnext, ← h, hup front last hlast]; rfl)
    · split at h
      · contradiction
      · rw [Except.ok.injEq] at h
        obtain ⟨rfl, -⟩ := List.append_inj' (h.trans hnext) rfl
        exact hdir

/-- Reading pieces ends with the last of them. -/
theorem foldlM_step_concat {front : List (List Char)} {last : List Char} {start : Location}
    (h : (front ++ [last]).foldlM s.step start = .ok loc) :
    ∃ reached, front.foldlM s.step start = .ok reached ∧ s.step reached last = .ok loc := by
  obtain ⟨reached, hfront, hlast⟩ := foldlM_append_eq_ok_iff.mp h
  obtain ⟨next, hstep, hnext⟩ := foldlM_cons_eq_ok_iff.mp hlast
  obtain rfl : next = loc := Except.ok.inj hnext
  exact ⟨reached, hfront, hstep⟩

theorem pieces_ne_nil (p : Path) : p.pieces ≠ [] :=
  Text.splitOn_ne_nil '/' p.chars

/-- A path leads somewhere if the system takes its text and its pieces can be read. -/
theorem locate_eq_ok_iff {p : Path} :
    s.locate p = .ok loc ↔
      (p.chars.contains (Char.ofNat 0) = false ∧ p.chars.isEmpty = false ∧
        p.text.utf8ByteSize < maxPath) ∧
      p.pieces.foldlM s.step (if p.isAbsolute then [] else s.cwd) = .ok loc := by
  rw [locate]
  cases hzero : p.chars.contains (Char.ofNat 0) with
  | true => simp
  | false =>
      cases hempty : p.chars.isEmpty with
      | true => simp
      | false =>
          by_cases hlong : maxPath ≤ p.text.utf8ByteSize
          · simp [hlong, Nat.not_lt.mpr hlong]
          · simp [hlong, Nat.not_le.mp hlong]

/-- The last piece of a path is read in a directory. -/
theorem exists_step_of_locate {p : Path} (h : s.locate p = .ok loc) :
    ∃ reached last, p.pieces.getLast? = some last ∧ s.step reached last = .ok loc := by
  obtain ⟨-, hfold⟩ := locate_eq_ok_iff.mp h
  rcases List.eq_nil_or_concat' p.pieces with hnil | ⟨front, last, hlast⟩
  · exact absurd hnil (pieces_ne_nil p)
  · rw [hlast] at hfold
    obtain ⟨reached, -, hstep⟩ := foldlM_step_concat hfold
    exact ⟨reached, last, by rw [hlast, List.getLast?_concat], hstep⟩

/-- All above the end of a path are directories. -/
theorem reached_of_locate (hs : s.IsTree) {p : Path} (h : s.locate p = .ok loc) :
    s.Reached loc := by
  obtain ⟨reached, last, -, hstep⟩ := exists_step_of_locate h
  exact reached_of_step hs hstep

theorem KeepsDirs.step (h : KeepsDirs s s') {reached next : Location} {piece : List Char}
    (hstep : s.step reached piece = .ok next) : s'.step reached piece = .ok next := by
  have hdir := node?_of_step hstep
  rw [Store.step, hdir] at hstep
  rw [Store.step, h.node? _ hdir]
  exact hstep

theorem KeepsDirs.foldlM (h : KeepsDirs s s') {pieces : List (List Char)} {start : Location}
    (hfold : pieces.foldlM s.step start = .ok loc) : pieces.foldlM s'.step start = .ok loc := by
  induction pieces generalizing start with
  | nil => exact hfold
  | cons piece pieces ih =>
      obtain ⟨next, hstep, hrest⟩ := foldlM_cons_eq_ok_iff.mp hfold
      exact foldlM_cons_eq_ok_iff.mpr ⟨next, h.step hstep, ih hrest⟩

/-- A path leads where it led before. -/
theorem KeepsDirs.locate (h : KeepsDirs s s') {p : Path} (hp : s.locate p = .ok loc) :
    s'.locate p = .ok loc := by
  obtain ⟨htext, hfold⟩ := locate_eq_ok_iff.mp hp
  refine locate_eq_ok_iff.mpr ⟨htext, ?_⟩
  rw [h.cwd]
  exact h.foldlM hfold

theorem lookup_eq_ok_iff {p : Path} {node : Node} :
    s.lookup p = .ok node ↔ ∃ loc, s.locate p = .ok loc ∧ s.node? loc = some node := by
  rw [lookup, bind_eq_ok_iff]
  refine exists_congr fun loc => and_congr_right fun _ => ?_
  cases s.node? loc <;> simp

theorem lookup_of_locate {p : Path} {node : Node} (h : s.locate p = .ok loc)
    (hnode : s.node? loc = some node) : s.lookup p = .ok node :=
  lookup_eq_ok_iff.mpr ⟨loc, h, hnode⟩

theorem locate_of_lookup {p : Path} {node : Node} (h : s.lookup p = .ok node) :
    ∃ loc, s.locate p = .ok loc ∧ s.node? loc = some node :=
  lookup_eq_ok_iff.mp h

/-- A file is read where one stands. -/
theorem read_eq_ok_iff_lookup {p : Path} {content : ByteArray} :
    s.read p = .ok content ↔ ∃ runnable, s.lookup p = .ok (.file content runnable) := by
  rw [read, bind_eq_ok_iff]
  constructor
  · rintro ⟨node, hnode, hcontent⟩
    cases node with
    | directory => contradiction
    | file found runnable => exact ⟨runnable, Except.ok.inj hcontent ▸ hnode⟩
  · rintro ⟨runnable, hnode⟩
    exact ⟨_, hnode, rfl⟩

/-- A text is read where a file with its bytes stands. -/
theorem readText_eq_ok_iff {p : Path} {text : String} :
    s.readText p = .ok text ↔ ∃ content runnable,
      s.lookup p = .ok (.file content runnable) ∧ String.fromUTF8? content = some text := by
  rw [readText, bind_eq_ok_iff]
  constructor
  · rintro ⟨content, hread, htext⟩
    obtain ⟨runnable, hfile⟩ := read_eq_ok_iff_lookup.mp hread
    cases hcontent : String.fromUTF8? content with
    | none => simp [hcontent] at htext
    | some found => exact ⟨content, runnable, hfile, by simpa [hcontent] using htext⟩
  · rintro ⟨content, runnable, hfile, htext⟩
    exact ⟨content, read_eq_ok_iff_lookup.mpr ⟨runnable, hfile⟩, by rw [htext]⟩

/-! ### What stands at a path -/

/-- What stands at a path, if anything does. -/
def standing? (s : Store) (p : Path) : Option Node :=
  (s.lookup p).toOption

theorem exists?_eq (s : Store) (p : Path) : s.exists? p = (s.standing? p).isSome := by
  unfold exists? standing?
  cases s.lookup p <;> rfl

/-- A path that reads the same before and after leads to what stands there in both. -/
theorem standing?_congr {p : Path} (h : KeepsDirs s s') (hback : KeepsDirs s' s)
    (hnode : ∀ loc, s.locate p = .ok loc → s'.node? loc = s.node? loc) :
    s'.standing? p = s.standing? p := by
  cases hloc : s.locate p with
  | ok loc => simp only [standing?, lookup, hloc, h.locate hloc, bind, Except.bind, hnode loc hloc]
  | error fault =>
      cases hloc' : s'.locate p with
      | ok loc =>
          rw [hback.locate hloc'] at hloc
          contradiction
      | error fault' => simp [standing?, lookup, hloc, hloc', bind, Except.bind, Except.toOption]

theorem standing?_eq_some_iff {p : Path} {node : Node} :
    s.standing? p = some node ↔ s.lookup p = .ok node := by
  unfold standing?
  cases s.lookup p with
  | error fault => simp [Except.toOption]
  | ok found => simp [Except.toOption]

/-! ### Texts -/

theorem fromUTF8?_toUTF8 (text : String) : String.fromUTF8? text.toUTF8 = some text := by
  rw [String.fromUTF8?, String.toUTF8_eq_toByteArray, dif_pos text.isValidUTF8]
  rfl

/-- A file with the bytes of a text is read as that text. -/
theorem readText_of_read {p : Path} {text : String} (h : s.read p = .ok text.toUTF8) :
    s.readText p = .ok text := by
  obtain ⟨runnable, hfile⟩ := read_eq_ok_iff_lookup.mp h
  exact readText_eq_ok_iff.mpr ⟨_, runnable, hfile, fromUTF8?_toUTF8 text⟩

end ScriptDeps.Store
