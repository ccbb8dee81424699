/-
The place that a path names.

Without links there is nothing to look up: a path that leads anywhere leads to the place that
its components spell from where it starts.  So a place can be told from the text alone, and
two paths in a row name what the second names as seen from the first.

What is written for a place is put together from its names.  It can also be made by a loop that
pushes the names onto a path and pops them off, since the path so far is then always what is
written for the names so far.  So what is made absolute hangs on the place alone.
-/
import ScriptDeps.Proofs.Layout
import ScriptDeps.Proofs.Path.Normal

namespace ScriptDeps

open Store (pathOf)
open Traversal (foldlM_cons_eq_ok_iff)

namespace Path

/-- The names that a path spells, read from a directory unless it is absolute. -/
def seenFrom (start : Location) (p : Path) : Location :=
  p.components.foldl fold (if p.isAbsolute then [] else start)

variable {p q : Path} {start : Location}

theorem seenFrom_of_isAbsolute (h : p.isAbsolute = true) (start : Location) :
    p.seenFrom start = p.names := by
  rw [seenFrom, if_pos h, names]

/-- The components that lead somewhere. -/
def parts (p : Path) : List Component :=
  p.pieces.filterMap component?

/-- What the components begin with: the root, or a `.` at the start. -/
def lead (p : Path) : List Component :=
  if p.isAbsolute then [.root] else if p.pieces.head? == some ['.'] then [.here] else []

theorem components_eq_lead (p : Path) : p.components = p.lead ++ p.parts := by
  unfold components lead parts
  split
  · rfl
  · split <;> rfl

/-- Components that lead nowhere do not count. -/
theorem seenFrom_eq (start : Location) (p : Path) :
    p.seenFrom start = p.parts.foldl fold (if p.isAbsolute then [] else start) := by
  rw [seenFrom, components, parts]
  split
  · rfl
  · split <;> rfl

/-- The pieces in front of a child spell what all of them do. -/
theorem filterMap_front (p : Path) : p.front.filterMap component? = p.parts := by
  have hidle : component? [] = none := rfl
  rw [front, parts]
  split
  · rename_i hlast
    obtain ⟨start, hstart⟩ := List.getLast?_eq_some_iff.mp hlast
    rw [hstart, List.dropLast_concat, List.filterMap_append, List.filterMap_cons_none hidle,
      List.filterMap_nil, List.append_nil]
  · rfl

theorem parts_child (dir : Path) {name : String} (h : IsName name) :
    (dir.child name).parts = dir.parts ++ [.name name] := by
  rw [parts, pieces_child dir h, List.filterMap_append, filterMap_front,
    List.filterMap_cons_some (component?_name h), List.filterMap_nil]

theorem join_of_isAbsolute (p : Path) (h : q.isAbsolute = true) : p.join q = q := by
  rw [join, if_pos h]

/-- Being absolute comes from the first of two paths, unless the second is. -/
theorem isAbsolute_join_eq (p : Path) (hq : q.isAbsolute = false) :
    (p.join q).isAbsolute = p.isAbsolute := by
  cases hp : p.isAbsolute with
  | true => exact isAbsolute_join hp q
  | false =>
      have hchars : p.chars.head? ≠ some '/' := by simpa [isAbsolute] using hp
      rw [join, hq, if_neg (by simp)]
      by_cases hempty : p.chars = []
      · rw [if_pos (by simp [hempty]), isAbsolute, chars_ofChars, hempty, List.nil_append]
        exact hq
      · obtain ⟨c, rest, hcons⟩ := List.exists_cons_of_ne_nil hempty
        rw [hcons, List.head?_cons] at hchars
        split <;> simpa [isAbsolute, hcons] using hchars

/-- **A path inside another names what it names as seen from there.** -/
theorem seenFrom_join (start : Location) (p q : Path) :
    (p.join q).seenFrom start = q.seenFrom (p.seenFrom start) := by
  cases hq : q.isAbsolute with
  | true => rw [join_of_isAbsolute p hq, seenFrom_of_isAbsolute hq, seenFrom_of_isAbsolute hq]
  | false =>
      rw [seenFrom_eq, isAbsolute_join_eq p hq, parts, pieces_join p hq, List.filterMap_append,
        filterMap_front, List.foldl_append, ← seenFrom_eq, seenFrom_eq _ q, hq]
      rfl

theorem seenFrom_child (start : Location) (p : Path) {name : String} (h : IsName name) :
    (p.child name).seenFrom start = p.seenFrom start ++ [name] := by
  rw [child, seenFrom_join, seenFrom_eq, h.isAbsolute, parts, h.pieces]
  simp [component?_name h, fold]

theorem filterMap_idles {idles : List (List Char)} (h : ∀ piece ∈ idles, isIdle piece = true) :
    idles.filterMap component? = [] := by
  rw [List.filterMap_eq_nil_iff]
  intro piece hpiece
  rw [component?, if_pos (h piece hpiece)]

/-- An absolute path with none above it spells nothing. -/
theorem parts_of_parent?_eq_none (habs : p.isAbsolute = true) (h : p.parent? = none) :
    p.parts = [] := by
  obtain ⟨next, others, hpieces⟩ := (isAbsolute_iff p).mp habs
  have hidle : component? [] = none := rfl
  rw [parent?, hpieces] at h
  simp only at h
  split at h
  · split at h <;> contradiction
  · rename_i hnone
    have hidles : ∀ piece ∈ next :: others, isIdle piece = true := fun piece hpiece =>
      List.dropWhile_eq_nil_iff.mp hnone piece (List.mem_reverse.mpr hpiece)
    rw [parts, hpieces, List.filterMap_cons_none hidle, filterMap_idles hidles]

/-- The path above the children spells the directory that they are in. -/
theorem parts_holder (p : Path) : p.holder.parts = p.parts := by
  have hidle : component? [] = none := rfl
  rw [← filterMap_front p]
  cases p.isCut with
  | start _ hfront hholder =>
      rw [hholder, hfront]
      rfl
  | root _ hfront hidles hholder =>
      rw [hholder, hfront, List.filterMap_cons_none hidle, filterMap_idles hidles]
      rfl
  | below _ hfront hidles hpieces _ _ =>
      rw [parts, hpieces, hfront, List.filterMap_append, filterMap_idles hidles, List.append_nil]

theorem isAbsolute_holder (p : Path) : p.holder.isAbsolute = p.isAbsolute := by
  cases p.isCut with
  | start habs _ hholder =>
      rw [hholder, habs]
      rfl
  | root habs _ _ hholder =>
      rw [hholder, habs]
      rfl
  | below habs _ _ _ _ _ => exact habs

theorem seenFrom_holder (start : Location) (p : Path) :
    p.holder.seenFrom start = p.seenFrom start := by
  rw [seenFrom_eq, seenFrom_eq, parts_holder, isAbsolute_holder]

/-! ### Relative paths of names -/

section OfNames

variable {names : List String} (h : ∀ name ∈ names, IsName name)

theorem chars_ofNames (names : List String) :
    (ofNames names).chars = Text.joinWith '/' (names.map String.toList) := by
  rw [ofNames, chars_ofChars]

include h

theorem isAbsolute_ofNames : (ofNames names).isAbsolute = false := by
  rw [isAbsolute, chars_ofNames, beq_eq_false_iff_ne]
  cases names with
  | nil => simp [Text.joinWith]
  | cons name names =>
      have hname : IsName name := h name List.mem_cons_self
      obtain ⟨c, rest, hcons⟩ := List.exists_cons_of_ne_nil hname.ne_nil
      have hc : c ≠ '/' := by
        rintro rfl
        exact hname.noSlash (by rw [hcons]; exact List.mem_cons_self)
      cases names <;> simp [Text.joinWith, hcons, hc]

theorem pieces_ofNames (hne : names ≠ []) : (ofNames names).pieces = names.map String.toList := by
  rw [pieces, chars_ofNames, Text.splitOn_joinWith (by simpa using hne)]
  intro piece hpiece
  obtain ⟨name, hname, rfl⟩ := List.mem_map.mp hpiece
  exact (h name hname).noSlash

theorem parts_ofNames : (ofNames names).parts = names.map Component.name := by
  by_cases hne : names = []
  · subst hne
    rfl
  · rw [parts, pieces_ofNames h hne, filterMap_component?_names h]

/-- A relative path of names adds them to the place it is seen from. -/
theorem seenFrom_ofNames (start : Location) : (ofNames names).seenFrom start = start ++ names := by
  rw [seenFrom_eq, parts_ofNames h, isAbsolute_ofNames h, foldl_fold_names]
  rfl

end OfNames

theorem seenFrom_relative (start : Location) (p : Path) :
    p.relative.seenFrom start = start ++ p.names :=
  seenFrom_ofNames (fun _ hname => isName_of_mem_names hname) start

theorem normalize_eq (h : p.isAbsolute = true) : p.normalize = pathOf p.names := by
  rw [normalize, if_pos h]
  rfl

/-- What is made absolute names the place that the path spells. -/
theorem absolutize_eq {base : Path} (h : base.isAbsolute = true) (p : Path) :
    base.absolutize p = pathOf (p.seenFrom base.names) := by
  unfold absolutize
  by_cases hp : p.isAbsolute = true
  · rw [if_pos hp, normalize_eq hp, seenFrom_of_isAbsolute hp]
  · have hjoin := isAbsolute_join h p
    rw [if_neg hp, normalize_eq hjoin, ← seenFrom_of_isAbsolute hjoin [], seenFrom_join,
      seenFrom_of_isAbsolute h]

/-! ### Two loops that fold a path -/

section Loops

variable {names : List String} {name : String}

/-- The path without its last component, if it has one. -/
def pop (p : Path) : Path :=
  p.parent?.getD p

/-- A path with one more component taken in. -/
def take (onRoot : Path → Path) (p : Path) : Component → Path
  | .root => onRoot p
  | .here => p
  | .up => p.pop
  | .name name => p.child name

theorem pieces_inj (h : p.pieces = q.pieces) : p = q := by
  have hchars : p.chars = q.chars := by
    rw [← Text.joinWith_splitOn '/' p.chars, ← Text.joinWith_splitOn '/' q.chars]
    exact congrArg (Text.joinWith '/') h
  cases p
  cases q
  exact congrArg Path.mk (String.toList_inj.mp hchars)

/-- What is idle is not a name, so nothing is cut off behind one. -/
theorem rdropWhile_isIdle_names (hnames : ∀ name ∈ names, IsName name) :
    (names.map String.toList).rdropWhile isIdle = names.map String.toList := by
  rw [List.rdropWhile_eq_self_iff]
  intro hne hidle
  obtain ⟨name, hname, hlast⟩ := List.mem_map.mp (List.getLast_mem hne)
  rw [← hlast, (hnames name hname).notIdle] at hidle
  contradiction

theorem getLast?_names (hnames : ∀ name ∈ names, IsName name) :
    (names.map String.toList).getLast? ≠ some [] := by
  intro hlast
  obtain ⟨name, hname, hnil⟩ := List.mem_map.mp (List.mem_of_getLast? hlast)
  exact (hnames name hname).ne_nil hnil

theorem front_ofNames (hnames : ∀ name ∈ names, IsName name) :
    (ofNames names).front = names.map String.toList := by
  by_cases hne : names = []
  · subst hne
    rfl
  · rw [front, pieces_ofNames hnames hne, if_neg (getLast?_names hnames)]

theorem front_pathOf (hnames : ∀ name ∈ names, IsName name) :
    (pathOf names).front = [] :: names.map String.toList := by
  by_cases hne : names = []
  · subst hne
    rfl
  · rw [front, pieces_pathOf hnames hne, if_neg]
    rw [List.getLast?_cons_of_ne_nil (by simpa using hne)]
    exact getLast?_names hnames

theorem isName_of_mem_concat (hnames : ∀ n ∈ names, IsName n) (hname : IsName name) :
    ∀ n ∈ names ++ [name], IsName n := by
  intro n hn
  rcases List.mem_append.mp hn with hn | hn
  · exact hnames n hn
  · exact List.mem_singleton.mp hn ▸ hname

/-- Paths that are written from names, one name after the other. -/
structure Writes (write : List String → Path) : Prop where
  child : ∀ names name, (∀ n ∈ names, IsName n) → IsName name →
    (write names).child name = write (names ++ [name])
  holder : ∀ names, (∀ n ∈ names, IsName n) → (write names).holder = write names
  start : (write []).parent? = none

theorem writes_ofNames : Writes ofNames where
  child names name hnames hname := by
    have hall := isName_of_mem_concat hnames hname
    refine pieces_inj ?_
    rw [pieces_child _ hname, front_ofNames hnames, pieces_ofNames hall (by simp), List.map_append]
    rfl
  holder names hnames := by
    have hrel := isAbsolute_ofNames hnames
    rw [holder, front_ofNames hnames, hrel]
    cases names with
    | nil => rfl
    | cons first rest =>
        have hrest := rdropWhile_isIdle_names fun n hn => hnames n (List.mem_cons_of_mem first hn)
        simp only [List.map_cons, hrest, Bool.false_and]
        rfl
  start := by decide

theorem writes_pathOf : Writes pathOf where
  child names name hnames hname := by
    have hall := isName_of_mem_concat hnames hname
    refine pieces_inj ?_
    rw [pieces_child _ hname, front_pathOf hnames, pieces_pathOf hall (by simp), List.map_append]
    rfl
  holder names hnames := by
    rw [holder, front_pathOf hnames, isAbsolute_pathOf]
    simp only [rdropWhile_isIdle_names hnames]
    cases names with
    | nil => rfl
    | cons first rest =>
        rw [pathOf, chars_ofNames]
        rfl
  start := by decide

theorem Writes.parent?_concat {write : List String → Path} (h : Writes write)
    (hnames : ∀ n ∈ names ++ [name], IsName n) :
    (write (names ++ [name])).parent? = some (write names) := by
  have habove : ∀ n ∈ names, IsName n := fun n hn => hnames n (List.mem_append_left _ hn)
  have hname : IsName name := hnames name (List.mem_append_right _ List.mem_cons_self)
  rw [← h.child names name habove hname, parent?_child _ hname, h.holder names habove]

/-- Taking the last name off is what going up does to the names. -/
theorem Writes.pop {write : List String → Path} (h : Writes write)
    (hnames : ∀ n ∈ names, IsName n) : (write names).pop = write names.dropLast := by
  unfold Path.pop
  rcases List.eq_nil_or_concat' names with rfl | ⟨above, name, rfl⟩
  · rw [h.start]
    rfl
  · rw [h.parent?_concat hnames, List.dropLast_concat]
    rfl

/-- **Pushing and popping names leaves what folding does.** -/
theorem Writes.foldl_take {write : List String → Path} (h : Writes write) (onRoot : Path → Path)
    {cs : List Component} {stack : List String} (hroot : .root ∉ cs)
    (hstack : ∀ n ∈ stack, IsName n) (hcs : ∀ n, .name n ∈ cs → IsName n) :
    cs.foldl (take onRoot) (write stack) = write (cs.foldl fold stack) := by
  -- the path so far is always written from the names so far
  induction cs generalizing stack with
  | nil => rfl
  | cons c cs ih =>
      rw [List.mem_cons, not_or] at hroot
      have hrest : ∀ n, .name n ∈ cs → IsName n := fun n hn => hcs n (List.mem_cons_of_mem c hn)
      cases c with
      | root => exact absurd rfl hroot.1
      | here => exact ih hroot.2 hstack hrest
      | up =>
          rw [List.foldl_cons, List.foldl_cons, take, fold, h.pop hstack]
          exact ih hroot.2 (fun n hn => hstack n (List.dropLast_subset stack hn)) hrest
      | name name =>
          have hname : IsName name := hcs name List.mem_cons_self
          rw [List.foldl_cons, List.foldl_cons, take, fold, h.child stack name hstack hname]
          exact ih hroot.2 (isName_of_mem_concat hstack hname) hrest

theorem root_not_mem_parts (p : Path) : .root ∉ p.parts := by
  intro hroot
  obtain ⟨piece, -, hpiece⟩ := List.mem_filterMap.mp hroot
  unfold component? at hpiece
  split at hpiece
  · contradiction
  · split at hpiece <;> simp at hpiece

/-- An absolute path is its root and its parts. -/
theorem components_of_isAbsolute (h : p.isAbsolute = true) : p.components = .root :: p.parts := by
  rw [components_eq_lead, lead, if_pos h]
  rfl

theorem isName_of_mem_parts (h : .name name ∈ p.parts) : IsName name :=
  isName_of_mem_components (components_eq_lead p ▸ List.mem_append_right _ h)

/-- The loop over the components of a path, from the empty path on. -/
def looped (onRoot : Path → Path) (p : Path) : Path :=
  p.components.foldl (take onRoot) ⟨""⟩

/-- The loop that leaves the root out gives the path relative to the root. -/
theorem looped_id (h : p.isAbsolute = true) : p.looped id = p.relative := by
  have hempty : take id ⟨""⟩ .root = ofNames [] := by decide
  rw [looped, relative, Path.names, components_of_isAbsolute h, List.foldl_cons, List.foldl_cons,
    hempty]
  exact writes_ofNames.foldl_take id (root_not_mem_parts p) (fun _ hn => by contradiction)
    fun _ hn => isName_of_mem_parts hn

/-- The loop that begins anew at the root gives the path in normal form. -/
theorem looped_root (h : p.isAbsolute = true) :
    p.looped (fun before => before.join ⟨"/"⟩) = p.normalize := by
  have hroot : take (fun before => before.join ⟨"/"⟩) ⟨""⟩ .root = pathOf [] := by decide
  rw [looped, normalize_eq h, Path.names, components_of_isAbsolute h, List.foldl_cons,
    List.foldl_cons, hroot]
  exact writes_pathOf.foldl_take _ (root_not_mem_parts p) (fun _ hn => by contradiction)
    fun _ hn => isName_of_mem_parts hn

/-- What is absolute is only folded. -/
theorem absolutize_of_isAbsolute (base : Path) (h : p.isAbsolute = true) :
    base.absolutize p = p.normalize := by
  rw [absolutize, if_pos h]

/-- Absolute paths have one normal form if they fold to the same names. -/
theorem same_normalize_iff (hp : p.isAbsolute = true) (hq : q.isAbsolute = true) :
    p.normalize.same q.normalize = true ↔ p.names = q.names := by
  rw [(isNormal_normalize hp).same_iff (isNormal_normalize hq), normalize_eq hp, normalize_eq hq]
  constructor
  · intro h
    have hnames := congrArg Path.names h
    rwa [names_pathOf fun _ hname => isName_of_mem_names hname,
      names_pathOf fun _ hname => isName_of_mem_names hname] at hnames
  · exact congrArg pathOf

end Loops

/-! ### What is made absolute -/

section Absolutize

variable {base : Path}

theorem isName_of_mem_seenFrom {name : String} (hstart : ∀ n ∈ start, IsName n)
    (h : name ∈ p.seenFrom start) : IsName name := by
  refine foldl_fold_isName ?_ (fun _ hc => isName_of_mem_components hc) name h
  split
  · simp
  · exact hstart

/-- What is in normal form stays as it is. -/
theorem IsNormal.absolutize (h : p.IsNormal) (base : Path) : base.absolutize p = p := by
  rw [absolutize_of_isAbsolute base h.isAbsolute, normalize_eq h.isAbsolute, h.pathOf_names]

/-- The directory above a path in normal form has all its names but the last; the root is above
itself. -/
theorem IsNormal.parent?_getD (h : p.IsNormal) :
    p.parent?.getD ⟨"/"⟩ = pathOf p.names.dropLast := by
  obtain ⟨names, hnames, rfl⟩ := h
  rw [names_pathOf hnames]
  rcases List.eq_nil_or_concat' names with rfl | ⟨above, name, rfl⟩
  · decide
  · rw [writes_pathOf.parent?_concat hnames, List.dropLast_concat]
    rfl

variable (h : base.isAbsolute = true)

include h

theorem names_absolutize (p : Path) : (base.absolutize p).names = p.seenFrom base.names := by
  rw [absolutize_eq h, names_pathOf]
  exact fun _ hname => isName_of_mem_seenFrom (fun _ hn => isName_of_mem_names hn) hname

theorem components_absolutize (p : Path) :
    (base.absolutize p).components = .root :: (p.seenFrom base.names).map Component.name := by
  rw [absolutize_eq h, components_pathOf]
  exact fun _ hname => isName_of_mem_seenFrom (fun _ hn => isName_of_mem_names hn) hname

/-- The loop over the components of both paths makes absolute. -/
theorem looped_absolutize (p : Path) :
    (if p.isAbsolute then p else base.join p).looped (fun before => before.join ⟨"/"⟩) =
      base.absolutize p :=
  looped_root (isAbsolute_seen h p)

/-- One path after the other is the two in a row. -/
theorem absolutize_absolutize (p q : Path) :
    (base.absolutize p).absolutize q = base.absolutize (p.join q) := by
  rw [absolutize_eq (isNormal_absolutize h p).isAbsolute, names_absolutize h, absolutize_eq h,
    seenFrom_join]

/-- Paths become one when they are made absolute only if they spell one place. -/
theorem absolutize_eq_iff :
    base.absolutize p = base.absolutize q ↔ p.seenFrom base.names = q.seenFrom base.names := by
  constructor
  · intro heq
    rw [← names_absolutize h, ← names_absolutize h, heq]
  · intro heq
    rw [absolutize_eq h, absolutize_eq h, heq]

end Absolutize

end Path

namespace Store

variable {s : Store} {p : Path} {loc : Location}

theorem foldlM_step_eq {pieces : List (List Char)} {start : Location}
    (h : pieces.foldlM s.step start = .ok loc) :
    loc = (pieces.filterMap Path.component?).foldl Path.fold start := by
  induction pieces generalizing start with
  | nil => exact (Except.ok.inj h).symm
  | cons piece pieces ih =>
      obtain ⟨next, hstep, hrest⟩ := foldlM_cons_eq_ok_iff.mp h
      rw [ih hrest, List.filterMap_cons]
      rw [step, node?_of_step hstep] at hstep
      simp only at hstep
      by_cases hidle : Path.isIdle piece = true
      · rw [if_pos hidle, Except.ok.injEq] at hstep
        rw [Path.component?, if_pos hidle, hstep]
      rw [if_neg hidle] at hstep
      by_cases hup : (piece == ['.', '.']) = true
      · rw [if_pos hup, Except.ok.injEq] at hstep
        rw [Path.component?, if_neg hidle, if_pos hup, ← hstep]
        rfl
      rw [if_neg hup] at hstep
      split at hstep
      · contradiction
      · rw [Path.component?, if_neg hidle, if_neg hup, ← Except.ok.inj hstep]
        rfl

/-- **A path leads to the place that it names**, if it leads anywhere. -/
theorem locate_seenFrom (h : s.locate p = .ok loc) : loc = p.seenFrom s.cwd := by
  rw [Path.seenFrom_eq]
  exact foldlM_step_eq (locate_eq_ok_iff.mp h).2

end Store

end ScriptDeps
