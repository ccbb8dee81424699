/-
Absolute paths in normal form.

When `.` and `..` are folded, what is left of a path are names, and an absolute path is
written anew from them.  Such a path says nothing but its names: they are its components,
so two of these paths are the same only if they are one text, and each leads to the
location of its names if it leads anywhere.
-/
import ScriptDeps.Proofs.Path

namespace ScriptDeps

open Store (pathOf)
open Traversal (foldlM_cons_eq_ok_iff)

namespace Path

/-! ### What is written from names -/

theorem chars_pathOf (names : Location) :
    (pathOf names).chars = '/' :: Text.joinWith '/' (names.map String.toList) := by
  simp [pathOf, ofNames]

theorem isAbsolute_pathOf (names : Location) : (pathOf names).isAbsolute = true := by
  simp [isAbsolute, chars_pathOf]

theorem splitOn_slash_cons (s : List Char) :
    Text.splitOn '/' ('/' :: s) = [] :: Text.splitOn '/' s := by
  simp [Text.splitOn]

/-- The pieces of a path with names are an empty one and the names. -/
theorem pieces_pathOf {names : Location} (hnames : ∀ name ∈ names, IsName name)
    (hne : names ≠ []) : (pathOf names).pieces = [] :: names.map String.toList := by
  have hslash : ∀ piece ∈ names.map String.toList, '/' ∉ piece := by
    intro piece hpiece
    obtain ⟨name, hname, rfl⟩ := List.mem_map.mp hpiece
    exact (hnames name hname).noSlash
  rw [pieces, chars_pathOf, splitOn_slash_cons, Text.splitOn_joinWith (by simpa using hne) hslash]

/-- A path with names ends in the last of them. -/
theorem endsIn_pathOf {names : Location} (hnames : ∀ name ∈ names, IsName name) {name : String}
    (hlast : names.getLast? = some name) : (pathOf names).EndsIn name := by
  obtain ⟨front, rfl⟩ := List.getLast?_eq_some_iff.mp hlast
  refine ⟨hnames name (List.mem_append_right _ List.mem_cons_self), ?_⟩
  rw [pieces_pathOf hnames (by simp), List.map_append, List.map_singleton, ← List.cons_append,
    List.getLast?_concat]

theorem pieces_pathOf_nil : (pathOf []).pieces = [[], []] := by
  rw [pieces, chars_pathOf]
  rfl

theorem component?_name {name : String} (h : IsName name) :
    component? name.toList = some (.name name) := by
  have hup : ¬ name.toList = ['.', '.'] := h.ne_dots
  simp [component?, h.notIdle, hup]

theorem filterMap_component?_names {names : Location} (hnames : ∀ name ∈ names, IsName name) :
    (names.map String.toList).filterMap component? = names.map Component.name := by
  induction names with
  | nil => rfl
  | cons name names ih =>
      have hname : IsName name := hnames name List.mem_cons_self
      rw [List.map_cons, List.filterMap_cons_some (component?_name hname), List.map_cons,
        ih fun other hother => hnames other (List.mem_cons_of_mem _ hother)]

/-- The components of a path written from names are the root and the names. -/
theorem components_pathOf {names : Location} (hnames : ∀ name ∈ names, IsName name) :
    (pathOf names).components = .root :: names.map Component.name := by
  have hidle : component? [] = none := rfl
  have hparts : (pathOf names).pieces.filterMap component? = names.map Component.name := by
    by_cases hne : names = []
    · subst hne
      rw [pieces_pathOf_nil]
      rfl
    · rw [pieces_pathOf hnames hne, List.filterMap_cons_none hidle,
        filterMap_component?_names hnames]
  simp [components, isAbsolute_pathOf, hparts]

theorem foldl_fold_names (names stack : List String) :
    (names.map Component.name).foldl fold stack = stack ++ names := by
  induction names generalizing stack with
  | nil => simp
  | cons name names ih => simp [ih, fold]

/-- Names that a path was written from can be read off it. -/
theorem names_pathOf {names : Location} (hnames : ∀ name ∈ names, IsName name) :
    (pathOf names).names = names := by
  rw [Path.names, components_pathOf hnames, List.foldl_cons, fold, foldl_fold_names,
    List.nil_append]

/-! ### Folding leaves names -/

/-- A piece that stands for a name is one. -/
theorem isName_of_component? {piece : List Char} {name : String} (hslash : '/' ∉ piece)
    (h : component? piece = some (.name name)) : IsName name := by
  unfold component? at h
  split at h
  · contradiction
  · rename_i hidle
    split at h
    · simp at h
    · rename_i hup
      simp only [Option.some.injEq, Component.name.injEq] at h
      subst h
      refine ⟨by simpa using hslash, by simpa using hidle, ?_⟩
      intro hc
      exact hup (by simp [← String.toList_inj] at hc; simp [hc])

theorem isName_of_mem_components {p : Path} {name : String}
    (h : Component.name name ∈ p.components) : IsName name := by
  have hparts : Component.name name ∈ p.pieces.filterMap component? := by
    unfold components at h
    simp only at h
    split at h
    · simpa using h
    · split at h
      · simpa using h
      · exact h
  obtain ⟨piece, hpiece, hname⟩ := List.mem_filterMap.mp hparts
  exact isName_of_component? (Text.not_mem_of_mem_splitOn hpiece) hname

theorem foldl_fold_isName {components : List Component} {stack : List String}
    (hstack : ∀ name ∈ stack, IsName name)
    (hcomponents : ∀ name, Component.name name ∈ components → IsName name) :
    ∀ name ∈ components.foldl fold stack, IsName name := by
  induction components generalizing stack with
  | nil => exact hstack
  | cons c components ih =>
      refine ih ?_ fun name hname => hcomponents name (List.mem_cons_of_mem c hname)
      intro name hname
      cases c with
      | root => exact hstack name hname
      | here => exact hstack name hname
      | up => exact hstack name (List.dropLast_subset stack hname)
      | name n =>
          rcases List.mem_append.mp hname with hold | hnew
          · exact hstack name hold
          · rw [List.mem_singleton.mp hnew]
            exact hcomponents n List.mem_cons_self

theorem isName_of_mem_names {p : Path} {name : String} (h : name ∈ p.names) : IsName name :=
  foldl_fold_isName (by simp) (fun _ hc => isName_of_mem_components hc) name h

/-! ### Normal form -/

/-- The path is absolute and written from names. -/
def IsNormal (p : Path) : Prop :=
  ∃ names : Location, (∀ name ∈ names, IsName name) ∧ p = pathOf names

theorem IsNormal.isAbsolute {p : Path} (h : p.IsNormal) : p.isAbsolute = true := by
  obtain ⟨names, -, rfl⟩ := h
  exact isAbsolute_pathOf names

theorem isNormal_normalize {p : Path} (h : p.isAbsolute = true) : p.normalize.IsNormal := by
  refine ⟨p.names, fun _ hname => isName_of_mem_names hname, ?_⟩
  rw [normalize, if_pos h]
  rfl

theorem isAbsolute_join {base : Path} (h : base.isAbsolute = true) (p : Path) :
    (base.join p).isAbsolute = true := by
  have hbase : base.chars.head? = some '/' := by simpa [isAbsolute] using h
  obtain ⟨rest, hrest⟩ := List.head?_eq_some_iff.mp hbase
  unfold join
  split
  · assumption
  · split <;> simp [isAbsolute, hrest]

/-- Seen from a directory that is absolute, a path is. -/
theorem isAbsolute_seen {base : Path} (h : base.isAbsolute = true) (p : Path) :
    (if p.isAbsolute then p else base.join p).isAbsolute = true := by
  split
  · assumption
  · exact isAbsolute_join h p

/-- Whatever is made absolute is in normal form. -/
theorem isNormal_absolutize {base : Path} (h : base.isAbsolute = true) (p : Path) :
    (base.absolutize p).IsNormal :=
  isNormal_normalize (isAbsolute_seen h p)

/-- Above an absolute path there are absolute ones only. -/
theorem isAbsolute_of_parent? {p dir : Path} (h : p.isAbsolute = true)
    (hdir : p.parent? = some dir) : dir.isAbsolute = true := by
  have hhead : p.chars.head? = some '/' := by simpa [isAbsolute] using h
  obtain ⟨rest, hrest⟩ := List.head?_eq_some_iff.mp hhead
  have hpieces : p.pieces = [] :: Text.splitOn '/' rest := by
    rw [pieces, hrest, splitOn_slash_cons]
  simp only [parent?, hpieces] at hdir
  split at hdir
  · rename_i last kept hkept
    split at hdir
    · rw [← Option.some.inj hdir]
      rfl
    · rename_i hroot
      have hne : (kept.dropWhile isIdle).reverse ≠ [] := by
        intro hc
        simp [h, hc] at hroot
      rw [← Option.some.inj hdir, Text.joinWith_cons '/' [] hne]
      simp [isAbsolute]
  · simp at hdir

theorem IsNormal.pathOf_names {p : Path} (h : p.IsNormal) : pathOf p.names = p := by
  obtain ⟨names, hnames, rfl⟩ := h
  rw [names_pathOf hnames]

theorem IsNormal.names_inj {p q : Path} (hp : p.IsNormal) (hq : q.IsNormal)
    (h : p.names = q.names) : p = q := by
  rw [← hp.pathOf_names, ← hq.pathOf_names, h]

/-- Paths in normal form are the same only if they are one text. -/
theorem IsNormal.same_iff {p q : Path} (hp : p.IsNormal) (hq : q.IsNormal) :
    p.same q = true ↔ p = q := by
  unfold same
  rw [beq_iff_eq]
  constructor
  · intro h
    exact hp.names_inj hq (by rw [names, names, h])
  · intro h
    rw [h]

end Path

/-! ### Where a path in normal form leads -/

namespace Store

variable {s : Store}

/-- A name leads from a directory to a place in it, unless the name is too long. -/
theorem step_name_eq_ok_iff {name : String} (hname : IsName name) {start next : Location} :
    s.step start name.toList = .ok next ↔
      s.node? start = some .directory ∧ name.utf8ByteSize ≤ maxName ∧ next = start ++ [name] := by
  have hup : ¬ (name.toList == ['.', '.']) = true := by simpa using hname.ne_dots
  constructor
  · intro h
    have hdir := node?_of_step h
    rw [step, hdir] at h
    simp only [hname.notIdle, hup, Bool.false_eq_true, if_false, String.ofList_toList] at h
    split at h
    · contradiction
    · rename_i hshort
      exact ⟨hdir, Nat.not_lt.mp hshort, (Except.ok.inj h).symm⟩
  · rintro ⟨hdir, hshort, rfl⟩
    rw [step, hdir]
    simp only [hname.notIdle, hup, Bool.false_eq_true, if_false, String.ofList_toList]
    rw [if_neg (Nat.not_lt.mpr hshort)]

theorem foldlM_step_names {names start loc : Location} (hnames : ∀ name ∈ names, IsName name)
    (h : (names.map String.toList).foldlM s.step start = .ok loc) : loc = start ++ names := by
  induction names generalizing start with
  | nil => simpa [pure, Except.pure, eq_comm] using h
  | cons name names ih =>
      obtain ⟨next, hstep, hrest⟩ := foldlM_cons_eq_ok_iff.mp h
      obtain ⟨-, -, hnext⟩ := (step_name_eq_ok_iff (hnames name List.mem_cons_self)).mp hstep
      rw [ih (fun other hother => hnames other (List.mem_cons_of_mem _ hother)) hrest, hnext,
        List.append_assoc, List.singleton_append]

/-- A path in normal form leads to the location of its names. -/
theorem locate_pathOf {names loc : Location} (hnames : ∀ name ∈ names, IsName name)
    (h : s.locate (pathOf names) = .ok loc) : loc = names := by
  obtain ⟨-, hfold⟩ := locate_eq_ok_iff.mp h
  rw [Path.isAbsolute_pathOf, if_pos rfl] at hfold
  by_cases hne : names = []
  · subst hne
    rw [Path.pieces_pathOf_nil] at hfold
    exact (foldlM_step_idles (by simp [Path.isIdle]) hfold).symm
  · rw [Path.pieces_pathOf hnames hne] at hfold
    obtain ⟨next, hstep, hrest⟩ := foldlM_cons_eq_ok_iff.mp hfold
    have hnext : next = [] := step_idle rfl hstep
    rw [foldlM_step_names hnames hrest, hnext, List.nil_append]

end Store

end ScriptDeps
