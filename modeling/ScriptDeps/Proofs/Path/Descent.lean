/-
Paths that only go down.

A path without `..` spells names, each to be read in the one before.  What is idle between
them makes no difference, since a name is read in a directory as well; only what is idle at
the end still asks for one.

The path above spells all the names but the last.  It is written as the path begins, and
unless it spells nothing, there is nothing idle at its end.
-/
import ScriptDeps.Proofs.Store.Made

namespace ScriptDeps

open Store (withoutSlashes)

namespace Path

variable {p dir : Path} {names : List String} {name : String} {start : Location}

/-- Where a path starts. -/
def base (start : Location) (p : Path) : Location :=
  if p.isAbsolute then [] else start

/-- The path spells these names and never climbs. -/
def Descends (p : Path) (names : List String) : Prop :=
  p.parts = names.map Component.name

/-- The path ends with a separator or a `.`, so that it can only lead to a directory. -/
def isLoose (p : Path) : Bool :=
  p.pieces.getLast?.any isIdle

theorem component?_of_isIdle {piece : List Char} (h : isIdle piece = true) :
    component? piece = none := by
  rw [component?, if_pos h]

/-- A piece that is not idle is a step up or a name. -/
theorem component?_eq {piece : List Char} (h : ¬ isIdle piece = true) :
    component? piece = some .up ∨ component? piece = some (.name (String.ofList piece)) := by
  unfold component?
  rw [if_neg h]
  by_cases hup : (piece == ['.', '.']) = true
  · rw [if_pos hup]
    exact .inl rfl
  · rw [if_neg hup]
    exact .inr rfl

/-- A path that never climbs spells names. -/
theorem exists_descends (h : Component.up ∉ p.components) : ∃ names, p.Descends names := by
  have hparts : Component.up ∉ p.parts := by
    rw [components_eq_lead] at h
    exact fun hc => h (List.mem_append_right _ hc)
  show ∃ names : List String, p.pieces.filterMap component? = names.map Component.name
  have hpieces : Component.up ∉ p.pieces.filterMap component? := hparts
  generalize p.pieces = pieces at hpieces
  induction pieces with
  | nil => exact ⟨[], rfl⟩
  | cons piece pieces ih =>
      by_cases hidle : isIdle piece = true
      · rw [List.filterMap_cons_none (component?_of_isIdle hidle)] at hpieces ⊢
        exact ih hpieces
      · rcases component?_eq hidle with hup | hname
        · rw [List.filterMap_cons_some hup] at hpieces
          exact absurd List.mem_cons_self hpieces
        · rw [List.filterMap_cons_some hname] at hpieces ⊢
          obtain ⟨names, hnames⟩ := ih fun hc => hpieces (List.mem_cons_of_mem _ hc)
          exact ⟨String.ofList piece :: names, by rw [hnames, List.map_cons]⟩

theorem Descends.seenFrom (h : p.Descends names) (start : Location) :
    p.seenFrom start = p.base start ++ names := by
  rw [seenFrom_eq, h, foldl_fold_names]
  rfl

/-- What the path spells are names. -/
theorem Descends.isName (h : p.Descends names) : ∀ name ∈ names, IsName name := by
  intro name hname
  have hpart : Component.name name ∈ p.pieces.filterMap component? := by
    show Component.name name ∈ p.parts
    rw [h]
    exact List.mem_map_of_mem hname
  obtain ⟨piece, hpiece, hcomponent⟩ := List.mem_filterMap.mp hpart
  exact isName_of_component? (Text.not_mem_of_mem_splitOn hpiece) hcomponent

/-- The pieces that are not idle are the names. -/
theorem Descends.pieces (h : p.Descends names) :
    p.pieces.filter (fun piece => !isIdle piece) = names.map String.toList := by
  have hparts : p.pieces.filterMap component? = names.map Component.name := h
  clear h
  generalize p.pieces = pieces at hparts
  induction pieces generalizing names with
  | nil =>
      cases names with
      | nil => rfl
      | cons name names => simp at hparts
  | cons piece pieces ih =>
      by_cases hidle : isIdle piece = true
      · rw [List.filterMap_cons_none (component?_of_isIdle hidle)] at hparts
        rw [List.filter_cons_of_neg (by simp [hidle])]
        exact ih hparts
      · rw [List.filter_cons_of_pos (by simp [hidle])]
        rcases component?_eq hidle with hup | hname
        · rw [List.filterMap_cons_some hup] at hparts
          cases names <;> simp at hparts
        · rw [List.filterMap_cons_some hname] at hparts
          cases names with
          | nil => simp at hparts
          | cons name names =>
              simp only [List.map_cons, List.cons.injEq, Component.name.injEq] at hparts
              rw [List.map_cons, ih hparts.2, ← hparts.1, String.toList_ofList]

theorem Descends.child (h : dir.Descends names) (hname : IsName name) :
    (dir.child name).Descends (names ++ [name]) := by
  show (dir.child name).parts = _
  rw [parts_child dir hname, h, List.map_append]
  rfl

theorem Descends.holder (h : dir.Descends names) : dir.holder.Descends names := by
  show dir.holder.parts = _
  rw [parts_holder, h]

theorem parts_withoutSlashes (p : Path) : (withoutSlashes p).parts = p.parts := by
  obtain ⟨idles, hidles, hpieces⟩ := (isStripped_withoutSlashes p).pieces
  rw [parts, parts, hpieces, List.filterMap_append, filterMap_idles hidles, List.append_nil]

theorem Descends.withoutSlashes (h : p.Descends names) : (withoutSlashes p).Descends names := by
  show (Store.withoutSlashes p).parts = _
  rw [parts_withoutSlashes, h]

/-! ### The path above -/

theorem base_congr (h : dir.isAbsolute = p.isAbsolute) (start : Location) :
    dir.base start = p.base start := by
  rw [base, base, h]

/-- The path above a path that spells names, as it is written. -/
structure IsAbove (dir p : Path) (names : List String) : Prop where
  descends : dir.Descends names
  isAbsolute : dir.isAbsolute = p.isAbsolute
  chars : dir.chars <+: (withoutSlashes p).chars
  isTight : names ≠ [] → dir.isLoose = false

/-- A path without separators at its end begins with the pieces that stand in front of a name. -/
theorem pieces_prefix_withoutSlashes {front rest : List (List Char)} {last : List Char}
    (hlast : ¬ isIdle last = true) (h : p.pieces = front ++ last :: rest) :
    front ++ [last] <+: (withoutSlashes p).pieces := by
  obtain ⟨idles, hidles, hpieces⟩ := (isStripped_withoutSlashes p).pieces
  rw [h, ← List.singleton_append, ← List.append_assoc] at hpieces
  rcases List.append_eq_append_iff.mp hpieces with ⟨more, hfront, -⟩ | ⟨more, hfront, hrest⟩
  · exact ⟨more, hfront.symm⟩
  · -- the name is not among what was cut off
    rcases List.eq_nil_or_concat' more with rfl | ⟨others, piece, rfl⟩
    · exact ⟨[], by rw [hfront, List.append_nil, List.append_nil]⟩
    · rw [← List.append_assoc] at hfront
      obtain ⟨-, hpiece⟩ := List.append_inj' hfront rfl
      have hmem : last ∈ idles := by
        rw [hrest, List.singleton_inj.mp hpiece]
        simp
      exact absurd (hidles last hmem) hlast

/-- The last of the pieces that are kept is not idle. -/
theorem getLast?_reverse_dropWhile {kept : List (List Char)} {piece : List Char}
    (h : (kept.dropWhile isIdle).reverse.getLast? = some piece) : isIdle piece = false := by
  have hhead := List.head?_dropWhile_not isIdle kept
  rw [List.getLast?_reverse] at h
  rw [h] at hhead
  exact hhead

/-- What comes before the last name spells the names before it. -/
theorem Descends.filterMap_front (h : p.Descends (names ++ [name])) {front : List (List Char)}
    {last : List Char} {idles : List (List Char)} (hlast : ¬ isIdle last = true)
    (hidles : ∀ piece ∈ idles, isIdle piece = true) (hpieces : p.pieces = front ++ last :: idles) :
    front.filterMap component? = names.map Component.name := by
  have hparts : p.pieces.filterMap component? = (names ++ [name]).map Component.name := h
  rw [hpieces, List.filterMap_append, List.map_append] at hparts
  rcases component?_eq hlast with hup | hname
  · rw [List.filterMap_cons_some hup, filterMap_idles hidles] at hparts
    exact (List.append_inj' hparts rfl).1
  · rw [List.filterMap_cons_some hname, filterMap_idles hidles] at hparts
    exact (List.append_inj' hparts rfl).1

/-- Above a single name, read from where relative paths start, nothing is written. -/
theorem isAbove_start (hparent : p.parent? = some ⟨""⟩) : IsAbove ⟨""⟩ p [] :=
  ⟨rfl, (isBefore_of_parent? hparent).isAbsolute, List.nil_prefix, fun hc => absurd rfl hc⟩

/-- Above a single name, read from the root, there is the root. -/
theorem isAbove_root (habs : p.isAbsolute = true) : IsAbove ⟨"/"⟩ p [] := by
  refine ⟨rfl, habs.symm, ?_, fun hc => absurd rfl hc⟩
  have hhead := (isStripped_withoutSlashes p).isAbsolute.trans habs
  rw [isAbsolute, beq_iff_eq] at hhead
  obtain ⟨more, hmore⟩ := List.head?_eq_some_iff.mp hhead
  rw [hmore]
  exact ⟨more, rfl⟩

/-- Else the pieces are kept up to the last that is not idle. -/
theorem isAbove_kept {first last : List Char} {kept between idles : List (List Char)}
    (hparent : p.parent? =
      some (ofChars (Text.joinWith '/' (first :: (kept.dropWhile isIdle).reverse))))
    (hlast : ¬ isIdle last = true)
    (hpieces : p.pieces =
      (first :: (kept.dropWhile isIdle).reverse) ++ between ++ last :: idles)
    (hnames : (first :: (kept.dropWhile isIdle).reverse).filterMap component? =
      names.map Component.name) :
    IsAbove (ofChars (Text.joinWith '/' (first :: (kept.dropWhile isIdle).reverse))) p names := by
  have hslash : ∀ piece ∈ first :: (kept.dropWhile isIdle).reverse, '/' ∉ piece := by
    intro piece hpiece
    refine Text.not_mem_of_mem_splitOn (s := p.chars) ?_
    show piece ∈ p.pieces
    rw [hpieces, List.append_assoc]
    exact List.mem_append_left _ hpiece
  have hdir := pieces_ofChars (List.cons_ne_nil _ _) hslash
  refine ⟨?_, (isBefore_of_parent? hparent).isAbsolute, ?_, fun hne => ?_⟩
  · show List.filterMap component? (Path.pieces _) = _
    rw [hdir, hnames]
  · obtain ⟨more, hmore⟩ := pieces_prefix_withoutSlashes hlast hpieces
    rw [chars_ofChars, ← Text.joinWith_splitOn '/' (withoutSlashes p).chars, ← Path.pieces,
      ← hmore, List.append_assoc, List.append_assoc,
      Text.joinWith_append '/' (List.cons_ne_nil _ _) (by simp)]
    exact List.prefix_append _ _
  · rw [isLoose, hdir]
    by_cases hnil : (kept.dropWhile isIdle).reverse = []
    · rw [hnil] at hnames ⊢
      by_contra hloose
      have hidle : isIdle first = true := by simpa using hloose
      rw [List.filterMap_cons_none (component?_of_isIdle hidle)] at hnames
      exact hne (List.map_eq_nil_iff.mp hnames.symm)
    · rw [List.getLast?_cons_of_ne_nil hnil]
      cases hpiece : (kept.dropWhile isIdle).reverse.getLast? with
      | none => rfl
      | some piece => exact getLast?_reverse_dropWhile hpiece

/-- **The path above a path that spells names spells all but the last of them.** -/
theorem Descends.exists_parent (h : p.Descends (names ++ [name])) :
    ∃ dir, p.parent? = some dir ∧ IsAbove dir p names := by
  obtain ⟨first, rest, hpieces⟩ := List.exists_cons_of_ne_nil (Store.pieces_ne_nil p)
  cases hlast : rest.reverse.dropWhile isIdle with
  | nil =>
      have hidles : ∀ piece ∈ rest, isIdle piece = true := by
        intro piece hpiece
        exact List.dropWhile_eq_nil_iff.mp hlast piece (List.mem_reverse.mpr hpiece)
      have hfirst : ¬ isIdle first = true := by
        intro hidle
        have hparts : p.pieces.filterMap component? = (names ++ [name]).map Component.name := h
        rw [hpieces, List.filterMap_cons_none (component?_of_isIdle hidle),
          filterMap_idles hidles] at hparts
        simp at hparts
      have hparent : p.parent? = some ⟨""⟩ := by
        rw [parent?, hpieces]
        simp only [hlast]
        rw [if_neg fun hc => hfirst (by rw [List.isEmpty_iff.mp hc]; rfl)]
      have hwhole : p.pieces = [] ++ first :: rest := hpieces
      have hnames := h.filterMap_front hfirst hidles hwhole
      rw [List.filterMap_nil, eq_comm, List.map_eq_nil_iff] at hnames
      exact ⟨_, hparent, hnames ▸ isAbove_start hparent⟩
  | cons last kept =>
      obtain ⟨hname, between, idles, hbetween, hidles, hrest⟩ := exists_pieces_of_last hlast
      have hwhole : p.pieces =
          (first :: (kept.dropWhile isIdle).reverse) ++ between ++ last :: idles := by
        rw [hpieces, hrest]
        simp
      have hnames := h.filterMap_front hname hidles hwhole
      rw [List.filterMap_append, filterMap_idles hbetween, List.append_nil] at hnames
      have hparent : p.parent? =
          if p.isAbsolute && (kept.dropWhile isIdle).reverse.isEmpty then some ⟨"/"⟩
          else some (ofChars (Text.joinWith '/' (first :: (kept.dropWhile isIdle).reverse))) := by
        rw [parent?, hpieces]
        simp only [hlast]
      by_cases hroot : (p.isAbsolute && (kept.dropWhile isIdle).reverse.isEmpty) = true
      · rw [if_pos hroot] at hparent
        rw [Bool.and_eq_true, List.isEmpty_iff] at hroot
        have hfirst : first = [] := ((isAbsolute_iff_of_pieces hpieces).mp hroot.1).1
        rw [hroot.2, hfirst, List.filterMap_cons_none (component?_of_isIdle rfl),
          List.filterMap_nil, eq_comm, List.map_eq_nil_iff] at hnames
        exact ⟨_, hparent, hnames ▸ isAbove_root hroot.1⟩
      · rw [if_neg hroot] at hparent
        exact ⟨_, hparent, isAbove_kept hparent hname hwhole hnames⟩

end Path

end ScriptDeps
