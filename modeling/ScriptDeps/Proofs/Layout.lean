/-
The directory of a project.

The files of a project are named below its directory as that is written.  The directory that
is made for a file is the path above it, where separators and `.` parts at the end of the
directory are cut off.  These say nothing: the path without them has the same components, so both
lead to the same place, and where one file of a project stands, no directory has to be made for
another.
-/
import Mathlib.Data.List.DropRight
import ScriptDeps.Layout
import ScriptDeps.Proofs.Manifest.Saved
import ScriptDeps.Proofs.Store.Change

namespace ScriptDeps

namespace Path

/-! ### Separators at the end of a path -/

section Separators

open Store (withoutSlashes)

theorem isAbsolute_of_slash {p : Path} {front : List Char} (h : p.chars = front ++ ['/'])
    (hne : front ≠ []) : (ofChars front).isAbsolute = p.isAbsolute := by
  obtain ⟨c, rest, rfl⟩ := List.exists_cons_of_ne_nil hne
  rw [isAbsolute, isAbsolute, chars_ofChars, h]
  rfl

/-- One separator at the end makes no difference. -/
theorem withoutSlashes_of_slash {p : Path} {front : List Char} (h : p.chars = front ++ ['/'])
    (hne : front ≠ []) : withoutSlashes p = withoutSlashes (ofChars front) := by
  have hstrip : p.chars.reverse.dropWhile (· == '/') = front.reverse.dropWhile (· == '/') := by
    rw [h, List.reverse_append, List.reverse_singleton, List.singleton_append,
      List.dropWhile_cons_of_pos (by decide)]
  rw [withoutSlashes, withoutSlashes, hstrip, chars_ofChars, isAbsolute_of_slash h hne]
  cases hkept : front.reverse.dropWhile (· == '/') with
  | cons c rest => rfl
  | nil =>
      -- a text of separators alone is absolute
      obtain ⟨c, rest, rfl⟩ := List.exists_cons_of_ne_nil hne
      have hslash : c = '/' := by
        have hall := List.dropWhile_eq_nil_iff.mp hkept c (by simp)
        exact beq_iff_eq.mp hall
      have habs : p.isAbsolute = true := by
        rw [isAbsolute, h, hslash]
        rfl
      rw [habs, if_pos rfl, if_pos rfl]

/-- What a path without the separators at its end has to do with the path. -/
structure IsStripped (p q : Path) : Prop where
  isAbsolute : q.isAbsolute = p.isAbsolute
  chars : q.chars <+: p.chars
  ne_nil : p.chars ≠ [] → q.chars ≠ []
  pieces : ∃ idles, (∀ piece ∈ idles, isIdle piece = true) ∧ p.pieces = q.pieces ++ idles

theorem IsStripped.refl (p : Path) : IsStripped p p :=
  ⟨rfl, List.prefix_refl _, id, [], by simp, by simp⟩

theorem isStripped_withoutSlashes (p : Path) : IsStripped p (withoutSlashes p) := by
  generalize hchars : p.chars = cs
  induction cs using List.reverseRecOn generalizing p with
  | nil =>
      rw [Store.withoutSlashes_eq (by simp [hchars])]
      exact .refl p
  | append_singleton front c ih =>
      by_cases hc : c = '/'
      · subst hc
        by_cases hne : front = []
        · subst hne
          have hp : withoutSlashes p = p := by
            rw [withoutSlashes, hchars, isAbsolute, hchars]
            exact congrArg mk (String.toList_inj.mp hchars.symm)
          rw [hp]
          exact .refl p
        · have hfront := ih (ofChars front) (chars_ofChars front)
          rw [← withoutSlashes_of_slash hchars hne] at hfront
          refine ⟨hfront.isAbsolute.trans (isAbsolute_of_slash hchars hne), ?_, ?_, ?_⟩
          · rw [hchars]
            exact (chars_ofChars front ▸ hfront.chars).trans (List.prefix_append _ _)
          · exact fun _ => hfront.ne_nil (by rwa [chars_ofChars])
          · obtain ⟨idles, hidles, hpieces⟩ := hfront.pieces
            refine ⟨idles ++ [[]], ?_, ?_⟩
            · intro piece hpiece
              rcases List.mem_append.mp hpiece with hold | hnew
              · exact hidles piece hold
              · rw [List.mem_singleton.mp hnew]
                rfl
            · rw [pieces_of_slash hchars, ← List.append_assoc, ← hpieces, Path.pieces,
                chars_ofChars]
      · rw [Store.withoutSlashes_eq (by simpa [hchars] using hc)]
        exact .refl p

end Separators

/-! ### The path above a child -/

theorem isAbsolute_child (dir : Path) {name : String} (h : IsName name) :
    (dir.child name).isAbsolute = dir.isAbsolute := by
  have hname : name.toList.head? ≠ some '/' := fun hc => h.noSlash (List.mem_of_head? hc)
  have hchars : (Path.mk name).chars = name.toList := rfl
  rw [child, join, h.isAbsolute, if_neg (by simp), hchars]
  by_cases hempty : dir.chars = []
  · rw [if_pos (by simp [hempty]), isAbsolute, isAbsolute, chars_ofChars, hempty, List.nil_append]
    simpa using hname
  · obtain ⟨c, rest, hdir⟩ := List.exists_cons_of_ne_nil hempty
    split <;> rw [isAbsolute, isAbsolute, chars_ofChars, hdir] <;> rfl

theorem front_child (dir : Path) {name : String} (h : IsName name) :
    (dir.child name).front = dir.front ++ [name.toList] := by
  rw [front, pieces_child dir h, List.getLast?_concat, if_neg (by simpa using h.ne_nil)]

/-- A path is absolute if nothing comes before its first separator. -/
theorem isAbsolute_iff (p : Path) :
    p.isAbsolute = true ↔ ∃ next rest, p.pieces = [] :: next :: rest := by
  rw [isAbsolute, pieces, beq_iff_eq]
  constructor
  · intro h
    obtain ⟨rest, hrest⟩ := List.head?_eq_some_iff.mp h
    obtain ⟨next, pieces, hpieces⟩ := List.exists_cons_of_ne_nil (Text.splitOn_ne_nil '/' rest)
    exact ⟨next, pieces, by rw [hrest, Text.splitOn, if_pos (by rfl), hpieces]⟩
  · rintro ⟨next, rest, h⟩
    rw [← Text.joinWith_splitOn '/' p.chars, h]
    rfl

/-- The path above the children of a directory, as it is written. -/
def holder (p : Path) : Path :=
  match p.front with
  | [] => ⟨""⟩
  | first :: rest =>
    let kept := rest.rdropWhile isIdle
    if p.isAbsolute && kept.isEmpty then ⟨"/"⟩ else ofChars (Text.joinWith '/' (first :: kept))

theorem parent?_child (dir : Path) {name : String} (h : IsName name) :
    (dir.child name).parent? = some dir.holder := by
  rw [parent?, pieces_child dir h, isAbsolute_child dir h, holder]
  cases dir.front with
  | nil => simp [h.ne_nil]
  | cons first rest =>
      have hname : (rest ++ [name.toList]).reverse.dropWhile isIdle =
          name.toList :: rest.reverse := by
        rw [List.reverse_append, List.reverse_singleton, List.singleton_append,
          List.dropWhile_cons_of_neg (by simp [h.notIdle])]
      simp only [List.cons_append, hname]
      exact (apply_ite some _ _ _).symm

/-! ### Paths above others -/

/-- `p` is written as a directory above `q`. -/
structure Above (p q : Path) : Prop where
  isAbsolute : p.isAbsolute = q.isAbsolute
  pieces : ∃ more, more ≠ [] ∧ q.pieces = p.front ++ more

theorem above_child (dir : Path) {name : String} (h : IsName name) : Above dir (dir.child name) :=
  ⟨(isAbsolute_child dir h).symm, _, List.cons_ne_nil _ _, pieces_child dir h⟩

theorem Above.of_child {dir q : Path} {name : String} (h : IsName name)
    (habove : Above (dir.child name) q) : Above dir q := by
  obtain ⟨more, hmore, hq⟩ := habove.pieces
  refine ⟨(isAbsolute_child dir h).symm.trans habove.isAbsolute, name.toList :: more, by simp, ?_⟩
  rw [hq, front_child dir h, List.append_assoc, List.singleton_append]

theorem front_prefix (p : Path) : p.front <+: p.pieces := by
  rw [front]
  split
  · exact List.dropLast_prefix _
  · exact List.prefix_refl _

/-- All pieces of a path stand in front of a child, but for an empty one at the end. -/
theorem pieces_eq_front (p : Path) : p.pieces = p.front ∨ p.pieces = p.front ++ [[]] := by
  rw [front]
  split
  · rename_i hlast
    obtain ⟨start, hstart⟩ := List.getLast?_eq_some_iff.mp hlast
    exact .inr (by rw [hstart, List.dropLast_concat])
  · exact .inl rfl

/-- A path is written as the paths above it begin. -/
theorem Above.chars_prefix {p q : Path} (h : Above p q) : p.chars <+: q.chars := by
  obtain ⟨more, hmore, hq⟩ := h.pieces
  rw [← Text.joinWith_splitOn '/' p.chars, ← Text.joinWith_splitOn '/' q.chars, ← Path.pieces,
    ← Path.pieces, hq]
  by_cases hfront : p.front = []
  · rcases pieces_eq_front p with hp | hp
    · exact absurd (hp.trans hfront) (Store.pieces_ne_nil p)
    · rw [hp, hfront]
      exact List.nil_prefix
  · rw [Text.joinWith_append '/' hfront hmore]
    rcases pieces_eq_front p with hp | hp
    · rw [hp]
      exact List.prefix_append _ _
    · rw [hp, Text.joinWith_append '/' hfront (List.cons_ne_nil _ _)]
      exact (List.prefix_append_right_inj _).mpr (List.cons_prefix_cons.mpr ⟨rfl, List.nil_prefix⟩)

/-- How the path above the children is written: without what is idle at the end. -/
inductive IsCut (p : Path) : Prop where
  /-- Nothing is left, which stands for where relative paths start. -/
  | start : p.isAbsolute = false → p.front = [] → p.holder = ⟨""⟩ → IsCut p
  | root {idles : List (List Char)} : p.isAbsolute = true → p.front = [] :: idles →
      (∀ piece ∈ idles, isIdle piece = true) → p.holder = ⟨"/"⟩ → IsCut p
  | below {kept idles : List (List Char)} : p.holder.isAbsolute = p.isAbsolute →
      p.front = kept ++ idles → (∀ piece ∈ idles, isIdle piece = true) →
      p.holder.pieces = kept → kept ≠ [] → kept.getLast? ≠ some [] → IsCut p

theorem front_ne_nil {p : Path} (h : p.isAbsolute = true) : ∃ rest, p.front = [] :: rest := by
  obtain ⟨next, rest, hpieces⟩ := (isAbsolute_iff p).mp h
  rw [front, hpieces]
  split
  · exact ⟨_, rfl⟩
  · exact ⟨_, rfl⟩

theorem first_ne_nil {p : Path} (h : p.isAbsolute = false) {first : List Char}
    {rest : List (List Char)} (hfront : p.front = first :: rest) : first ≠ [] := by
  intro hfirst
  obtain ⟨more, hmore⟩ := p.front_prefix
  rw [hfront, hfirst] at hmore
  have hrel : ¬ p.isAbsolute = true := by simp [h]
  cases hrest : rest ++ more with
  | cons next others =>
      exact hrel ((isAbsolute_iff p).mpr ⟨next, others, by rw [← hmore, List.cons_append, hrest]⟩)
  | nil =>
      -- a single empty piece does not count
      rw [List.cons_append, hrest] at hmore
      rw [front, ← hmore] at hfront
      simp at hfront

/-- Paths that begin with the same piece are absolute together, if more follows. -/
theorem isAbsolute_congr {p q : Path} {first : List Char} {kept rest : List (List Char)}
    (hp : p.front = first :: rest) (hq : q.pieces = first :: kept)
    (hmore : p.isAbsolute = true → kept ≠ []) : q.isAbsolute = p.isAbsolute := by
  cases habs : p.isAbsolute with
  | true =>
      obtain ⟨others, hothers⟩ := front_ne_nil habs
      rw [hothers, List.cons.injEq] at hp
      obtain ⟨next, more, hkept⟩ := List.exists_cons_of_ne_nil (hmore habs)
      exact (isAbsolute_iff q).mpr ⟨next, more, by rw [hq, ← hp.1, hkept]⟩
  | false =>
      by_contra hc
      obtain ⟨next, more, hpieces⟩ := (isAbsolute_iff q).mp (by simpa using hc)
      rw [hq, List.cons.injEq] at hpieces
      exact first_ne_nil habs hp hpieces.1

theorem getLast?_kept {first : List Char} {rest : List (List Char)}
    (h : rest.rdropWhile isIdle = [] → first ≠ []) :
    (first :: rest.rdropWhile isIdle).getLast? ≠ some [] := by
  by_cases hnil : rest.rdropWhile isIdle = []
  · rw [hnil, List.getLast?_singleton]
    simpa using h hnil
  · have hlast := List.rdropWhile_last_not isIdle rest hnil
    rw [List.getLast?_cons_of_ne_nil hnil, List.getLast?_eq_some_getLast hnil]
    intro hc
    rw [Option.some.inj hc] at hlast
    exact hlast rfl

theorem isCut (p : Path) : IsCut p := by
  cases hfront : p.front with
  | nil =>
      refine .start ?_ hfront (by rw [holder, hfront])
      by_contra habs
      obtain ⟨rest, hrest⟩ := front_ne_nil (by simpa using habs)
      rw [hfront] at hrest
      contradiction
  | cons first rest =>
      have hrest := List.rdropWhile_append_rtakeWhile (p := isIdle) (l := rest)
      have hidles : ∀ piece ∈ rest.rtakeWhile isIdle, isIdle piece = true :=
        fun piece h => List.mem_rtakeWhile_imp h
      have hholder : p.holder =
          if p.isAbsolute && (rest.rdropWhile isIdle).isEmpty then ⟨"/"⟩
          else ofChars (Text.joinWith '/' (first :: rest.rdropWhile isIdle)) := by
        rw [holder, hfront]
      split at hholder
      · rename_i hroot
        rw [Bool.and_eq_true, List.isEmpty_iff] at hroot
        obtain ⟨others, hothers⟩ := front_ne_nil hroot.1
        rw [hothers, List.cons.injEq] at hfront
        obtain ⟨-, rfl⟩ := hfront
        rw [hroot.2, List.nil_append] at hrest
        exact .root hroot.1 hothers (hrest ▸ hidles) hholder
      · rename_i hroot
        have hkept : p.front = (first :: rest.rdropWhile isIdle) ++ rest.rtakeWhile isIdle := by
          rw [List.cons_append, hrest, hfront]
        have hpieces : p.holder.pieces = first :: rest.rdropWhile isIdle := by
          rw [hholder, pieces, chars_ofChars, Text.splitOn_joinWith (List.cons_ne_nil _ _)]
          intro piece h
          refine Text.not_mem_of_mem_splitOn (s := p.chars) (p.front_prefix.subset ?_)
          rw [hkept]
          exact List.mem_append_left _ h
        refine .below ?_ hkept hidles hpieces (List.cons_ne_nil _ _) (getLast?_kept fun hnil => ?_)
        · exact isAbsolute_congr hfront hpieces fun habs => by simpa [habs] using hroot
        · exact first_ne_nil (by simpa [hnil] using hroot) hfront

/-- The path above the children is above all that the directory is above. -/
theorem Above.holder {p q : Path} (h : Above p q) : Above p.holder q := by
  obtain ⟨more, hmore, hq⟩ := h.pieces
  cases p.isCut with
  | start habs hfront hholder =>
      rw [hholder]
      exact ⟨habs.symm.trans h.isAbsolute, more, hmore, by rw [hq, hfront]; rfl⟩
  | @root idles habs hfront hidles hholder =>
      rw [hholder]
      refine ⟨habs.symm.trans h.isAbsolute, idles ++ more, by simp [hmore], ?_⟩
      rw [hq, hfront]
      rfl
  | @below kept idles habs hfront hidles hpieces hne hlast =>
      refine ⟨habs.trans h.isAbsolute, idles ++ more, by simp [hmore], ?_⟩
      rw [hq, hfront, Path.front, hpieces, if_neg hlast, List.append_assoc]

end Path

namespace Store

open Traversal (foldlM_append_eq_ok_iff foldlM_cons_eq_ok_iff)

variable {s : Store}

/-- A path goes through the directories above it. -/
theorem exists_front_of_locate {p q : Path} {loc : Location} (habove : p.Above q)
    (h : s.locate q = .ok loc) :
    ∃ reached, p.front.foldlM s.step (if p.isAbsolute then [] else s.cwd) = .ok reached ∧
      s.node? reached = some .directory := by
  obtain ⟨more, hmore, hq⟩ := habove.pieces
  obtain ⟨-, hfold⟩ := locate_eq_ok_iff.mp h
  rw [hq, ← habove.isAbsolute] at hfold
  obtain ⟨reached, hfront, hback⟩ := foldlM_append_eq_ok_iff.mp hfold
  obtain ⟨piece, rest, rfl⟩ := List.exists_cons_of_ne_nil hmore
  obtain ⟨next, hstep, -⟩ := foldlM_cons_eq_ok_iff.mp hback
  exact ⟨reached, hfront, node?_of_step hstep⟩

/-- A path is as good as a longer one that begins like it. -/
theorem locate_of_prefix {p q : Path} {loc reached : Location} {rest : List Char}
    (hq : q.chars = p.chars ++ rest) (hne : p.chars ≠ []) (h : s.locate q = .ok loc)
    (hfold : p.pieces.foldlM s.step (if p.isAbsolute then [] else s.cwd) = .ok reached) :
    s.locate p = .ok reached := by
  obtain ⟨⟨hzero, -, hlong⟩, -⟩ := locate_eq_ok_iff.mp h
  refine locate_eq_ok_iff.mpr ⟨⟨?_, by simpa using hne, ?_⟩, hfold⟩
  · rw [hq] at hzero
    simp only [List.contains_eq_mem, List.mem_append, decide_eq_false_iff_not, not_or] at hzero ⊢
    exact hzero.1
  · have htext : q.text = p.text ++ String.ofList rest := by
      rw [← String.toList_inj, String.toList_append, String.toList_ofList]
      exact hq
    rw [htext, String.utf8ByteSize_append] at hlong
    omega

/-- What is idle leads from a directory to that directory. -/
theorem foldlM_step_of_idles {idles : List (List Char)} {reached : Location}
    (hidles : ∀ piece ∈ idles, Path.isIdle piece = true)
    (hdir : s.node? reached = some .directory) :
    idles.foldlM s.step reached = .ok reached := by
  induction idles with
  | nil => rfl
  | cons piece idles ih =>
      have hstep : s.step reached piece = .ok reached := by
        rw [step, hdir]
        simp only [hidles piece List.mem_cons_self, if_true]
      rw [List.foldlM_cons, hstep]
      exact ih fun other hother => hidles other (List.mem_cons_of_mem _ hother)

/-- A path above one that leads somewhere leads to a directory, with separators at its end or
without. -/
theorem locate_above {p q : Path} {loc : Location} (habove : p.Above q) (h : s.locate q = .ok loc)
    (hne : p.chars ≠ []) :
    ∃ reached, s.locate p = .ok reached ∧ s.locate (withoutSlashes p) = .ok reached ∧
      s.node? reached = some .directory := by
  obtain ⟨reached, hfold, hdir⟩ := exists_front_of_locate habove h
  obtain ⟨rest, hchars⟩ := habove.chars_prefix
  have hwhole : p.pieces.foldlM s.step (if p.isAbsolute then [] else s.cwd) = .ok reached := by
    rcases p.pieces_eq_front with hpieces | hpieces
    · rw [hpieces, hfold]
    · rw [hpieces, List.foldlM_append, hfold]
      exact foldlM_step_of_idles (by simp [Path.isIdle]) hdir
  have hstripped := Path.isStripped_withoutSlashes p
  obtain ⟨more, hmore⟩ := hstripped.chars
  obtain ⟨idles, hidles, hpieces⟩ := hstripped.pieces
  have hkept : (withoutSlashes p).pieces.foldlM s.step
      (if (withoutSlashes p).isAbsolute then [] else s.cwd) = .ok reached := by
    rw [hpieces, List.foldlM_append, ← hstripped.isAbsolute] at hwhole
    cases hhead : (withoutSlashes p).pieces.foldlM s.step
        (if (withoutSlashes p).isAbsolute then [] else s.cwd) with
    | error fault =>
        rw [hhead] at hwhole
        contradiction
    | ok start =>
        rw [hhead] at hwhole
        have hstart : start = reached := foldlM_step_idles hidles hwhole
        rw [hstart]
  have hlong : q.chars = (withoutSlashes p).chars ++ (more ++ rest) := by
    rw [← hchars, ← hmore, List.append_assoc]
  exact ⟨reached, locate_of_prefix hchars.symm hne h hwhole,
    locate_of_prefix hlong (hstripped.ne_nil hne) h hkept, hdir⟩

theorem exists_ancestorsUpTo (n : Nat) (p : Path) :
    ∃ above, Path.ancestorsUpTo n p = p :: above := by
  cases n with
  | zero => exact ⟨[], rfl⟩
  | succ n =>
      rw [Path.ancestorsUpTo]
      cases p.parent? with
      | none => exact ⟨[], rfl⟩
      | some dir => exact ⟨_, rfl⟩

theorem exists_ancestors (p : Path) : ∃ above, p.ancestors = p :: above :=
  exists_ancestorsUpTo _ p

/-- **Above a path that leads somewhere, no directory need be made.** -/
theorem ensureDirs_above {p q : Path} {loc : Location} (habove : p.Above q)
    (h : s.locate q = .ok loc) : s.ensureDirs p = .ok [] := by
  obtain ⟨above, habove'⟩ := exists_ancestors p
  rw [ensureDirs, habove', missingDirs]
  split
  · rfl
  · rename_i hmade
    rw [Bool.or_eq_true, not_or, List.isEmpty_iff] at hmade
    obtain ⟨reached, hlocate, hstripped, hdir⟩ := locate_above habove h hmade.1
    have hmake : s.makeDir p = .error .alreadyExists := by
      simp [makeDir, hstripped, hdir, bind, Except.bind]
    have hisDir : s.isDir p = true := by
      rw [isDir, lookup_of_locate hlocate hdir]
    simp [hmake, hisDir, Except.map]

end Store

namespace Layout

/-- The copy of a manifest is named below the path above it. -/
theorem cacheOf_child (dir : Path) {name : String} (h : IsName name) :
    cacheOf (dir.child name) = dir.holder.child (name ++ ".cache") := by
  rw [cacheOf, Path.withFileName, (Path.endsIn_child dir h).fileName?, Path.parent?_child dir h,
    Option.getD_some]

theorem isName_manifest : IsName "script.csproj" :=
  ⟨by decide, by decide, by decide⟩

theorem isName_cache : IsName ("script.csproj" ++ ".cache") :=
  isName_manifest.append (by decide) (by decide)

theorem isName_obj : IsName "obj" :=
  ⟨by decide, by decide, by decide⟩

theorem isName_assets : IsName "project.assets.json" :=
  ⟨by decide, by decide, by decide⟩

theorem above_assets (dir : Path) : dir.Above (ofProjectDir dir).assets :=
  (Path.above_child (dir.child "obj") isName_assets).of_child isName_obj

theorem endsIn_manifest (dir : Path) : (ofProjectDir dir).manifest.EndsIn "script.csproj" :=
  Path.endsIn_child dir isName_manifest

theorem endsIn_assets (dir : Path) : (ofProjectDir dir).assets.EndsIn "project.assets.json" :=
  Path.endsIn_child _ isName_assets

theorem endsIn_cacheOf {manifest : Path} {name : String} (h : manifest.EndsIn name) :
    (cacheOf manifest).EndsIn (name ++ ".cache") :=
  h.beside (by decide) (by decide)

theorem parent?_manifest (dir : Path) : (ofProjectDir dir).manifest.parent? = some dir.holder :=
  Path.parent?_child dir isName_manifest

/-- Where the artifact of a project can be found, no directory has to be made for the manifest. -/
theorem dirsThere_manifest {s : Store} {dir : Path} {loc : Location}
    (h : s.locate (ofProjectDir dir).assets = .ok loc) :
    Manifest.DirsThere s (ofProjectDir dir).manifest := by
  intro above habove
  rw [parent?_manifest, Option.some.injEq] at habove
  rw [← habove]
  exact Store.ensureDirs_above (above_assets dir).holder h

/-- Where the artifact of a project stands, no directory has to be made for the copy. -/
theorem dirsThere_cache {s : Store} {dir : Path} {node : Node}
    (h : s.standing? (ofProjectDir dir).assets = some node) :
    Manifest.DirsThere s (cacheOf (ofProjectDir dir).manifest) := by
  intro above habove
  obtain ⟨loc, hloc, -⟩ := Store.locate_of_lookup (Store.standing?_eq_some_iff.mp h)
  have hparent : (cacheOf (dir.child "script.csproj")).parent? = some dir.holder.holder := by
    rw [cacheOf_child dir isName_manifest, Path.parent?_child dir.holder isName_cache]
  rw [ofProjectDir, hparent, Option.some.injEq] at habove
  rw [← habove]
  exact Store.ensureDirs_above (above_assets dir).holder.holder hloc

end Layout

end ScriptDeps
