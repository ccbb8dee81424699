/-
Where a path leads that only goes down.

Such a path is followed name by name.  A name needs a directory to stand in and must not be
too long, and whatever the first is that fails, that is what all fails with.  In a tree the
directories on the way to a place are there if something stands at it, so there it is enough
to know what stands at the end.
-/
import ScriptDeps.Proofs.Path.Descent

namespace ScriptDeps.Store

open Traversal (bind_eq_ok_iff)

variable {s s' : Store} {p : Path} {names front : List String} {name : String}
  {start loc : Location}

/-! ### Texts that are refused -/

/-- Why the system refuses the text of a path, if it does. -/
def refused? (p : Path) : Option Fault :=
  if p.chars.contains (Char.ofNat 0) then some .zeroInName
  else if p.chars.isEmpty then some .notFound
  else if maxPath ≤ p.text.utf8ByteSize then some .nameTooLong
  else none

theorem locate_eq (s : Store) (p : Path) :
    s.locate p = match refused? p with
      | some fault => .error fault
      | none => p.pieces.foldlM s.step (p.base s.cwd) := by
  unfold locate refused?
  by_cases hzero : p.chars.contains (Char.ofNat 0) = true
  · rw [if_pos hzero, if_pos hzero]
  by_cases hempty : p.chars.isEmpty = true
  · rw [if_neg hzero, if_neg hzero, if_pos hempty, if_pos hempty]
  by_cases hlong : maxPath ≤ p.text.utf8ByteSize
  · rw [if_neg hzero, if_neg hzero, if_neg hempty, if_neg hempty, if_pos hlong, if_pos hlong]
  · rw [if_neg hzero, if_neg hzero, if_neg hempty, if_neg hempty, if_neg hlong, if_neg hlong]
    rfl

theorem locate_refused {fault : Fault} (h : refused? p = some fault) :
    s.locate p = .error fault := by
  rw [locate_eq, h]

theorem refused?_eq_none_iff :
    refused? p = none ↔ Char.ofNat 0 ∉ p.chars ∧ p.chars ≠ [] ∧
      p.text.utf8ByteSize < maxPath := by
  unfold refused?
  by_cases hzero : p.chars.contains (Char.ofNat 0) = true
  · rw [if_pos hzero]
    simp [List.contains_iff_mem.mp hzero]
  by_cases hempty : p.chars.isEmpty = true
  · rw [if_neg hzero, if_pos hempty]
    simp [List.isEmpty_iff.mp hempty]
  rw [if_neg hzero, if_neg hempty, ite_eq_right_iff]
  have hzero' : Char.ofNat 0 ∉ p.chars := fun hc => hzero (List.contains_iff_mem.mpr hc)
  have hempty' : p.chars ≠ [] := fun hc => hempty (List.isEmpty_iff.mpr hc)
  simp [hzero', hempty']

/-- A text that is taken is not refused when its end is cut off. -/
theorem refused?_of_prefix {q : Path} (h : refused? p = none) (hq : q.chars <+: p.chars)
    (hne : q.chars ≠ []) : refused? q = none := by
  obtain ⟨hzero, -, hlong⟩ := refused?_eq_none_iff.mp h
  refine refused?_eq_none_iff.mpr ⟨fun hc => hzero (hq.subset hc), hne, ?_⟩
  obtain ⟨rest, hrest⟩ := hq
  have hsize : q.text.utf8ByteSize ≤ p.text.utf8ByteSize := by
    have htext : p.text = q.text ++ String.ofList rest := by
      rw [← String.toList_inj, String.toList_append, String.toList_ofList]
      exact hrest.symm
    rw [htext, String.utf8ByteSize_append]
    exact Nat.le_add_right _ _
  omega

/-! ### Name by name -/

theorem step_of_isIdle {piece : List Char} (h : Path.isIdle piece = true) (loc : Location) :
    s.step loc piece = s.step loc [] := by
  have hnil : Path.isIdle [] = true := rfl
  unfold step
  rw [if_pos h, if_pos hnil]

theorem step_idle_of_directory (h : s.node? loc = some .directory) : s.step loc [] = .ok loc := by
  unfold step
  rw [h]
  rfl

theorem step_of_none (h : s.node? loc = none) (piece : List Char) :
    s.step loc piece = .error .notFound := by
  rw [step, h]

theorem step_of_file {content : ByteArray} {runnable : Bool}
    (h : s.node? loc = some (.file content runnable)) (piece : List Char) :
    s.step loc piece = .error .notDirectory := by
  rw [step, h]

/-- To ask for a directory before a step makes no difference. -/
theorem step_idle_bind (s : Store) (loc : Location) (piece : List Char) :
    (s.step loc [] >>= fun reached => s.step reached piece) = s.step loc piece := by
  cases hnode : s.node? loc with
  | none => rw [step_of_none hnode, step_of_none hnode]; rfl
  | some node =>
      cases node with
      | file content runnable => rw [step_of_file hnode, step_of_file hnode]; rfl
      | directory => rw [step_idle_of_directory hnode]; rfl

/-- What is idle between other pieces makes no difference. -/
theorem foldlM_step_filter (s : Store) (pieces : List (List Char)) (start : Location) :
    pieces.foldlM s.step start =
      ((pieces.filter fun piece => !Path.isIdle piece).foldlM s.step start >>= fun reached =>
        if pieces.getLast?.any Path.isIdle then s.step reached [] else .ok reached) := by
  induction pieces using List.reverseRecOn with
  | nil => rfl
  | append_singleton pieces last ih =>
      have hone : ∀ loc, [last].foldlM s.step loc = s.step loc last := by
        intro loc
        rw [List.foldlM_cons]
        exact bind_pure _
      have hask : ∀ loc, ((if pieces.getLast?.any Path.isIdle then s.step loc [] else .ok loc) >>=
          fun reached => s.step reached last) = s.step loc last := by
        intro loc
        split
        · exact step_idle_bind s loc last
        · rfl
      rw [List.foldlM_append, ih, bind_assoc, List.getLast?_concat, Option.any_some,
        List.filter_append]
      simp only [hone, hask]
      by_cases hidle : Path.isIdle last = true
      · rw [List.filter_cons_of_neg (by simp [hidle]), List.filter_nil, List.append_nil]
        simp only [step_of_isIdle hidle, if_pos hidle]
      · rw [List.filter_cons_of_pos (by simp [hidle]), List.filter_nil, List.foldlM_append]
        simp only [hone, if_neg hidle]
        exact (bind_pure _).symm

/-- The names read from a place, each in the one before. -/
def follow (s : Store) (start : Location) (names : List String) : Except Fault Location :=
  (names.map String.toList).foldlM s.step start

theorem follow_concat (s : Store) (start : Location) (names : List String) (name : String) :
    s.follow start (names ++ [name]) =
      s.follow start names >>= fun reached => s.step reached name.toList := by
  unfold follow
  rw [List.map_append, List.foldlM_append]
  refine bind_congr fun reached => ?_
  exact bind_pure _

/-- **A path that spells names leads where the names do**, if its text is taken. -/
theorem locate_of_descends (h : p.Descends names) (htext : refused? p = none) :
    s.locate p = s.follow (p.base s.cwd) names >>= fun reached =>
      if p.isLoose then s.step reached [] else .ok reached := by
  rw [locate_eq, htext, foldlM_step_filter, h.pieces]
  rfl

/-- The names are no longer than a directory can hold. -/
def Short (names : List String) : Prop :=
  ∀ name ∈ names, name.utf8ByteSize ≤ maxName

theorem short_concat : Short (names ++ [name]) ↔ Short names ∧ name.utf8ByteSize ≤ maxName := by
  unfold Short
  simp [or_imp, forall_and]

theorem step_name_of_directory (hname : IsName name) (h : s.node? loc = some .directory) :
    s.step loc name.toList =
      if name.utf8ByteSize ≤ maxName then .ok (loc ++ [name]) else .error .nameTooLong := by
  by_cases hshort : name.utf8ByteSize ≤ maxName
  · rw [if_pos hshort]
    exact (step_name_eq_ok_iff hname).mpr ⟨h, hshort, rfl⟩
  · have hup : ¬ (name.toList == ['.', '.']) = true := by simpa using hname.ne_dots
    rw [if_neg hshort, step, h]
    simp only [hname.notIdle, hup, Bool.false_eq_true, if_false, String.ofList_toList]
    rw [if_pos (Nat.lt_of_not_le hshort)]

/-- Names lead somewhere if they are short and each stands in a directory. -/
theorem follow_eq_ok_iff (hnames : ∀ name ∈ names, IsName name) :
    s.follow start names = .ok loc ↔ Short names ∧ loc = start ++ names ∧
      ∀ front, front <+: names → front ≠ names → s.node? (start ++ front) = some .directory := by
  induction names using List.reverseRecOn generalizing loc with
  | nil =>
      have hfollow : s.follow start [] = .ok start := rfl
      rw [hfollow, Except.ok.injEq, List.append_nil]
      constructor
      · rintro rfl
        refine ⟨fun name hname => by contradiction, rfl, fun front hfront hne => ?_⟩
        exact absurd (List.prefix_nil.mp hfront) hne
      · rintro ⟨-, rfl, -⟩
        rfl
  | append_singleton names name ih =>
      have hname : IsName name := hnames name (by simp)
      have ih := fun loc => @ih loc fun other hother => hnames other (List.mem_append_left _ hother)
      rw [follow_concat, bind_eq_ok_iff, short_concat]
      constructor
      · rintro ⟨reached, hfront, hlast⟩
        obtain ⟨hshort, rfl, hdirs⟩ := (ih reached).mp hfront
        obtain ⟨hdir, hlong, rfl⟩ := (step_name_eq_ok_iff hname).mp hlast
        refine ⟨⟨hshort, hlong⟩, List.append_assoc _ _ _, fun front hprefix hne => ?_⟩
        rcases List.prefix_concat_iff.mp hprefix with heq | hbefore
        · exact absurd heq hne
        · by_cases hwhole : front = names
          · rw [hwhole]
            exact hdir
          · exact hdirs front hbefore hwhole
      · rintro ⟨⟨hshort, hlong⟩, rfl, hdirs⟩
        have hfront : s.follow start names = .ok (start ++ names) := by
          refine (ih _).mpr ⟨hshort, rfl, fun front hbefore hwhole => ?_⟩
          refine hdirs front (hbefore.trans (List.prefix_append _ _)) ?_
          rintro rfl
          have hlength := hbefore.length_le
          rw [List.length_append, List.length_singleton] at hlength
          omega
        have hdir := hdirs names (List.prefix_append _ _) (by simp)
        exact ⟨_, hfront,
          (step_name_eq_ok_iff hname).mpr ⟨hdir, hlong, (List.append_assoc _ _ _).symm⟩⟩

/-- Above what stands in a tree there are directories. -/
theorem IsTree.node?_above (hs : s.IsTree) {rest : Location} (hrest : rest ≠ [])
    (h : s.node? (loc ++ rest) ≠ none) : s.node? loc = some .directory := by
  by_contra hdir
  exact h (hs.node?_below hdir hrest)

/-- In a tree, short names lead to a place at which something stands. -/
theorem follow_of_isTree (hs : s.IsTree) (hnames : ∀ name ∈ names, IsName name)
    (hshort : Short names) (h : s.node? (start ++ names) ≠ none) :
    s.follow start names = .ok (start ++ names) := by
  refine (follow_eq_ok_iff hnames).mpr ⟨hshort, rfl, fun front hfront hne => ?_⟩
  obtain ⟨rest, rfl⟩ := hfront
  rw [← List.append_assoc] at h
  refine hs.node?_above ?_ h
  rintro rfl
  exact hne (List.append_nil _).symm

end ScriptDeps.Store
