/-
What the removal of the cache root takes with it.

The directory that is removed is the one that the cache root leads to, with all below it and
nothing else.  It is refused if it is the root of the file system or the home directory.  A
directory above the home directory is neither, and it takes the home directory with it.
-/
import ScriptDeps.CommandLine.Commands
import ScriptDeps.Proofs.Path.Place

namespace ScriptDeps.CommandLine

open Store (pathOf)
open Traversal (bind_eq_ok_iff)

variable {s after : Store} {root home : Path} {place homePlace : Location}

/-- The directory that a removal has to leave, with all in it that is not in the removed one. -/
structure Spares (s after : Store) (place home : Location) : Prop where
  stands : after.node? home = some .directory
  keeps : ∀ loc, home <+: loc → ¬ place <+: loc → after.node? loc = s.node? loc

/-- The path that is written from the names of a place does not end in `.` or `..`. -/
theorem lastPiece_pathOf (hplace : ∀ name ∈ place, IsName name) :
    Store.lastPiece (pathOf place) ≠ ['.'] ∧ Store.lastPiece (pathOf place) ≠ ['.', '.'] := by
  rcases place.eq_nil_or_concat' with rfl | ⟨above, name, rfl⟩
  · decide
  · have hname : IsName name := hplace name (by simp)
    rw [(Path.endsIn_pathOf hplace List.getLast?_concat).lastPiece]
    exact ⟨hname.ne_dot, hname.ne_dots⟩

/-- A removal by such a path takes the place with all below it, or does nothing. -/
theorem removeTree_pathOf (s : Store) (hplace : ∀ name ∈ place, IsName name) :
    (∃ fault, s.removeTree (pathOf place) = (s, .error fault)) ∨
      s.removeTree (pathOf place) = (s.drop place, .ok ()) := by
  rw [Store.removeTree]
  cases hloc : s.locate (pathOf place) with
  | error fault => exact .inl ⟨fault, rfl⟩
  | ok loc =>
      rw [Store.locate_pathOf hplace hloc]
      cases hnode : s.node? place with
      | none => exact .inl ⟨.notFound, by simp only [hnode]⟩
      | some node =>
          cases node with
          | file content runnable => exact .inl ⟨.notDirectory, by simp only [hnode]⟩
          | directory => exact .inr (by simp [hnode, lastPiece_pathOf hplace])

theorem canonical_eq_ok_iff {p dir : Path} :
    s.canonical p = .ok dir ↔
      ∃ place node, s.locate p = .ok place ∧ s.node? place = some node ∧ dir = pathOf place := by
  rw [Store.canonical, bind_eq_ok_iff]
  refine exists_congr fun place => ?_
  cases s.node? place <;> simp [eq_comm]

/-- What leads to the root of the file system or to the home directory is protected. -/
theorem isProtected_pathOf (hhome : s.locate home = .ok homePlace)
    (hdir : s.node? homePlace = some .directory)
    (h : isProtected s (pathOf place) (some home) = false) : place ≠ [] ∧ place ≠ homePlace := by
  have hcanonical : s.canonical home = .ok (pathOf homePlace) :=
    canonical_eq_ok_iff.mpr ⟨homePlace, .directory, hhome, hdir, rfl⟩
  rw [isProtected, Bool.or_eq_false_iff, Option.any_some, hcanonical] at h
  constructor
  · rintro rfl
    exact absurd h.1 (by decide)
  · rintro rfl
    have hsame : (pathOf place).same (pathOf place) = true := beq_self_eq_true _
    exact absurd h.2 (by simp [Except.toOption, hsame])

/-- Where something was removed, it was the place that the cache root leads to. -/
theorem clean_cases (hcwd : ∀ name ∈ s.cwd, IsName name)
    {result : Except CleanFailure (Option Path)} (h : clean s root (some home) = (after, result)) :
    after = s ∨ ∃ place, s.locate root = .ok place ∧
      isProtected s (pathOf place) (some home) = false ∧ after = s.drop place ∧
      result = .ok (some (pathOf place)) := by
  rw [clean] at h
  split at h
  · exact .inl (Prod.ext_iff.mp h).1.symm
  split at h
  · exact .inl (Prod.ext_iff.mp h).1.symm
  rename_i dir hcanonical
  split at h
  · exact .inl (Prod.ext_iff.mp h).1.symm
  rename_i hfree
  obtain ⟨place, -, hlocate, -, rfl⟩ := canonical_eq_ok_iff.mp hcanonical
  have hplace : ∀ name ∈ place, IsName name := by
    rw [Store.locate_seenFrom hlocate, Path.seenFrom]
    refine Path.foldl_fold_isName ?_ fun name hname => Path.isName_of_mem_components hname
    split
    · simp
    · exact hcwd
  rcases removeTree_pathOf s hplace with ⟨fault, hremove⟩ | hremove
  · rw [hremove] at h
    exact .inl (Prod.ext_iff.mp h).1.symm
  · rw [hremove] at h
    exact .inr ⟨place, hlocate, by simpa using hfree, (Prod.ext_iff.mp h).1.symm,
      (Prod.ext_iff.mp h).2.symm⟩

/-- What is not in the removed directory stays, whether the removal spares the home directory
or not, and it spares that exactly if it is not in the removed directory. -/
theorem spares_drop_iff (hdir : s.node? homePlace = some .directory) (hplace : place ≠ []) :
    Spares s (s.drop place) place homePlace ↔ ¬ place <+: homePlace := by
  have hkeeps : ∀ loc, ¬ place <+: loc → (s.drop place).node? loc = s.node? loc := by
    intro loc hloc
    by_cases hnil : loc = []
    · rw [hnil]
      rfl
    · rw [Store.node?_drop s place hnil, if_neg hloc]
  constructor
  · intro h hbelow
    have hnil : homePlace ≠ [] := by
      rintro rfl
      exact hplace (List.prefix_nil.mp hbelow)
    have hstands := h.stands
    rw [Store.node?_drop s place hnil, if_pos hbelow] at hstands
    contradiction
  · exact fun h => ⟨(hkeeps homePlace h).trans hdir, fun loc _ hloc => hkeeps loc hloc⟩

/-- **A removal takes neither the root of the file system nor the home directory for the cache
root, but it spares the home directory only if that is not in the cache root.** -/
theorem clean_spares_iff (hcwd : ∀ name ∈ s.cwd, IsName name)
    (hhome : s.locate home = .ok homePlace) (hdir : s.node? homePlace = some .directory)
    {result : Except CleanFailure (Option Path)} (h : clean s root (some home) = (after, result))
    (hgone : ∃ loc, after.node? loc ≠ s.node? loc) :
    ∃ place, s.locate root = .ok place ∧ after = s.drop place ∧
      result = .ok (some (pathOf place)) ∧ place ≠ [] ∧ place ≠ homePlace ∧
      (Spares s after place homePlace ↔ ¬ place <+: homePlace) := by
  rcases clean_cases hcwd h with rfl | ⟨place, hlocate, hfree, rfl, hresult⟩
  · obtain ⟨loc, hloc⟩ := hgone
    exact absurd rfl hloc
  · obtain ⟨hroot, hne⟩ := isProtected_pathOf hhome hdir hfree
    exact ⟨place, hlocate, rfl, hresult, hroot, hne, spares_drop_iff hdir hroot⟩

/-- A home directory with a cache root in it, and one for everyone. -/
def oneHome : Store where
  entries :=
    [(["home"], .directory), (["home", "me"], .directory), (["home", "me", "cache"], .directory),
      (["home", "me", "notes.txt"], .file "keep".toUTF8 false)]
  cwd := ["home", "me"]
  frozen := []

theorem clean_spares_oneHome :
    (∀ name ∈ oneHome.cwd, IsName name) ∧ oneHome.locate ⟨"/home/me"⟩ = .ok ["home", "me"] ∧
      oneHome.node? ["home", "me"] = some .directory ∧
      (clean oneHome ⟨"cache/../cache"⟩ (some ⟨"/home/me"⟩)).1.node? ["home", "me", "cache"] ≠
        oneHome.node? ["home", "me", "cache"] ∧
      ∃ place, oneHome.locate ⟨"cache/../cache"⟩ = .ok place ∧
        (clean oneHome ⟨"cache/../cache"⟩ (some ⟨"/home/me"⟩)).1 = oneHome.drop place ∧
        (clean oneHome ⟨"cache/../cache"⟩ (some ⟨"/home/me"⟩)).2 = .ok (some (pathOf place)) ∧
        place ≠ [] ∧ place ≠ ["home", "me"] ∧
        (Spares oneHome (clean oneHome ⟨"cache/../cache"⟩ (some ⟨"/home/me"⟩)).1 place
          ["home", "me"] ↔ ¬ place <+: ["home", "me"]) := by
  have hcwd : ∀ name ∈ oneHome.cwd, IsName name := by
    intro name hname
    rcases List.mem_pair.mp hname with rfl | rfl
    · exact ⟨by decide, by decide, by decide⟩
    · exact ⟨by decide, by decide, by decide⟩
  have hhome : oneHome.locate ⟨"/home/me"⟩ = .ok ["home", "me"] := by decide +kernel
  have hdir : oneHome.node? ["home", "me"] = some .directory := by decide +kernel
  have hgone : (clean oneHome ⟨"cache/../cache"⟩ (some ⟨"/home/me"⟩)).1.node?
      ["home", "me", "cache"] ≠ oneHome.node? ["home", "me", "cache"] := by decide +kernel
  exact ⟨hcwd, hhome, hdir, hgone,
    clean_spares_iff hcwd hhome hdir (Prod.eta _).symm ⟨_, hgone⟩⟩

/-- The directory above the home directory can be the cache root, and then all is removed. -/
theorem not_spares_aboveHome :
    (clean oneHome ⟨"/home"⟩ (some ⟨"/home/me"⟩)).2 = .ok (some ⟨"/home"⟩) ∧
      ¬ Spares oneHome (clean oneHome ⟨"/home"⟩ (some ⟨"/home/me"⟩)).1 ["home"] ["home", "me"] ∧
      oneHome.exists? ⟨"/home/me/notes.txt"⟩ = true ∧
      (clean oneHome ⟨"/home"⟩ (some ⟨"/home/me"⟩)).1.exists? ⟨"/home/me"⟩ = false ∧
      (clean oneHome ⟨"/home"⟩ (some ⟨"/home/me"⟩)).1.exists? ⟨"/home/me/notes.txt"⟩ = false := by
  have hresult : (clean oneHome ⟨"/home"⟩ (some ⟨"/home/me"⟩)).2 = .ok (some ⟨"/home"⟩) := by
    decide +kernel
  have hthere : oneHome.exists? ⟨"/home/me/notes.txt"⟩ = true := by decide +kernel
  have hgone : (clean oneHome ⟨"/home"⟩ (some ⟨"/home/me"⟩)).1.node? ["home", "me"] = none := by
    decide +kernel
  have hhome : (clean oneHome ⟨"/home"⟩ (some ⟨"/home/me"⟩)).1.exists? ⟨"/home/me"⟩ = false := by
    decide +kernel
  have hnotes : (clean oneHome ⟨"/home"⟩ (some ⟨"/home/me"⟩)).1.exists?
      ⟨"/home/me/notes.txt"⟩ = false := by decide +kernel
  exact ⟨hresult, fun h => absurd (hgone.symm.trans h.stands) (by simp), hthere, hhome, hnotes⟩

end ScriptDeps.CommandLine
