/-
Making a directory is making the one above and then it.

Which directories have to be made is found out from below: the first of a row of paths that
can be made, or that is there, ends the search, and what was missing is then made from there
on.  For a path that spells names that comes to the same as making all from above, one after
the other, where those that are there are left alone.  The one exception is a file on the
way, which is found from below and leaves all as it was.
-/
import ScriptDeps.Proofs.Store.Follow

namespace ScriptDeps.Store

variable {s : Store} {p dir : Path} {above : List Path} {names : List String} {name : String}
  {fault : Fault}

/-- The directories of a row made, each of which stands in the next, as far as that succeeds. -/
def makeDirs (s : Store) (dirs : List Path) : Store × Except Fault Unit :=
  match s.missingDirs dirs with
  | .error fault => (s, .error fault)
  | .ok missing => s.perform (missing.map .ensureDir)

/-- More effects after some that may have failed. -/
def thenPerform (done : Store × Except Fault Unit) (effects : List Effect) :
    Store × Except Fault Unit :=
  match done.2 with
  | .ok _ => done.1.perform effects
  | .error _ => done

theorem ensureDirs_eq (s : Store) (p : Path) (effects : List Effect) :
    (match s.ensureDirs p with
      | .error fault => (s, .error fault)
      | .ok dirs => s.perform (dirs ++ effects)) =
      thenPerform (s.makeDirs p.ancestors) effects := by
  unfold ensureDirs makeDirs
  cases s.missingDirs p.ancestors with
  | error fault => rfl
  | ok missing => exact s.perform_append _ effects

theorem extends_makeDirs (hs : s.IsTree) (dirs : List Path) :
    Extends s (s.makeDirs dirs).1 ∧ (s.makeDirs dirs).1.IsTree := by
  unfold makeDirs
  cases s.missingDirs dirs with
  | error fault => exact ⟨.refl s, hs⟩
  | ok missing => exact extends_perform_ensureDir hs missing

/-! ### One directory more -/

theorem makeDir_of_locate (h : s.locate (withoutSlashes p) = .error fault) :
    s.makeDir p = .error fault := by
  simp [makeDir, h, bind, Except.bind]

/-- Above the root, and where nothing is written, there is nothing to make. -/
theorem makeDirs_stop (h : p.chars = [] ∨ p.parent? = none) (above : List Path) :
    s.makeDirs (p :: above) = (s, .ok ()) := by
  have hstop : (p.chars.isEmpty || p.parent?.isNone) = true := by
    rcases h with h | h
    · simp [h]
    · simp [h]
  rw [makeDirs, missingDirs, if_pos hstop]
  rfl

section Row

variable (hwritten : p.chars ≠ []) (hparent : p.parent? = some dir)

include hwritten hparent

theorem not_stop : ¬ (p.chars.isEmpty || p.parent?.isNone) = true := by
  simp [hwritten, hparent]

/-- Where nothing above has to be made, it is tried to make the directory. -/
theorem makeDirs_ready (h : s.makeDirs above = (s, .ok ())) :
    s.makeDirs (p :: above) = s.perform [.ensureDir p] := by
  rw [makeDirs, missingDirs, if_neg (not_stop hwritten hparent), perform, Effect.run]
  cases hmake : s.makeDir p with
  | ok made =>
      show s.perform [.ensureDir p] = _
      rw [perform, Effect.run, hmake]
  | error fault =>
      cases fault
      case notFound =>
        -- the directory is made as well as it can be
        rw [makeDirs] at h
        cases hmissing : s.missingDirs above with
        | error fault => simp [hmissing] at h
        | ok missing =>
            rw [hmissing] at h
            simp only at h
            simp only [Except.map, List.map_append, List.map_singleton]
            rw [perform_append, h]
            simp only [perform, Effect.run, hmake]
      case alreadyExists =>
        by_cases hdir : s.isDir p = true
        · simp only [hdir, if_true]
          rfl
        · simp only [hdir, if_false, Bool.false_eq_true]
      all_goals rfl

/-- What has no place to stand in is made after what is above. -/
theorem makeDirs_notFound (h : s.makeDir p = .error .notFound) :
    s.makeDirs (p :: above) = thenPerform (s.makeDirs above) [.ensureDir p] := by
  rw [makeDirs, missingDirs, if_neg (not_stop hwritten hparent), h, makeDirs]
  cases s.missingDirs above with
  | error fault => rfl
  | ok missing =>
      simp only [Except.map, List.map_append, List.map_singleton]
      exact s.perform_append _ _

/-- Other faults are found before anything is made. -/
theorem makeDirs_fault (h : s.makeDir p = .error fault) (hmissing : fault ≠ .notFound)
    (hthere : fault ≠ .alreadyExists) : s.makeDirs (p :: above) = (s, .error fault) := by
  rw [makeDirs, missingDirs, if_neg (not_stop hwritten hparent), h]
  cases fault
  case notFound => contradiction
  case alreadyExists => contradiction
  all_goals rfl

end Row

/-! ### All from above -/

theorem fault_of_step {loc : Location} {piece : List Char} (h : s.step loc piece = .error fault) :
    fault ≠ .alreadyExists := by
  rintro rfl
  unfold step at h
  split at h
  · simp at h
  · simp at h
  · split at h
    · simp at h
    · split at h
      · simp at h
      · simp only at h
        split at h <;> simp at h

theorem fault_of_follow {start : Location} (h : s.follow start names = .error fault) :
    fault ≠ .alreadyExists := by
  induction names using List.reverseRecOn with
  | nil => simp [follow, pure, Except.pure] at h
  | append_singleton names name ih =>
      rw [follow_concat] at h
      cases hfront : s.follow start names with
      | error other =>
          rw [hfront] at h
          exact ih (hfront.trans h)
      | ok reached =>
          rw [hfront] at h
          exact fault_of_step h

theorem base_withoutSlashes (p : Path) (start : Location) :
    (withoutSlashes p).base start = p.base start :=
  Path.base_congr (Path.isStripped_withoutSlashes p).isAbsolute start

theorem ne_nil_of_descends (h : p.Descends names) (hne : names ≠ []) : p.chars ≠ [] := by
  intro hnil
  have hpieces := h.pieces
  rw [Path.pieces, hnil] at hpieces
  exact hne (List.map_eq_nil_iff.mp hpieces.symm)

theorem refused?_withoutSlashes (h : refused? p = none) : refused? (withoutSlashes p) = none := by
  have hstripped := Path.isStripped_withoutSlashes p
  exact refused?_of_prefix h hstripped.chars
    (hstripped.ne_nil (refused?_eq_none_iff.mp h).2.1)

/-- The path above is not refused either, unless nothing is written. -/
theorem refused?_above (habove : Path.IsAbove dir p names)
    (htext : refused? (withoutSlashes p) = none) (hne : dir.chars ≠ []) : refused? dir = none :=
  refused?_of_prefix htext habove.chars hne

/-- Where the names lead to a directory, a path that spells them leads there. -/
theorem locate_of_follow (h : p.Descends names) (htext : refused? p = none) {loc : Location}
    (hfollow : s.follow (p.base s.cwd) names = .ok loc)
    (hdir : p.isLoose = true → s.node? loc = some .directory) : s.locate p = .ok loc := by
  rw [locate_of_descends h htext, hfollow]
  show (if p.isLoose then s.step loc [] else .ok loc) = _
  by_cases hloose : p.isLoose = true
  · rw [if_pos hloose, step_idle_of_directory (hdir hloose)]
  · rw [if_neg hloose]

/-- Where the names lead nowhere, the path does not. -/
theorem locate_of_follow_error (h : p.Descends names) (htext : refused? p = none)
    (hfollow : s.follow (p.base s.cwd) names = .error fault) : s.locate p = .error fault := by
  rw [locate_of_descends h htext, hfollow]
  rfl

/-- A directory that is there need not be made. -/
theorem makeDirs_there (h : p.Descends names) (htext : p.chars ≠ [] → refused? p = none)
    {loc : Location} (hfollow : s.follow (p.base s.cwd) names = .ok loc)
    (hdir : s.node? loc = some .directory) (above : List Path) :
    s.makeDirs (p :: above) = (s, .ok ()) := by
  by_cases hwritten : p.chars = []
  · exact makeDirs_stop (.inl hwritten) above
  cases hparent : p.parent? with
  | none => exact makeDirs_stop (.inr hparent) above
  | some dir =>
      have hstripped : s.locate (withoutSlashes p) = .ok loc := by
        refine locate_of_follow h.withoutSlashes (refused?_withoutSlashes (htext hwritten)) ?_
          fun _ => hdir
        rw [base_withoutSlashes, hfollow]
      have hmake : s.makeDir p = .error .alreadyExists := by
        simp [makeDir, hstripped, bind, Except.bind, hdir]
      have hthere : s.isDir p = true := by
        have hlocate := locate_of_follow h (htext hwritten) hfollow fun _ => hdir
        rw [isDir, lookup_of_locate hlocate hdir]
      rw [makeDirs, missingDirs, if_neg (not_stop hwritten hparent), hmake]
      simp only [hthere, if_true]
      rfl

section Above

variable (hd : p.Descends (names ++ [name])) (hparent : p.parent? = some dir)
  (habove : Path.IsAbove dir p names) (htext : refused? (withoutSlashes p) = none)

include hd htext

/-- What the names above run into, the directory runs into as well. -/
theorem makeDir_of_follow (hfollow : s.follow (p.base s.cwd) names = .error fault) :
    s.makeDir p = .error fault := by
  refine makeDir_of_locate (locate_of_follow_error hd.withoutSlashes htext ?_)
  rw [base_withoutSlashes, follow_concat, hfollow]
  rfl

include hparent

/-- A file in place of the directory above is found first. -/
theorem makeDirs_file (hs : s.IsTree) (hshort : Short names) {content : ByteArray}
    {runnable : Bool} (hfile : s.node? (p.base s.cwd ++ names) = some (.file content runnable))
    (rest : List Path) : s.makeDirs (p :: rest) = (s, .error .notDirectory) := by
  have hnames : ∀ other ∈ names, IsName other :=
    fun other hother => hd.isName other (List.mem_append_left _ hother)
  have hfollow : s.follow (p.base s.cwd) names = .ok (p.base s.cwd ++ names) :=
    follow_of_isTree hs hnames hshort (by rw [hfile]; simp)
  have hlocate : s.locate (withoutSlashes p) = .error .notDirectory := by
    refine locate_of_follow_error hd.withoutSlashes htext ?_
    rw [base_withoutSlashes, follow_concat, hfollow]
    exact step_of_file hfile _
  exact makeDirs_fault (ne_nil_of_descends hd (by simp)) hparent (makeDir_of_locate hlocate)
    (by simp) (by simp)

include habove

/-- What keeps the directory from being made, other than that one above it is missing, keeps those
above from being made. -/
theorem makeDirs_stuck (hfollow : s.follow (p.base s.cwd) names = .error fault)
    (hmissing : fault ≠ .notFound) (n : Nat) :
    s.makeDirs (p :: dir.ancestorsUpTo n) = (s, .error fault) ∧
      s.makeDirs (dir.ancestorsUpTo n) = (s, .error fault) := by
  have hne : names ≠ [] := by
    rintro rfl
    simp [follow, pure, Except.pure] at hfollow
  have hthere := fault_of_follow hfollow
  have hwritten := ne_nil_of_descends habove.descends hne
  obtain ⟨above, hrow⟩ := exists_ancestorsUpTo n dir
  obtain ⟨front, last, rfl⟩ := (List.eq_nil_or_concat' names).resolve_left hne
  obtain ⟨up, hup, -⟩ := habove.descends.exists_parent
  have hdirText := refused?_withoutSlashes (refused?_above habove htext hwritten)
  have hdir : s.makeDir dir = .error fault := by
    refine makeDir_of_locate (locate_of_follow_error habove.descends.withoutSlashes hdirText ?_)
    rw [base_withoutSlashes, Path.base_congr habove.isAbsolute, hfollow]
  refine ⟨makeDirs_fault (ne_nil_of_descends hd (by simp)) hparent
    (makeDir_of_follow hd htext hfollow) hmissing hthere, ?_⟩
  rw [hrow]
  exact makeDirs_fault hwritten hup hdir hmissing hthere

/-- **Else the directory is made after all above it.** -/
theorem makeDirs_above (hfree : Short names → ∀ content runnable,
    s.node? (p.base s.cwd ++ names) ≠ some (.file content runnable)) (n : Nat) :
    s.makeDirs (p :: dir.ancestorsUpTo n) =
      thenPerform (s.makeDirs (dir.ancestorsUpTo n)) [.ensureDir p] := by
  have hwritten := ne_nil_of_descends hd (by simp)
  have hnames : ∀ other ∈ names, IsName other :=
    fun other hother => hd.isName other (List.mem_append_left _ hother)
  cases hfollow : s.follow (p.base s.cwd) names with
  | error fault =>
      by_cases hmissing : fault = .notFound
      · exact makeDirs_notFound hwritten hparent
          (hmissing ▸ makeDir_of_follow hd htext hfollow)
      · obtain ⟨hstuck, hstuck'⟩ := makeDirs_stuck hd hparent habove htext hfollow hmissing n
        rw [hstuck, hstuck']
        rfl
  | ok reached =>
      obtain ⟨hshort, rfl, -⟩ := (follow_eq_ok_iff hnames).mp hfollow
      cases hnode : s.node? (p.base s.cwd ++ names) with
      | none =>
          refine makeDirs_notFound hwritten hparent
            (makeDir_of_locate (locate_of_follow_error hd.withoutSlashes htext ?_))
          rw [base_withoutSlashes, follow_concat, hfollow]
          exact step_of_none hnode _
      | some node =>
          cases node with
          | file content runnable => exact absurd hnode (hfree hshort content runnable)
          | directory =>
              obtain ⟨above, hrow⟩ := exists_ancestorsUpTo n dir
              have hready : s.makeDirs (dir :: above) = (s, .ok ()) :=
                makeDirs_there habove.descends (refused?_above habove htext)
                  ((Path.base_congr habove.isAbsolute s.cwd).symm ▸ hfollow) hnode above
              rw [hrow, makeDirs_ready hwritten hparent hready, hready]
              rfl

end Above

end ScriptDeps.Store
