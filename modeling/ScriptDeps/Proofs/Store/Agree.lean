/-
Two stores that agree on a place.

One party runs alone on the first store, and on the second it shares the files with others.
At and below its place the stores are the same.  On the way there the second may have
directories that the first has not, since others made them, but nothing else.

That is enough to make the directories on the way with the same result: where the second
finds a directory that the first has not, the first can make it.  Afterwards the place is
there in both, and then there is no difference left at it, above it or below it.
-/
import ScriptDeps.Proofs.Store.MakeDirs

namespace ScriptDeps.Store

variable {s s' a a' : Store} {start place loc : Location} {names front : List String}
  {name : String} {p : Path}

/-! ### Paths read in two stores -/

theorem step_congr (h : s'.node? loc = s.node? loc) (piece : List Char) :
    s'.step loc piece = s.step loc piece := by
  rw [step, step, h]

theorem follow_congr (hnames : ∀ name ∈ names, IsName name)
    (h : ∀ front, front <+: names → s'.node? (start ++ front) = s.node? (start ++ front)) :
    s'.follow start names = s.follow start names := by
  induction names using List.reverseRecOn with
  | nil => rfl
  | append_singleton names name ih =>
      have hfronts : ∀ other ∈ names, IsName other :=
        fun other hother => hnames other (List.mem_append_left _ hother)
      have hsame := ih hfronts fun front hfront => h front (hfront.trans (List.prefix_append _ _))
      rw [follow_concat, follow_concat, hsame]
      cases hfollow : s.follow start names with
      | error fault => rfl
      | ok reached =>
          obtain ⟨-, rfl, -⟩ := (follow_eq_ok_iff hfronts).mp hfollow
          exact step_congr (h names (List.prefix_append _ _)) _

/-- A path leads the same way in two stores that are the same all along it. -/
theorem locate_congr (hp : p.Descends names) (hcwd : s'.cwd = s.cwd)
    (h : ∀ front, front <+: names →
      s'.node? (p.base s.cwd ++ front) = s.node? (p.base s.cwd ++ front)) :
    s'.locate p = s.locate p := by
  cases htext : refused? p with
  | some fault => rw [locate_refused htext, locate_refused htext]
  | none =>
      rw [locate_of_descends hp htext, locate_of_descends hp htext, hcwd,
        follow_congr hp.isName h]
      cases hfollow : s.follow (p.base s.cwd) names with
      | error fault => rfl
      | ok reached =>
          obtain ⟨-, rfl, -⟩ := (follow_eq_ok_iff hp.isName).mp hfollow
          show (if p.isLoose then s'.step _ [] else .ok _) =
            if p.isLoose then s.step _ [] else .ok _
          rw [step_congr (h names (List.prefix_refl _))]

/-! ### One directory -/

/-- A path that has nothing idle at its end has no separators there. -/
theorem withoutSlashes_of_not_isLoose (h : p.isLoose = false) : withoutSlashes p = p := by
  refine withoutSlashes_eq fun hslash => ?_
  obtain ⟨begin, hbegin⟩ := List.getLast?_eq_some_iff.mp hslash
  rw [Path.isLoose, Path.pieces_of_slash hbegin, List.getLast?_concat] at h
  contradiction

section One

variable (hp : p.Descends (front ++ [name])) (htext : refused? (withoutSlashes p) = none)
  (hfollow : s.follow (p.base s.cwd) front = .ok (p.base s.cwd ++ front))
  (hdir : s.node? (p.base s.cwd ++ front) = some .directory)

include hp htext hfollow hdir

theorem locate_withoutSlashes (hshort : name.utf8ByteSize ≤ maxName) :
    s.locate (withoutSlashes p) =
      if (withoutSlashes p).isLoose then s.step (p.base s.cwd ++ (front ++ [name])) []
      else .ok (p.base s.cwd ++ (front ++ [name])) := by
  have hname : IsName name := hp.isName name (by simp)
  rw [locate_of_descends hp.withoutSlashes htext, base_withoutSlashes, follow_concat, hfollow]
  show (s.step (p.base s.cwd ++ front) name.toList >>= _) = _
  rw [step_name_of_directory hname hdir, if_pos hshort, ← List.append_assoc]
  rfl

theorem run_ensureDir_long (hlong : ¬ name.utf8ByteSize ≤ maxName) :
    (Effect.ensureDir p).run s = .error .nameTooLong := by
  have hname : IsName name := hp.isName name (by simp)
  have hlocate : s.locate (withoutSlashes p) = .error .nameTooLong := by
    rw [locate_of_descends hp.withoutSlashes htext, base_withoutSlashes, follow_concat, hfollow]
    show (s.step (p.base s.cwd ++ front) name.toList >>= _) = _
    rw [step_name_of_directory hname hdir, if_neg hlong]
    rfl
  rw [Effect.run, makeDir_of_locate hlocate]

theorem run_ensureDir_none (hshort : name.utf8ByteSize ≤ maxName)
    (hnode : s.node? (p.base s.cwd ++ (front ++ [name])) = none) :
    (Effect.ensureDir p).run s =
      if (withoutSlashes p).isLoose || s.isFrozen (p.base s.cwd ++ (front ++ [name])) then
        .error .notFound
      else .ok (s.put (p.base s.cwd ++ (front ++ [name])) .directory) := by
  have hlocate := locate_withoutSlashes hp htext hfollow hdir hshort
  by_cases hloose : (withoutSlashes p).isLoose = true
  · rw [if_pos hloose, step_of_none hnode] at hlocate
    rw [Effect.run, makeDir_of_locate hlocate, hloose]
    rfl
  · rw [if_neg hloose] at hlocate
    rw [Bool.not_eq_true] at hloose
    by_cases hfrozen : s.isFrozen (p.base s.cwd ++ (front ++ [name])) = true
    · simp [Effect.run, makeDir, hlocate, bind, Except.bind, hnode, hloose, hfrozen]
    · simp [Effect.run, makeDir, hlocate, bind, Except.bind, hnode, hloose, hfrozen]

theorem run_ensureDir_file (hshort : name.utf8ByteSize ≤ maxName) {content : ByteArray}
    {runnable : Bool}
    (hnode : s.node? (p.base s.cwd ++ (front ++ [name])) = some (.file content runnable)) :
    (Effect.ensureDir p).run s =
      .error (if (withoutSlashes p).isLoose then .notDirectory else .alreadyExists) := by
  have hlocate := locate_withoutSlashes hp htext hfollow hdir hshort
  by_cases hloose : (withoutSlashes p).isLoose = true
  · rw [if_pos hloose, step_of_file hnode] at hlocate
    rw [Effect.run, makeDir_of_locate hlocate, if_pos hloose]
  · rw [if_neg hloose] at hlocate
    have hmake : s.makeDir p = .error .alreadyExists := by
      simp [makeDir, hlocate, bind, Except.bind, hnode]
    have hthere : s.isDir p = false := by
      rw [isDir]
      cases hlookup : s.lookup p with
      | error fault => rfl
      | ok node =>
          obtain ⟨l, hl, hnode'⟩ := locate_of_lookup hlookup
          have hplace := locate_seenFrom hl
          rw [hp.seenFrom] at hplace
          rw [hplace, hnode, Option.some.injEq] at hnode'
          rw [← hnode']
    rw [Effect.run, hmake, if_neg hloose]
    simp [hthere]

theorem run_ensureDir_directory (hshort : name.utf8ByteSize ≤ maxName)
    (hnode : s.node? (p.base s.cwd ++ (front ++ [name])) = some .directory) :
    (Effect.ensureDir p).run s =
      if refused? p = none then .ok s else .error .alreadyExists := by
  have hname : IsName name := hp.isName name (by simp)
  have hlocate := locate_withoutSlashes hp htext hfollow hdir hshort
  rw [step_idle_of_directory hnode, ite_self] at hlocate
  have hmake : s.makeDir p = .error .alreadyExists := by
    simp [makeDir, hlocate, bind, Except.bind, hnode]
  rw [Effect.run, hmake]
  simp only
  cases hrefused : refused? p with
  | some fault =>
      have hthere : s.isDir p = false := by
        simp [isDir, lookup, locate_refused hrefused, bind, Except.bind]
      simp [hthere]
  | none =>
      have hwhole : s.follow (p.base s.cwd) (front ++ [name]) =
          .ok (p.base s.cwd ++ (front ++ [name])) := by
        rw [follow_concat, hfollow]
        show s.step _ _ = _
        rw [step_name_of_directory hname hdir, if_pos hshort, List.append_assoc]
      have hthere : s.isDir p = true := by
        rw [isDir, lookup_of_locate (locate_of_follow hp hrefused hwhole fun _ => hnode) hnode]
      simp [hthere]

end One

/-- A text that is refused is so before anything is looked for. -/
theorem fault_of_refused {fault : Fault} (h : refused? p = some fault) (hne : p.chars ≠ []) :
    fault ≠ .notFound ∧ fault ≠ .alreadyExists := by
  have hempty : ¬ p.chars.isEmpty = true := fun hc => hne (List.isEmpty_iff.mp hc)
  unfold refused? at h
  rw [if_neg hempty] at h
  split at h
  · rw [← Option.some.inj h]
    exact ⟨by simp, by simp⟩
  · split at h
    · rw [← Option.some.inj h]
      exact ⟨by simp, by simp⟩
    · contradiction

/-- A path whose text is refused fails without a look at what stands anywhere. -/
theorem makeDirs_refused {fault : Fault} {dir : Path} (hwritten : p.chars ≠ [])
    (hparent : p.parent? = some dir) (htext : refused? (withoutSlashes p) = some fault)
    (above : List Path) : s.makeDirs (p :: above) = (s, .error fault) := by
  have hstripped := (Path.isStripped_withoutSlashes p).ne_nil hwritten
  obtain ⟨hmissing, hthere⟩ := fault_of_refused htext hstripped
  exact makeDirs_fault hwritten hparent (makeDir_of_locate (locate_refused htext)) hmissing hthere

/-- Where no name is spelled there is nothing to make, whatever stands elsewhere. -/
theorem exists_makeDirs_nil (hp : p.Descends []) (above : List Path) :
    ∃ result, ∀ s : Store, s.node? (p.base s.cwd) = some .directory →
      s.makeDirs (p :: above) = (s, result) := by
  by_cases hwritten : p.chars = []
  · exact ⟨.ok (), fun s _ => makeDirs_stop (.inl hwritten) above⟩
  cases hparent : p.parent? with
  | none => exact ⟨.ok (), fun s _ => makeDirs_stop (.inr hparent) above⟩
  | some dir =>
      cases hstripped : refused? (withoutSlashes p) with
      | some fault =>
          exact ⟨.error fault, fun s _ => makeDirs_refused hwritten hparent hstripped above⟩
      | none =>
          cases htext : refused? p with
          | none =>
              refine ⟨.ok (), fun s hbase => ?_⟩
              have hfollow : s.follow (p.base s.cwd) [] = .ok (p.base s.cwd) := rfl
              exact makeDirs_there hp (fun _ => htext) hfollow hbase above
          | some fault =>
              -- the directory is there, but its whole path is too long to be asked for
              refine ⟨.error .alreadyExists, fun s hbase => ?_⟩
              have hlocate : s.locate (withoutSlashes p) = .ok (p.base s.cwd) := by
                refine locate_of_follow hp.withoutSlashes hstripped ?_ fun _ => hbase
                rw [base_withoutSlashes]
                rfl
              have hmake : s.makeDir p = .error .alreadyExists := by
                simp [makeDir, hlocate, bind, Except.bind, hbase]
              have hthere : s.isDir p = false := by
                simp [isDir, lookup, locate_refused htext, bind, Except.bind]
              rw [makeDirs, missingDirs, if_neg (not_stop hwritten hparent), hmake]
              simp [hthere]

/-! ### Agreement -/

/-- What two stores have in common for the party whose place the names lead to: all that is at
the place or below it, and all on the way there but for directories that are new in the second. -/
structure Agree (start : Location) (names : List String) (alone shared : Store) : Prop where
  cwd : shared.cwd = alone.cwd
  frozen : shared.frozen = alone.frozen
  tree : alone.IsTree
  treeShared : shared.IsTree
  base : alone.node? start = some .directory
  below : ∀ rest, shared.node? (start ++ names ++ rest) = alone.node? (start ++ names ++ rest)
  way : ∀ front, front <+: names → shared.node? (start ++ front) = alone.node? (start ++ front) ∨
    (alone.node? (start ++ front) = none ∧ shared.node? (start ++ front) = some .directory ∧
      alone.isFrozen (start ++ front) = false)

theorem Agree.isFrozen (h : Agree start names a s) (loc : Location) :
    s.isFrozen loc = a.isFrozen loc := by
  rw [Store.isFrozen, Store.isFrozen, h.frozen]

/-- What is a directory in the first is one in the second. -/
theorem Agree.directory (h : Agree start names a s) (hfront : front <+: names)
    (hdir : a.node? (start ++ front) = some .directory) :
    s.node? (start ++ front) = some .directory := by
  rcases h.way front hfront with hsame | ⟨hnone, -, -⟩
  · rw [hsame, hdir]
  · rw [hnone] at hdir
    contradiction

/-- What is a file in one of them is the same file in the other. -/
theorem Agree.file_iff (h : Agree start names a s) (hfront : front <+: names)
    {content : ByteArray} {runnable : Bool} :
    s.node? (start ++ front) = some (.file content runnable) ↔
      a.node? (start ++ front) = some (.file content runnable) := by
  rcases h.way front hfront with hsame | ⟨hnone, hdir, -⟩
  · rw [hsame]
  · rw [hnone, hdir]
    simp

/-- The same was put at a location in both. -/
theorem Agree.sets (h : Agree start names a s) {node : Node} (hloc : a.node? loc ≠ some .directory)
    (ha : Sets a a' loc node) (hs : Sets s s' loc node) (hfrozen : a'.frozen = a.frozen)
    (hfrozen' : s'.frozen = s.frozen) (htree : a'.IsTree) (htree' : s'.IsTree) :
    Agree start names a' s' := by
  refine ⟨by rw [hs.cwd, ha.cwd, h.cwd], by rw [hfrozen, hfrozen', h.frozen], htree, htree', ?_,
    fun rest => ?_, fun front hfront => ?_⟩
  · rw [ha.node?, if_neg fun hc => hloc (by rw [← hc]; exact h.base)]
    exact h.base
  · rw [ha.node?, hs.node?, h.below]
  · rw [ha.node?, hs.node?, Store.isFrozen, hfrozen]
    by_cases heq : start ++ front = loc
    · rw [if_pos heq, if_pos heq]
      exact .inl rfl
    · rw [if_neg heq, if_neg heq]
      exact h.way front hfront

/-- The first caught up with a directory that the second already had. -/
theorem Agree.catchUp (h : Agree start names a s) (hfront : front <+: names) (hne : front ≠ names)
    (hthere : s.node? (start ++ front) = some .directory)
    (ha : Sets a a' (start ++ front) .directory) (hfrozen : a'.frozen = a.frozen)
    (htree : a'.IsTree) : Agree start names a' s := by
  refine ⟨by rw [ha.cwd, h.cwd], by rw [hfrozen, h.frozen], htree, h.treeShared, ?_,
    fun rest => ?_, fun other hother => ?_⟩
  · rw [ha.node?]
    split
    · rfl
    · exact h.base
  · rw [ha.node?, if_neg, h.below]
    intro hc
    rw [List.append_assoc, List.append_cancel_left_eq] at hc
    exact hne (hfront.eq_of_length_le (by rw [← hc]; simp))
  · rw [ha.node?, Store.isFrozen, hfrozen]
    by_cases heq : start ++ other = start ++ front
    · rw [if_pos heq, heq]
      exact .inl hthere
    · rw [if_neg heq]
      exact h.way other hother

/-! ### Directories made in both -/

/-- The directories were made in both with the same result, and if all went well, the last of
them is there. -/
structure MadeAlike (start : Location) (names front : List String)
    (x y : Store × Except Fault Unit) : Prop where
  result : y.2 = x.2
  agree : Agree start names x.1 y.1
  short : x.2 = .ok () → Short front
  there : x.2 = .ok () → x.1.node? (start ++ front) = some .directory

theorem MadeAlike.failed {fault : Fault} (h : Agree start names a s) :
    MadeAlike start names front (a, .error fault) (s, .error fault) :=
  ⟨rfl, h, fun hc => by contradiction, fun hc => by contradiction⟩

theorem isTree_put_directory (hs : s.IsTree) (hdir : s.node? loc = some .directory)
    (hnode : s.node? (loc ++ [name]) = none) : (s.put (loc ++ [name]) .directory).IsTree := by
  refine (sets_put s .directory (by simp)).isTree hs (fun above last heq => ?_) (by simp [hnode])
  obtain ⟨rfl, -⟩ := List.append_inj' heq rfl
  exact hdir

theorem perform_one_ok {e : Effect} (h : e.run s = .ok s') : s.perform [e] = (s', .ok ()) := by
  rw [perform, h]
  rfl

theorem perform_one_error {e : Effect} {fault : Fault} (h : e.run s = .error fault) :
    s.perform [e] = (s, .error fault) := by
  rw [perform, h]

theorem Agree.made (h : Agree start names a s) (hway : front ++ [name] <+: names)
    (hshort : Short (front ++ [name])) (hdir : a.node? (start ++ front) = some .directory)
    (hnode : a.node? (start ++ (front ++ [name])) = none)
    (hsame : s.node? (start ++ (front ++ [name])) = a.node? (start ++ (front ++ [name]))) :
    MadeAlike start names (front ++ [name])
      (a.put (start ++ (front ++ [name])) .directory, .ok ())
      (s.put (start ++ (front ++ [name])) .directory, .ok ()) := by
  have hdir' := h.directory ((List.prefix_append _ _).trans hway) hdir
  have hne : start ++ (front ++ [name]) ≠ [] := by simp
  have ha := sets_put a .directory hne
  have hs := sets_put s .directory hne
  refine ⟨rfl, h.sets (by rw [hnode]; simp) ha hs rfl rfl ?_ ?_, fun _ => hshort, fun _ => ?_⟩
  · rw [← List.append_assoc] at hnode ⊢
    exact isTree_put_directory h.tree hdir hnode
  · rw [hnode, ← List.append_assoc] at hsame
    rw [← List.append_assoc]
    exact isTree_put_directory h.treeShared hdir' hsame
  · rw [ha.node?, if_pos rfl]

section One

variable (h : Agree (p.base a.cwd) names a s) (hp : p.Descends (front ++ [name]))
  (hway : front ++ [name] <+: names) (htext : refused? (withoutSlashes p) = none)
  (hshort : Short front) (hdir : a.node? (p.base a.cwd ++ front) = some .directory)

include h hp hway hshort hdir

/-- In both the path leads to the directory that the new one would stand in. -/
theorem Agree.follow_above :
    a.follow (p.base a.cwd) front = .ok (p.base a.cwd ++ front) ∧
      s.follow (p.base s.cwd) front = .ok (p.base s.cwd ++ front) ∧
      s.node? (p.base s.cwd ++ front) = some .directory := by
  have hfronts : ∀ other ∈ front, IsName other :=
    fun other hother => hp.isName other (List.mem_append_left _ hother)
  have hdir' : s.node? (p.base s.cwd ++ front) = some .directory := by
    rw [h.cwd]
    exact h.directory ((List.prefix_append _ _).trans hway) hdir
  exact ⟨follow_of_isTree h.tree hfronts hshort (by rw [hdir]; simp),
    follow_of_isTree h.treeShared hfronts hshort (by rw [hdir']; simp), hdir'⟩

include htext

/-- Where the same stands in both, the directory is made in both or in none. -/
theorem Agree.ensureDir_same (hname : name.utf8ByteSize ≤ maxName)
    (hsame : s.node? (p.base a.cwd ++ (front ++ [name])) =
      a.node? (p.base a.cwd ++ (front ++ [name]))) :
    MadeAlike (p.base a.cwd) names (front ++ [name]) (a.perform [.ensureDir p])
      (s.perform [.ensureDir p]) := by
  obtain ⟨hfollow, hfollow', hdir'⟩ := h.follow_above hp hway hshort hdir
  have hshort' : Short (front ++ [name]) := short_concat.mpr ⟨hshort, hname⟩
  cases hnode : a.node? (p.base a.cwd ++ (front ++ [name])) with
  | none =>
      have hrun := run_ensureDir_none hp htext hfollow hdir hname hnode
      have hrun' := run_ensureDir_none hp htext hfollow' hdir' hname (by rw [h.cwd, hsame, hnode])
      rw [h.isFrozen, h.cwd] at hrun'
      split at hrun
      · rename_i hstop
        rw [if_pos hstop] at hrun'
        rw [perform_one_error hrun, perform_one_error hrun']
        exact .failed h
      · rename_i hstop
        rw [if_neg hstop] at hrun'
        rw [perform_one_ok hrun, perform_one_ok hrun']
        exact h.made hway hshort' hdir hnode hsame
  | some node =>
      cases node with
      | file content runnable =>
          rw [perform_one_error (run_ensureDir_file hp htext hfollow hdir hname hnode),
            perform_one_error (run_ensureDir_file hp htext hfollow' hdir' hname
              (by rw [h.cwd, hsame, hnode]))]
          exact .failed h
      | directory =>
          have hrun := run_ensureDir_directory hp htext hfollow hdir hname hnode
          have hrun' := run_ensureDir_directory hp htext hfollow' hdir' hname
            (by rw [h.cwd, hsame, hnode])
          by_cases hp : refused? p = none
          · rw [if_pos hp] at hrun hrun'
            rw [perform_one_ok hrun, perform_one_ok hrun']
            exact ⟨rfl, h, fun _ => hshort', fun _ => hnode⟩
          · rw [if_neg hp] at hrun hrun'
            rw [perform_one_error hrun, perform_one_error hrun']
            exact .failed h

/-- Where others have made the directory already, it is made in the one and found in the other. -/
theorem Agree.ensureDir_found (hname : name.utf8ByteSize ≤ maxName)
    (hloose : front ++ [name] ≠ names → p.isLoose = false)
    (hnone : a.node? (p.base a.cwd ++ (front ++ [name])) = none)
    (hthere : s.node? (p.base a.cwd ++ (front ++ [name])) = some .directory)
    (hfrozen : a.isFrozen (p.base a.cwd ++ (front ++ [name])) = false) :
    MadeAlike (p.base a.cwd) names (front ++ [name]) (a.perform [.ensureDir p])
      (s.perform [.ensureDir p]) := by
  obtain ⟨hfollow, hfollow', hdir'⟩ := h.follow_above hp hway hshort hdir
  have hne : front ++ [name] ≠ names := by
    rintro rfl
    have hbelow := h.below []
    rw [List.append_nil, hnone, hthere] at hbelow
    contradiction
  have htight := hloose hne
  have hstripped := withoutSlashes_of_not_isLoose htight
  have hrun := run_ensureDir_none hp htext hfollow hdir hname hnone
  have hrun' := run_ensureDir_directory hp htext hfollow' hdir' hname (by rw [h.cwd, hthere])
  rw [hstripped, htight, hfrozen, if_neg (by simp)] at hrun
  rw [if_pos (hstripped ▸ htext)] at hrun'
  rw [perform_one_ok hrun, perform_one_ok hrun']
  have hplace : p.base a.cwd ++ (front ++ [name]) ≠ [] := by simp
  have hsets := sets_put a .directory hplace
  have htree : (a.put (p.base a.cwd ++ (front ++ [name])) .directory).IsTree := by
    rw [← List.append_assoc]
    exact isTree_put_directory h.tree hdir (by rw [List.append_assoc]; exact hnone)
  refine ⟨rfl, h.catchUp hway hne hthere hsets rfl htree,
    fun _ => short_concat.mpr ⟨hshort, hname⟩, fun _ => ?_⟩
  rw [hsets.node?, if_pos rfl]

/-- **One directory is made in both with the same result**, once the one above it is there. -/
theorem Agree.ensureDir (hloose : front ++ [name] ≠ names → p.isLoose = false) :
    MadeAlike (p.base a.cwd) names (front ++ [name]) (a.perform [.ensureDir p])
      (s.perform [.ensureDir p]) := by
  by_cases hname : name.utf8ByteSize ≤ maxName
  · rcases h.way _ hway with hsame | ⟨hnone, hthere, hfrozen⟩
    · exact h.ensureDir_same hp hway htext hshort hdir hname hsame
    · exact h.ensureDir_found hp hway htext hshort hdir hname hloose hnone hthere hfrozen
  · obtain ⟨hfollow, hfollow', hdir'⟩ := h.follow_above hp hway hshort hdir
    rw [perform_one_error (run_ensureDir_long hp htext hfollow hdir hname),
      perform_one_error (run_ensureDir_long hp htext hfollow' hdir' hname)]
    exact .failed h

end One

theorem MadeAlike.ensureDir {x y : Store × Except Fault Unit} (h : MadeAlike start names front x y)
    (hp : p.Descends (front ++ [name])) (hbase : p.base x.1.cwd = start)
    (hway : front ++ [name] <+: names) (hloose : front ++ [name] ≠ names → p.isLoose = false)
    (htext : refused? (withoutSlashes p) = none) :
    MadeAlike start names (front ++ [name]) (thenPerform x [.ensureDir p])
      (thenPerform y [.ensureDir p]) := by
  obtain ⟨a, result⟩ := x
  obtain ⟨s, result'⟩ := y
  obtain rfl : result' = result := h.result
  cases result' with
  | error fault => exact .failed h.agree
  | ok done =>
      subst hbase
      exact h.agree.ensureDir hp hway htext (h.short rfl) (h.there rfl) hloose

/-- **The directories on the way to a place are made with the same result**, whatever others have
made of them before. -/
theorem Agree.makeDirs (h : Agree start names a s) {n : Nat} (hp : p.Descends front)
    (hbase : p.base a.cwd = start) (hway : front <+: names)
    (hloose : front ≠ [] → front ≠ names → p.isLoose = false) (hn : front.length ≤ n) :
    MadeAlike start names front (a.makeDirs (p.ancestorsUpTo n))
      (s.makeDirs (p.ancestorsUpTo n)) := by
  induction front using List.reverseRecOn generalizing p n with
  | nil =>
      obtain ⟨above, hrow⟩ := exists_ancestorsUpTo n p
      obtain ⟨result, hresult⟩ := exists_makeDirs_nil hp above
      have hthere : a.node? (start ++ []) = some .directory := by
        rw [List.append_nil]
        exact h.base
      have hthere' := h.directory hway hthere
      rw [List.append_nil, ← hbase] at hthere'
      rw [hrow, hresult a (hbase ▸ h.base), hresult s (by rw [h.cwd]; exact hthere')]
      exact ⟨rfl, h, fun _ _ hname => by contradiction, fun _ => hthere⟩
  | append_singleton front name ih =>
      obtain ⟨dir, hparent, habove⟩ := hp.exists_parent
      have hwritten := ne_nil_of_descends hp (by simp)
      have hbefore : front <+: names := (List.prefix_append _ _).trans hway
      have hne : front ≠ names := by
        rintro rfl
        have hlength := hway.length_le
        rw [List.length_append, List.length_singleton] at hlength
        omega
      rw [List.length_append, List.length_singleton] at hn
      obtain ⟨m, rfl⟩ : ∃ m, n = m + 1 := ⟨n - 1, by omega⟩
      have hrow : p.ancestorsUpTo (m + 1) = p :: dir.ancestorsUpTo m := by
        rw [Path.ancestorsUpTo, hparent]
      rw [hrow]
      cases htext : refused? (withoutSlashes p) with
      | some fault =>
          rw [makeDirs_refused hwritten hparent htext, makeDirs_refused hwritten hparent htext]
          exact .failed h
      | none =>
          by_cases hfile : Short front ∧ ∃ content runnable,
              a.node? (start ++ front) = some (.file content runnable)
          · obtain ⟨hshort, content, runnable, hnode⟩ := hfile
            have hnode' := (h.file_iff hbefore).mpr hnode
            rw [makeDirs_file hp hparent htext h.tree hshort (hbase ▸ hnode),
              makeDirs_file hp hparent htext h.treeShared hshort (by rw [h.cwd, hbase, hnode'])]
            exact .failed h
          · have hfree : Short front → ∀ content runnable,
                a.node? (start ++ front) ≠ some (.file content runnable) :=
              fun hshort content runnable hnode => hfile ⟨hshort, content, runnable, hnode⟩
            have hmade := ih (n := m) habove.descends
              ((Path.base_congr habove.isAbsolute _).trans hbase) hbefore
              (fun hnil _ => habove.isTight hnil) (by omega)
            rw [makeDirs_above hp hparent habove htext (by rw [hbase]; exact hfree),
              makeDirs_above hp hparent habove htext (by
                rw [h.cwd, hbase]
                exact fun hshort content runnable hnode =>
                  hfree hshort content runnable ((h.file_iff hbefore).mp hnode))]
            have hcwd := (extends_makeDirs h.tree (dir.ancestorsUpTo m)).1.cwd
            exact hmade.ensureDir hp (by rw [hcwd, hbase]) hway (hloose (by simp)) htext

end ScriptDeps.Store
