/-
Native libraries are loaded once, and loading goes on where it stopped.

`Adds` says what a call does to the libraries as far as it gets: those that were not loaded are
put behind the others, each once and in their order.  A call gets to the end of its set, or to
the first library that is neither loaded nor loads.  Either way it leaves no path twice, and
later calls pass over what it loaded, so that they begin where it stopped.
-/
import ScriptDeps.NativeLibraries
import ScriptDeps.Proofs.Manifest.Members

namespace ScriptDeps.NativeLibraries

variable {loads : Path → Bool} {system : System} {n after later : NativeLibraries}
  {paths before rest new : List Path} {p : Path}

/-! ### What is loaded -/

theorem isLoaded_iff : n.isLoaded p = true ↔ p.components ∈ n.loaded.map Path.components := by
  rw [isLoaded, List.any_eq_true, List.mem_map]
  exact exists_congr fun q => and_congr_right fun _ => Path.compares_same q p

theorem isLoaded_eq_false_iff :
    n.isLoaded p = false ↔ p.components ∉ n.loaded.map Path.components := by
  rw [← isLoaded_iff, Bool.not_eq_true]

/-- What is loaded stays so. -/
theorem isLoaded_of_prefix (h : n.loaded <+: later.loaded) (hp : n.isLoaded p = true) :
    later.isLoaded p = true :=
  isLoaded_iff.mpr ((h.map _).subset (isLoaded_iff.mp hp))

/-- Loading puts these behind what is loaded: the paths that were not loaded, each once and in
the order in which they first stand. -/
structure Adds (loads : Path → Bool) (n : NativeLibraries) (paths new : List Path)
    (after : NativeLibraries) : Prop where
  eq : after = { n with loaded := n.loaded ++ new }
  inOrder : n.loaded ++ new = insertAll Path.same n.loaded paths
  notLoaded : ∀ p ∈ new, p ∈ paths ∧ n.isLoaded p = false
  loads : ∀ p ∈ new, loads p = true
  /-- None of the paths is left out. -/
  isLoaded : ∀ p ∈ paths, after.isLoaded p = true

theorem adds_of_inOrder (h : n.loaded ++ new = insertAll Path.same n.loaded paths)
    (hloads : ∀ p ∈ new, loads p = true) :
    n.Adds loads paths new { n with loaded := n.loaded ++ new } where
  eq := rfl
  inOrder := h
  notLoaded p hp := by
    obtain ⟨others, heq, hothers, -⟩ :=
      exists_insertAll_eq_append Path.compares_same n.loaded paths
    rw [List.append_cancel_left (h.trans heq)] at hp
    exact ⟨(hothers p hp).1, isLoaded_eq_false_iff.mpr (hothers p hp).2⟩
  loads := hloads
  isLoaded p hp := by
    rw [isLoaded_iff, h, mem_keys_insertAll Path.compares_same]
    exact .inr (List.mem_map_of_mem hp)

theorem adds_nil (loads : Path → Bool) (n : NativeLibraries) : n.Adds loads [] [] n := by
  have hadds : n.Adds loads [] [] { n with loaded := n.loaded ++ [] } :=
    adds_of_inOrder (List.append_nil _) (by simp)
  simpa using hadds

/-- A path that is loaded is passed over. -/
theorem Adds.cons_loaded (h : n.Adds loads paths new after) (hp : n.isLoaded p = true) :
    n.Adds loads (p :: paths) new after := by
  rw [h.eq]
  refine adds_of_inOrder ?_ h.loads
  rw [insertAll_cons, insertNew_of_mem Path.compares_same (isLoaded_iff.mp hp)]
  exact h.inOrder

/-- A path that is not loaded is put at the end, and the others behind it. -/
theorem Adds.cons_new (h : { n with loaded := n.loaded ++ [p] }.Adds loads paths new after)
    (hp : n.isLoaded p = false) (hloads : loads p = true) :
    n.Adds loads (p :: paths) (p :: new) after := by
  have hinOrder : n.loaded ++ p :: new = insertAll Path.same n.loaded (p :: paths) := by
    rw [insertAll_cons, insertNew_of_not_mem Path.compares_same (isLoaded_eq_false_iff.mp hp),
      ← h.inOrder, List.append_assoc, List.singleton_append]
  have heq : after = { n with loaded := n.loaded ++ p :: new } := by
    rw [h.eq, List.append_assoc, List.singleton_append]
  rw [heq]
  exact adds_of_inOrder hinOrder (List.forall_mem_cons.mpr ⟨hloads, h.loads⟩)

theorem Adds.grows (h : n.Adds loads paths new after) : n.loaded <+: after.loaded :=
  ⟨new, by rw [h.eq]⟩

/-! ### One call -/

/-- A call stopped at a path, behind these. -/
structure StoppedAt (loads : Path → Bool) (n : NativeLibraries) (before : List Path) (p : Path)
    (after : NativeLibraries) : Prop where
  adds : ∃ new, n.Adds loads before new after
  notLoaded : after.isLoaded p = false
  fails : loads p = false

/-- A call gets to the end of its paths, or to the first that is not loaded and does not load. -/
inductive Went (loads : Path → Bool) (n : NativeLibraries) (paths : List Path) :
    NativeLibraries × Except Failure Nat → Prop
  | through {new : List Path} {after : NativeLibraries} (adds : n.Adds loads paths new after) :
      Went loads n paths (after, .ok new.length)
  | upTo {before rest : List Path} {p : Path} {after : NativeLibraries}
      (split : paths = before ++ p :: rest) (stopped : StoppedAt loads n before p after) :
      Went loads n paths (after, .error (.nativeLoad p))

theorem Went.cons_loaded {result : NativeLibraries × Except Failure Nat}
    (h : Went loads n paths result) (hp : n.isLoaded p = true) :
    Went loads n (p :: paths) result := by
  cases h with
  | through adds => exact .through (adds.cons_loaded hp)
  | upTo split stopped =>
      obtain ⟨new, adds⟩ := stopped.adds
      exact .upTo (congrArg _ split) { stopped with adds := ⟨new, adds.cons_loaded hp⟩ }

theorem Went.cons_new {count : Except Failure Nat}
    (h : Went loads { n with loaded := n.loaded ++ [p] } paths (after, count))
    (hp : n.isLoaded p = false) (hloads : loads p = true) :
    Went loads n (p :: paths) (after, count.map (· + 1)) := by
  cases h with
  | through adds => exact .through (adds.cons_new hp hloads)
  | upTo split stopped =>
      obtain ⟨new, adds⟩ := stopped.adds
      exact .upTo (congrArg _ split) { stopped with adds := ⟨p :: new, adds.cons_new hp hloads⟩ }

theorem went_loadPaths (loads : Path → Bool) (n : NativeLibraries) (paths : List Path) :
    Went loads n paths (n.loadPaths loads paths) := by
  induction paths generalizing n with
  | nil => exact .through (adds_nil loads n)
  | cons p paths ih =>
      rw [loadPaths]
      split
      · rename_i hp
        exact (ih n).cons_loaded hp
      · rename_i hp
        rw [Bool.not_eq_true] at hp
        split
        · rename_i hloads
          exact (ih _).cons_new hp hloads
        · rename_i hfails
          exact .upTo (List.nil_append _).symm
            ⟨⟨[], adds_nil loads n⟩, hp, by simpa using hfails⟩

/-- As far as it gets, a call adds what was not loaded. -/
theorem Went.adds {result : NativeLibraries × Except Failure Nat} (h : Went loads n paths result) :
    ∃ reached new, n.Adds loads reached new result.1 := by
  cases h with
  | through adds => exact ⟨_, _, adds⟩
  | upTo split stopped => exact ⟨_, stopped.adds⟩

theorem load_cases (loads : Path → Bool) (n : NativeLibraries) (r : Resolved) :
    n.system.loadsNative = false ∧ n.load loads r = (n, .ok 0) ∨
    n.system.loadsNative = true ∧ Went loads n r.native (n.load loads r) := by
  unfold load
  split
  · rename_i h
    exact .inr ⟨h, went_loadPaths loads n r.native⟩
  · rename_i h
    exact .inl ⟨by simpa using h, rfl⟩

/-- Paths that are loaded are passed over, so that loading begins behind them. -/
theorem loadPaths_append (loads : Path → Bool) (h : ∀ q ∈ before, n.isLoaded q = true)
    (rest : List Path) : n.loadPaths loads (before ++ rest) = n.loadPaths loads rest := by
  induction before with
  | nil => rfl
  | cons q before ih =>
      rw [List.forall_mem_cons] at h
      rw [List.cons_append, loadPaths, if_pos h.1]
      exact ih h.2

/-- A call that stopped is taken up there by every later one. -/
theorem StoppedAt.resumes (h : StoppedAt loads n before p after)
    (hlater : after.loaded <+: later.loaded) (loads' : Path → Bool) {r : Resolved}
    (hr : r.native = before ++ p :: rest) :
    later.load loads' r = later.load loads' { r with native := p :: rest } := by
  obtain ⟨new, adds⟩ := h.adds
  have hbefore : ∀ q ∈ before, later.isLoaded q = true :=
    fun q hq => isLoaded_of_prefix hlater (adds.isLoaded q hq)
  simp only [load, hr, loadPaths_append loads' hbefore]

/-! ### One call after another -/

/-- The libraries after calls for several resolutions, whether these get to the end or not. -/
def loadAll (loads : Path → Bool) (n : NativeLibraries) (calls : List Resolved) :
    NativeLibraries :=
  calls.foldl (fun n r => (n.load loads r).1) n

/-- What calls keep: no path is loaded twice, and all that is loaded loads. -/
structure Sound (loads : Path → Bool) (system : System) (n : NativeLibraries) : Prop where
  system_eq : n.system = system
  nodup : (n.loaded.map Path.components).Nodup
  loads : ∀ q ∈ n.loaded, loads q = true

theorem sound_none (loads : Path → Bool) (system : System) : Sound loads system (none system) :=
  ⟨rfl, List.nodup_nil, by simp [none]⟩

/-- A call loads more, and only what loads. -/
theorem Sound.load (h : Sound loads system n) (r : Resolved) :
    n.loaded <+: (n.load loads r).1.loaded ∧ Sound loads system (n.load loads r).1 := by
  rcases load_cases loads n r with ⟨-, heq⟩ | ⟨-, hwent⟩
  · rw [heq]
    exact ⟨List.prefix_rfl, h⟩
  · obtain ⟨reached, new, adds⟩ := hwent.adds
    refine ⟨adds.grows, ?_, ?_, ?_⟩
    · rw [adds.eq]
      exact h.system_eq
    · rw [adds.eq, adds.inOrder]
      exact nodup_insertAll Path.compares_same h.nodup reached
    · rw [adds.eq]
      exact fun q hq => (List.mem_append.mp hq).elim (h.loads q) (adds.loads q)

theorem Sound.loadAll (h : Sound loads system n) (calls : List Resolved) :
    n.loaded <+: (n.loadAll loads calls).loaded ∧ Sound loads system (n.loadAll loads calls) := by
  induction calls generalizing n with
  | nil => exact ⟨List.prefix_rfl, h⟩
  | cons r calls ih =>
      obtain ⟨hgrows, hsound⟩ := h.load r
      obtain ⟨hmore, hsound⟩ := ih hsound
      exact ⟨hgrows.trans hmore, hsound⟩

/-- If equal paths load alike, a path that is loaded loads. -/
theorem Sound.loads_of_isLoaded (h : Sound loads system n)
    (hsame : ∀ a b : Path, a.same b = true → loads a = loads b) (hp : n.isLoaded p = true) :
    loads p = true := by
  obtain ⟨q, hq, hqp⟩ := List.any_eq_true.mp hp
  rw [← hsame q p hqp]
  exact h.loads q hq

/-- **Loading goes on where it stopped, and loads nothing twice.** -/
theorem load_incremental (loads : Path → Bool) (system : System) (calls : List Resolved)
    (r : Resolved) :
    let n := (none system).loadAll loads calls
    let after := (n.load loads r).1
    (n.loaded.map Path.components).Nodup ∧
    (∀ more : List Resolved, n.loaded <+: (n.loadAll loads more).loaded) ∧
    (system.loadsNative = false → n.load loads r = (n, .ok 0)) ∧
    (system.loadsNative = true → Went loads n r.native (n.load loads r)) ∧
    ∀ before p rest, r.native = before ++ p :: rest → StoppedAt loads n before p after →
      ((∀ a b : Path, a.same b = true → loads a = loads b) → ∀ q ∈ before, loads q = true) ∧
      ∀ later : NativeLibraries, after.loaded <+: later.loaded → ∀ loads' : Path → Bool,
        later.load loads' r = later.load loads' { r with native := p :: rest } := by
  intro n after
  have hn : Sound loads system n := ((sound_none loads system).loadAll calls).2
  have hafter : Sound loads system after := (hn.load r).2
  refine ⟨hn.nodup, fun more => (hn.loadAll more).1, fun hnone => ?_, fun hsome => ?_,
    fun before p rest hr hstopped => ⟨fun hsame q hq => ?_, fun later hlater loads' => ?_⟩⟩
  · rcases load_cases loads n r with ⟨-, heq⟩ | ⟨hsome, -⟩
    · exact heq
    · simp [hn.system_eq, hnone] at hsome
  · rcases load_cases loads n r with ⟨hnone, -⟩ | ⟨-, hwent⟩
    · simp [hn.system_eq, hsome] at hnone
    · exact hwent
  · obtain ⟨new, adds⟩ := hstopped.adds
    exact hafter.loads_of_isLoaded hsame (adds.isLoaded q hq)
  · exact hstopped.resumes hlater loads' hr

-- a library that is missing stops the first call, and the next loads it and what is behind it
example :
    let r : Resolved := { Resolved.empty with native := [⟨"/n/a.so"⟩, ⟨"/n/b.so"⟩, ⟨"/n/c.so"⟩] }
    let stopped := (none .linux).load (fun p => !p.same ⟨"/n/b.so"⟩) r
    stopped = (⟨.linux, [⟨"/n/a.so"⟩]⟩, .error (.nativeLoad ⟨"/n/b.so"⟩)) ∧
      stopped.1.load (fun _ => true) r =
        (⟨.linux, [⟨"/n/a.so"⟩, ⟨"/n/b.so"⟩, ⟨"/n/c.so"⟩]⟩, .ok 2) := by
  decide +kernel

end ScriptDeps.NativeLibraries
