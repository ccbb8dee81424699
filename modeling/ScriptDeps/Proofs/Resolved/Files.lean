/-
The files of the packages that were chosen.

Native libraries and scripts come package by package.  Of the native libraries each path is kept
once, where it was first mentioned.  Scripts are kept as they come: none is left out and none
comes from elsewhere, but a path that is contributed twice is there twice.

Assemblies are looked into for their versions, first those to compile against and then those to
run with.  `Reads` says what a program with a log does there: it reads the paths that the log has
nothing of, each once, and what it finds hangs on the answers for its paths alone.  One program
after another does so too, hence the whole resolution.  It does not matter what the reader is; it
may have effects, and may say something else each time it is asked.
-/
import ScriptDeps.Context
import ScriptDeps.Proofs.Manifest.Members
import ScriptDeps.Proofs.Resolved
import ScriptDeps.Proofs.Store.Tree

namespace ScriptDeps

/-! ### Paths that packages contribute -/

namespace Resolved

variable {context : List Dependency} {look : Path → Option String}
  {filesOf : Dependency → List Path}

/-- The paths that the chosen packages contribute, package by package. -/
def contributed (filesOf : Dependency → List Path) (context : List Dependency) : List Path :=
  (choosePackages context).flatMap filesOf

/-- No package contributes a path twice, and no two packages contribute the same path. -/
structure WithoutOverlap (filesOf : Dependency → List Path) (packages : List Dependency) :
    Prop where
  within : ∀ d ∈ packages, (filesOf d).Pairwise fun p q => p.same q = false
  between : packages.Pairwise fun d e => ∀ p ∈ filesOf d, ∀ q ∈ filesOf e, p.same q = false

theorem pairwise_contributed_iff :
    (contributed filesOf context).Pairwise (fun p q => p.same q = false) ↔
      WithoutOverlap filesOf (choosePackages context) :=
  List.pairwise_flatMap.trans ⟨fun h => ⟨h.1, h.2⟩, fun h => ⟨h.within, h.between⟩⟩

theorem native_ofContext :
    (ofContext context look).native =
      insertAll Path.same [] (contributed Dependency.native context) := rfl

theorem scripts_ofContext :
    (ofContext context look).scripts = contributed Dependency.scripts context := rfl

/-- **Native libraries are listed once, and scripts exactly if the packages do not overlap in
them.**  Otherwise the scripts are still all that the packages contribute, in their order. -/
theorem ofContext_listsFirst_iff (context : List Dependency) (look : Path → Option String) :
    Chosen Dependency.name Dependency.version context (choosePackages context) ∧
    ListsFirst Path.same (contributed Dependency.native context)
      (ofContext context look).native ∧
    (ofContext context look).scripts = contributed Dependency.scripts context ∧
    (ListsFirst Path.same (contributed Dependency.scripts context)
        (ofContext context look).scripts ↔
      WithoutOverlap Dependency.scripts (choosePackages context)) := by
  refine ⟨chosen_highestOfEach context, ?_, scripts_ofContext, ?_⟩
  · rw [native_ofContext]
    exact listsFirst_insertAll Path.compares_same _
  · rw [scripts_ofContext, listsFirst_self_iff Path.compares_same, pairwise_contributed_iff]

/-- A lock artifact with a package that lists its only file twice. -/
def listedTwiceText : String :=
  "\x7b\"targets\":\x7b\"net8.0/linux-x64\":\x7b\"A/1\":\x7b\"type\":\"package\"\x7d\x7d\x7d," ++
  "\"libraries\":\x7b\"A/1\":\x7b\"path\":\"a\",\"files\":[\"contentFiles/csx/any/m.csx\"," ++
  "\"contentFiles/csx/any/m.csx\"]\x7d\x7d,\"packageFolders\":\x7b\"/p\":0\x7d\x7d"

/-- The text and the file. -/
def listedTwiceStore : Store :=
  ⟨[(["lock"], .file listedTwiceText.toUTF8 false), (["p"], .directory),
    (["p", "a"], .directory), (["p", "a", "contentFiles"], .directory),
    (["p", "a", "contentFiles", "csx"], .directory),
    (["p", "a", "contentFiles", "csx", "any"], .directory),
    (["p", "a", "contentFiles", "csx", "any", "m.csx"], .file .empty false)], [], []⟩

def listedTwiceLock : LockArtifact :=
  ⟨0, [("net8.0/linux-x64", [("A/1", ⟨"package", [], [], [], [], [], []⟩)])],
    [("A/1", ⟨"", some "a", ["contentFiles/csx/any/m.csx", "contentFiles/csx/any/m.csx"]⟩)],
    ["/p"]⟩

theorem read_listedTwiceLock :
    LockArtifact.read listedTwiceStore ⟨"/lock"⟩ = .ok listedTwiceLock := by
  have hparse : (Json.parse? listedTwiceText).bind LockArtifact.ofJson? = some listedTwiceLock := by
    -- the characters come first, since to read them off the bytes takes far longer than the rest
    unfold listedTwiceText
    rw [Json.parse?, String.toList_append, String.toList_append, String.toList_ofList,
      String.toList_ofList, String.toList_ofList]
    decide +kernel
  have hread : listedTwiceStore.read ⟨"/lock"⟩ = .ok listedTwiceText.toUTF8 := rfl
  rw [LockArtifact.read, Store.readText_of_read hread]
  simp only [hparse]

/-- The package as it is read. -/
def listedTwice : List Dependency :=
  [⟨"A", "1", [], [], [],
    [⟨"/p/a/contentFiles/csx/any/m.csx"⟩, ⟨"/p/a/contentFiles/csx/any/m.csx"⟩]⟩]

/-- A package that lists a script twice has it twice in the resolution. -/
theorem not_listsFirst_listedTwice :
    Context.read listedTwiceStore "linux-x64" ⟨"/lock"⟩ = .ok listedTwice ∧
    ¬ ListsFirst Path.same (contributed Dependency.scripts listedTwice)
      (ofContext listedTwice fun _ => none).scripts := by
  have hread : Context.read listedTwiceStore "linux-x64" ⟨"/lock"⟩ = .ok listedTwice := by
    rw [Context.read, read_listedTwiceLock]
    decide +kernel
  refine ⟨hread, fun h => ?_⟩
  have hdistinct : ¬ (ofContext listedTwice fun _ => none).scripts.Pairwise
      fun p q => p.same q = false := by decide +kernel
  exact hdistinct h.once

end Resolved

namespace VersionLog

/-! ### Readers with effects -/

/-- What the log says of a file. -/
def told (log : VersionLog) (p : Path) : Option String :=
  (log.find? (·.1.same p)).bind Prod.snd

/-- The files that the log has something of. -/
def files (log : VersionLog) : List Path :=
  log.map Prod.fst

section

variable {m : Type → Type} [Monad m] (read : Path → m (Option String))

/-- Reads files, one after the other. -/
def readAll (paths : List Path) : m VersionLog :=
  paths.mapM fun p => do return (p, ← read p)

/-- `consult` with a reader that may have effects and say something else each time. -/
def consultM (p : Path) (log : VersionLog) : m (Option String × VersionLog) :=
  match log.find? (·.1.same p) with
  | some entry => pure (entry.2, log)
  | none => do
    let version ← read p
    pure (version, log ++ [(p, version)])

/-- `candidates` with such a reader. -/
def candidatesM (packageVersion : String) :
    List Path → VersionLog → m (List Assembly × VersionLog)
  | [], log => pure ([], log)
  | p :: rest, log =>
    match p.fileStem? with
    | none => candidatesM packageVersion rest log
    | some name => do
      let (version, log) ← consultM read p log
      let (more, log) ← candidatesM packageVersion rest log
      pure (⟨name, version.getD packageVersion, p⟩ :: more, log)

/-- `allCandidates` with such a reader. -/
def allCandidatesM (filesOf : Dependency → List Path) :
    List Dependency → VersionLog → m (List Assembly × VersionLog)
  | [], log => pure ([], log)
  | d :: rest, log => do
    let (here, log) ← candidatesM read d.version (filesOf d) log
    let (more, log) ← allCandidatesM filesOf rest log
    pure (here ++ more, log)

end

/-! ### Files that are read once -/

section

variable {m : Type → Type} [Monad m] [LawfulMonad m] {read : Path → m (Option String)}
  {α β γ : Type}

omit [LawfulMonad m] in
theorem readAll_nil : readAll read [] = pure [] := rfl

theorem readAll_cons (p : Path) (paths : List Path) :
    readAll read (p :: paths) = (do
      let version ← read p
      let entries ← readAll read paths
      pure ((p, version) :: entries)) := by
  simp [readAll]

theorem readAll_append (xs ys : List Path) :
    readAll read (xs ++ ys) = (do
      let front ← readAll read xs
      let back ← readAll read ys
      pure (front ++ back)) := by
  simp [readAll]

/-- After files are read, the log has entries of just these files. -/
theorem readAll_bind_congr {paths : List Path} {f g : VersionLog → m α}
    (h : ∀ entries : VersionLog, entries.files = paths → f entries = g entries) :
    readAll read paths >>= f = readAll read paths >>= g := by
  induction paths generalizing f g with
  | nil =>
      rw [readAll_nil, pure_bind, pure_bind]
      exact h [] rfl
  | cons p paths ih =>
      simp only [readAll_cons, bind_assoc, pure_bind]
      refine bind_congr fun version => ih fun entries hentries => h _ ?_
      rw [files, List.map_cons, ← hentries]
      rfl

/-- The log has something of the files that it has an entry of. -/
theorem isSome_find?_iff {log : VersionLog} {p : Path} :
    (log.find? (·.1.same p)).isSome = true ↔
      p.components ∈ log.files.map Path.components := by
  rw [List.find?_isSome, files, List.map_map, List.mem_map]
  exact exists_congr fun entry => and_congr_right fun _ => Path.compares_same _ _

theorem told_append_of_mem {log : VersionLog} {p : Path}
    (hp : p.components ∈ log.files.map Path.components) (more : VersionLog) :
    told (log ++ more) p = told log p := by
  rw [told, told, List.find?_append, Option.or_of_isSome (isSome_find?_iff.mpr hp)]

/-- The program reads those of the paths that the log has nothing of, each once and in order, and
gives what comes of the answers for the paths. -/
structure Reads (read : Path → m (Option String)) (paths : List Path)
    (found : (Path → Option String) → β) (prog : VersionLog → m (β × VersionLog)) : Prop where
  runs : ∀ log new, insertAll Path.same log.files paths = log.files ++ new →
    prog log = do
      let entries ← readAll read new
      pure (found (told (log ++ entries)), log ++ entries)
  depends : ∀ f g : Path → Option String, (∀ p ∈ paths, f p = g p) → found f = found g

theorem reads_pure (b : β) : Reads read [] (fun _ => b) fun log => pure (b, log) where
  runs log new hnew := by
    have hnil : new = [] := by simpa using hnew
    rw [hnil, readAll_nil, pure_bind, List.append_nil]
  depends _ _ _ := rfl

theorem reads_consultM (p : Path) : Reads read [p] (fun look => look p) (consultM read p) where
  runs log new hnew := by
    rw [insertAll_cons, insertAll_nil] at hnew
    unfold consultM
    split
    · rename_i entry hentry
      have hmem : p.components ∈ log.files.map Path.components :=
        isSome_find?_iff.mp (by rw [hentry]; rfl)
      rw [insertNew_of_mem Path.compares_same hmem] at hnew
      have hnil : new = [] := by simpa using hnew
      rw [hnil, readAll_nil, pure_bind, List.append_nil, told, hentry]
      rfl
    · rename_i hnone
      have hmem : p.components ∉ log.files.map Path.components := by
        rw [← isSome_find?_iff, hnone]
        simp
      rw [insertNew_of_not_mem Path.compares_same hmem] at hnew
      rw [← List.append_cancel_left hnew]
      simp only [readAll_cons, readAll_nil, bind_assoc, pure_bind]
      refine bind_congr fun version => ?_
      rw [told, List.find?_append, hnone]
      simp [Path.same]
  depends _ _ h := h p List.mem_cons_self

/-- One program after the other reads the paths of both. -/
theorem Reads.bind {paths others : List Path} {found : (Path → Option String) → α}
    {found' : (Path → Option String) → β} {prog : VersionLog → m (α × VersionLog)}
    {prog' : VersionLog → m (β × VersionLog)} (h : Reads read paths found prog)
    (h' : Reads read others found' prog') (combine : α → β → γ) :
    Reads read (paths ++ others) (fun look => combine (found look) (found' look)) fun log => do
      let (a, log) ← prog log
      let (b, log) ← prog' log
      pure (combine a b, log) where
  runs log new hnew := by
    obtain ⟨front, hfront, -⟩ := exists_insertAll_eq_append Path.compares_same log.files paths
    rw [insertAll_append, hfront] at hnew
    obtain ⟨back, hback, -⟩ :=
      exists_insertAll_eq_append Path.compares_same (log.files ++ front) others
    rw [hback, List.append_assoc] at hnew
    rw [← List.append_cancel_left hnew, readAll_append, h.runs log front hfront]
    simp only [bind_assoc, pure_bind]
    refine readAll_bind_congr fun entries hentries => ?_
    have hfiles : files (log ++ entries) = log.files ++ front := by
      rw [files, List.map_append, ← hentries]
      rfl
    rw [h'.runs (log ++ entries) back (by rw [hfiles, hback])]
    simp only [bind_assoc, pure_bind]
    refine bind_congr fun more => ?_
    -- what the first program found is not changed by what is read after it
    have hfound : found (told (log ++ entries)) = found (told (log ++ entries ++ more)) := by
      refine h.depends _ _ fun p hp => (told_append_of_mem ?_ more).symm
      rw [hfiles, ← hfront, mem_keys_insertAll Path.compares_same]
      exact .inr (List.mem_map_of_mem hp)
    rw [hfound, List.append_assoc]
  depends f g hfg := by
    rw [h.depends f g fun p hp => hfg p (List.mem_append_left _ hp),
      h'.depends f g fun p hp => hfg p (List.mem_append_right _ hp)]

/-- The paths that have a name. -/
def named (paths : List Path) : List Path :=
  paths.filter fun p => p.fileStem?.isSome

theorem reads_candidatesM (d : Dependency) (paths : List Path) :
    Reads read (named paths) (fun look => paths.filterMap (Assembly.ofFile? look d))
      (candidatesM read d.version paths) := by
  induction paths with
  | nil => exact reads_pure []
  | cons p paths ih =>
      cases hstem : p.fileStem? with
      | none =>
          have hprog : candidatesM read d.version (p :: paths) =
              candidatesM read d.version paths := by
            funext log
            rw [candidatesM, hstem]
          simp only [hprog, List.filterMap_cons_none (Assembly.ofFile?_of_unnamed hstem), named,
            List.filter_cons, hstem, Option.isSome_none, Bool.false_eq_true, if_false]
          exact ih
      | some name =>
          have hprog : candidatesM read d.version (p :: paths) = (fun log => do
              let (version, log) ← consultM read p log
              let (more, log) ← candidatesM read d.version paths log
              pure (⟨name, version.getD d.version, p⟩ :: more, log)) := by
            funext log
            rw [candidatesM, hstem]
          simp only [hprog, List.filterMap_cons_some (Assembly.ofFile?_of_named hstem), named,
            List.filter_cons, hstem, Option.isSome_some, if_true]
          exact (reads_consultM p).bind ih fun version more =>
            ⟨name, version.getD d.version, p⟩ :: more

theorem reads_allCandidatesM (filesOf : Dependency → List Path) (packages : List Dependency) :
    Reads read (named (packages.flatMap filesOf))
      (fun look => Assembly.ofFiles look filesOf packages)
      (allCandidatesM read filesOf packages) := by
  induction packages with
  | nil => exact reads_pure []
  | cons d packages ih =>
      rw [List.flatMap_cons, named, List.filter_append]
      exact (reads_candidatesM d (filesOf d)).bind ih (· ++ ·)

end

/-! ### Readers without effects -/

section

variable (look : Path → Option String)

theorem consultM_pure (p : Path) (log : VersionLog) :
    consultM (m := Id) (fun q => pure (look q)) p log = pure (log.consult look p) := by
  unfold consultM consult
  cases log.find? (·.1.same p) with
  | some entry => rfl
  | none => rfl

theorem candidatesM_pure (packageVersion : String) (paths : List Path) (log : VersionLog) :
    candidatesM (m := Id) (fun q => pure (look q)) packageVersion paths log =
      pure (candidates look packageVersion paths log) := by
  induction paths generalizing log with
  | nil => rfl
  | cons p paths ih =>
      rw [candidatesM, candidates]
      cases p.fileStem? with
      | none => exact ih log
      | some name => simp only [consultM_pure, pure_bind, ih]

theorem allCandidatesM_pure (filesOf : Dependency → List Path) (packages : List Dependency)
    (log : VersionLog) :
    allCandidatesM (m := Id) (fun q => pure (look q)) filesOf packages log =
      pure (allCandidates look filesOf packages log) := by
  induction packages generalizing log with
  | nil => rfl
  | cons d packages ih =>
      rw [allCandidatesM, allCandidates]
      simp only [candidatesM_pure, pure_bind, ih]

end

theorem told_of_same (log : VersionLog) (p q : Path) (h : p.same q = true) :
    log.told p = log.told q := by
  have hclass : (fun entry : Path × Option String => entry.1.same p) = (·.1.same q) := by
    funext entry
    rw [Bool.eq_iff_iff, Path.compares_same, Path.compares_same, (Path.compares_same p q).mp h]
  rw [told, told, hclass]

/-- A log with one entry for each class of paths tells of a path what its entry says. -/
theorem exists_told {listed paths : List Path} (hlisted : ListsFirst Path.same paths listed)
    {log : VersionLog} (hlog : log.files = listed) {p : Path} (hp : p ∈ paths) :
    ∃ entry ∈ log, log.told p = entry.2 ∧
      ∀ other ∈ log, other.1.same p = true ↔ other = entry := by
  obtain ⟨q, hq, hpq⟩ := hlisted.covers p hp
  rw [← hlog] at hq
  have hmem : p.components ∈ log.files.map Path.components :=
    List.mem_map.mpr ⟨q, hq, ((Path.compares_same p q).mp hpq).symm⟩
  obtain ⟨entry, hentry⟩ := Option.isSome_iff_exists.mp (isSome_find?_iff.mpr hmem)
  have hsame : entry.1.same p = true := by simpa using List.find?_some hentry
  have hin : entry ∈ log := List.mem_of_find?_eq_some hentry
  -- no two entries are of one path
  have hnodup : (log.map fun e => e.1.components).Nodup := by
    have hkeys := (nodup_keys_iff Path.compares_same).mpr hlisted.once
    rw [← hlog, files, List.map_map] at hkeys
    exact hkeys
  refine ⟨entry, hin, by rw [told, hentry]; rfl, fun other hother => ⟨fun h => ?_, ?_⟩⟩
  · refine List.inj_on_of_nodup_map hnodup hother hin ?_
    rw [(Path.compares_same _ _).mp h, (Path.compares_same _ _).mp hsame]
  · rintro rfl
    exact hsame

end VersionLog

namespace Resolved

open VersionLog

/-- The resolution that comes of the candidates. -/
def ofCandidates (packages : List Dependency) (compile runtime : List Assembly) : Resolved :=
  let chosen := Assembly.choose runtime
  { compile := Assembly.choose compile
    runtime := chosen
    native := insertAll Path.same [] (packages.flatMap Dependency.native)
    scripts := packages.flatMap Dependency.scripts
    places := Assembly.placesOf chosen }

/-- The resolution where each candidate has the version that the log tells of its file, or else
that of its package. -/
def ofLog (context : List Dependency) (log : VersionLog) : Resolved :=
  let packages := choosePackages context
  ofCandidates packages (Assembly.ofFiles log.told Dependency.compile packages)
    (Assembly.ofFiles log.told Dependency.runtime packages)

/-- `ofContextLogged` with a reader that may have effects and say something else each time. -/
def ofContextM {m : Type → Type} [Monad m] (context : List Dependency)
    (read : Path → m (Option String)) : m (Resolved × VersionLog) := do
  let packages := choosePackages context
  let (compile, log) ← allCandidatesM read Dependency.compile packages []
  let (runtime, log) ← allCandidatesM read Dependency.runtime packages log
  pure (ofCandidates packages compile runtime, log)

theorem ofContextM_pure (context : List Dependency) (look : Path → Option String) :
    ofContextM (m := Id) context (fun p => pure (look p)) =
      pure (ofContextLogged context look) := by
  rw [ofContextM, ofContextLogged]
  simp only [allCandidatesM_pure, pure_bind]
  rfl

/-- The assemblies that the chosen packages bring, those to compile against before those to run
with. -/
def assemblyFiles (context : List Dependency) : List Path :=
  named (contributed Dependency.compile context ++ contributed Dependency.runtime context)

theorem ofContextM_eq {m : Type → Type} [Monad m] [LawfulMonad m] (context : List Dependency)
    (read : Path → m (Option String)) :
    ofContextM context read = (do
      let log ← readAll read (insertAll Path.same [] (assemblyFiles context))
      pure (ofLog context log, log)) := by
  let packages := choosePackages context
  have hcompile : Reads read _ _ (allCandidatesM read Dependency.compile packages) :=
    reads_allCandidatesM Dependency.compile packages
  have hboth := hcompile.bind (reads_allCandidatesM Dependency.runtime packages)
    (ofCandidates packages)
  have hfiles : named (packages.flatMap Dependency.compile) ++
      named (packages.flatMap Dependency.runtime) = assemblyFiles context :=
    (List.filter_append _ _).symm
  rw [hfiles] at hboth
  exact hboth.runs [] _ rfl

/-- Without effects the log says what the reader says. -/
theorem ofContextLogged_eq (context : List Dependency) (look : Path → Option String) :
    ofContextLogged context look =
      let log := (insertAll Path.same [] (assemblyFiles context)).map fun p => (p, look p)
      (ofLog context log, log) := by
  have hread : ∀ files : List Path, readAll (m := Id) (fun p => pure (look p)) files =
      pure (files.map fun p => (p, look p)) := by
    intro files
    induction files with
    | nil => rfl
    | cons p files ih => rw [readAll_cons, ih]; rfl
  have heq := ofContextM_eq (m := Id) context fun p => pure (look p)
  rw [ofContextM_pure, hread, pure_bind] at heq
  exact heq

/-- What is resolved with a log could have been resolved without effects. -/
theorem ofLog_eq_ofContext (context : List Dependency) (log : VersionLog) :
    ofLog context log = ofContext context log.told := by
  rw [ofLog, ofCandidates, ← compile_ofContext context log.told log.told_of_same,
    ← runtime_ofContext context log.told log.told_of_same]
  rfl

/-- **Each file is looked into once, in a fixed order, whatever the reader.**  The files are those
with a name among the paths to compile against and then those to run with, where each path is
first mentioned.  All that comes after it hangs on the log, in which a path has one entry. -/
theorem ofContextM_readsOnce (m : Type → Type) [Monad m] [LawfulMonad m]
    (context : List Dependency) :
    ∃ files, ListsFirst Path.same (assemblyFiles context) files ∧
      (∀ read : Path → m (Option String), ofContextM context read = (do
        let log ← readAll read files
        pure (ofLog context log, log))) ∧
      (∀ look, ofContextLogged context look =
        let log := files.map fun p => (p, look p)
        (ofLog context log, log)) ∧
      (∀ look, Id.run (ofContextM context fun p => pure (look p)) =
        ofContextLogged context look) ∧
      (∀ log, ofLog context log = ofContext context log.told) ∧
      ∀ log : VersionLog, log.files = files → ∀ p ∈ assemblyFiles context,
        ∃ entry ∈ log, log.told p = entry.2 ∧
          ∀ other ∈ log, other.1.same p = true ↔ other = entry := by
  have hlisted := listsFirst_insertAll Path.compares_same (assemblyFiles context)
  exact ⟨_, hlisted, ofContextM_eq context, ofContextLogged_eq context, ofContextM_pure context,
    ofLog_eq_ofContext context, fun _ hlog _ hp => exists_told hlisted hlog hp⟩

/-- One file that two packages bring, spelled in three ways, and a path without a name. -/
def oneFile : List Dependency :=
  [⟨"Alpha", "1.0.0", [⟨"/s/Shared.dll"⟩, ⟨"/"⟩], [⟨"/s/./Shared.dll"⟩, ⟨"/a/Own.dll"⟩], [], []⟩,
   ⟨"Beta", "2.0.0", [⟨"/s//Shared.dll"⟩], [], [], []⟩]

/-- A reader that finds a version only when it is asked for the first time. -/
def forgetful (_ : Path) : StateM Nat (Option String) :=
  modifyGet fun calls => (if calls = 0 then some "9.0.0" else none, calls + 1)

/-- The shared file is read once, so the forgetful reader is not asked for it again; the other file
has the version of its package. -/
theorem ofContextM_readsOnce_oneFile :
    LawfulMonad (StateM Nat) ∧
    ((ofContextM oneFile forgetful).run 0).run =
      ((ofContext oneFile fun p => if p.same ⟨"/s/Shared.dll"⟩ then some "9.0.0" else none,
        [(⟨"/s/Shared.dll"⟩, some "9.0.0"), (⟨"/a/Own.dll"⟩, none)]), 2) := by
  obtain ⟨files, hlisted, hread, -, -, hlog, -⟩ := ofContextM_readsOnce (StateM Nat) oneFile
  have hfiles : files = [⟨"/s/Shared.dll"⟩, ⟨"/a/Own.dll"⟩] := by
    rw [(listsFirst_iff Path.compares_same).mp hlisted]
    decide +kernel
  refine ⟨inferInstance, ?_⟩
  rw [hread, hfiles]
  decide +kernel

end Resolved

end ScriptDeps
