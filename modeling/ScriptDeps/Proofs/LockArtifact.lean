/-
What reading a lock artifact yields.

`Describes` says it field by field.  What is absent is empty.  Of the members of a map that have
one key the last counts, and what is read of it is in the order of the keys.  Of the package
folders alone the order is kept, with repetitions, and the values do not count.

So the order of the members does not matter elsewhere, and members that are no fields matter
nowhere: from the leaves up, every reader keeps what it reads when its value is rearranged.
-/
import Mathlib.Data.Option.Basic
import Mathlib.Logic.Relation
import ScriptDeps.LockArtifact
import ScriptDeps.Proofs.Dictionary
import ScriptDeps.Proofs.Json
import ScriptDeps.Proofs.Store.Tree

namespace ScriptDeps

namespace LockArtifact

open Json
open Text (InByteOrder inByteOrder_iff)

variable {α : Type} {readValue : Json → Option α} {j : Json} {d : Dictionary α}

/-! ### Maps -/

/-- A dictionary is made of what was read of the members. -/
theorem dictionary?_eq_some_iff : dictionary? readValue j = some d ↔
    ∃ members entries, j = .ofMembers members ∧
      List.Forall₂ (fun m e => m.1 = e.1 ∧ readValue m.2 = some e.2) members entries ∧
      d = .ofEntries entries := by
  have hentry : ∀ (m : String × Json) (e : String × α),
      ((readValue m.2).map fun value => (m.1, value)) = some e ↔
        m.1 = e.1 ∧ readValue m.2 = some e.2 := by
    rintro m ⟨key, value⟩
    rw [Option.map_eq_some_iff]
    constructor
    · rintro ⟨_, hread, heq⟩
      obtain ⟨rfl, rfl⟩ := Prod.mk.inj heq
      exact ⟨rfl, hread⟩
    · rintro ⟨rfl, hread⟩
      exact ⟨value, hread, rfl⟩
  simp only [dictionary?, Option.bind_eq_bind, Option.bind_eq_some_iff, members?_eq_some_iff,
    Traversal.mapM_eq_some_iff, hentry, Option.some.injEq]
  constructor
  · rintro ⟨members, hj, entries, hentries, rfl⟩
    exact ⟨members, entries, hj, hentries, rfl⟩
  · rintro ⟨members, entries, hj, hentries, rfl⟩
    exact ⟨members, hj, entries, hentries, rfl⟩

theorem dictionary?_perm {members others : List (String × Json)}
    (hkeys : (members.map Prod.fst).Nodup) (h : members.Perm others)
    (hd : dictionary? readValue (.ofMembers members) = some d) :
    dictionary? readValue (.ofMembers others) = some d := by
  obtain ⟨_, entries, hmembers, hentries, rfl⟩ := dictionary?_eq_some_iff.mp hd
  obtain rfl : members = _ := by
    simpa using congrArg Json.members? hmembers
  obtain ⟨moved, hmoved, hperm⟩ := List.perm_comp_forall₂ h.symm hentries
  refine dictionary?_eq_some_iff.mpr ⟨others, moved, rfl, hmoved, ?_⟩
  have hnodup : (entries.map Prod.fst).Nodup := by
    have hsame : members.map Prod.fst = entries.map Prod.fst :=
      List.forall₂_eq_eq_eq ▸ List.forall₂_map_left_iff.mpr
        (List.forall₂_map_right_iff.mpr (hentries.imp fun _ _ he => he.1))
    rwa [← hsame]
  exact Dictionary.ofEntries_perm hperm.symm hnodup

/-- A dictionary stays the same if what is read of its values does. -/
theorem keeps_dictionary? {change : Change} (h : Keeps change readValue) :
    Keeps (MapChange change) (dictionary? readValue) := by
  intro j k hjk
  cases hjk with
  | order hkeys hperm =>
      exact Option.ext fun d => ⟨dictionary?_perm hkeys hperm,
        dictionary?_perm ((hperm.map Prod.fst).nodup_iff.mp hkeys) hperm.symm⟩
  | value hvw =>
      simp only [dictionary?, members?_ofMembers, Option.bind_eq_bind, Option.bind_some,
        List.mapM_append, List.mapM_cons, h _ _ hvw]

/-- The names of a map are its keys in order, each once. -/
structure NamesAre (j : Json) (names : List String) : Prop where
  rising : names.Pairwise (· < ·)
  keys : ∃ members, j = .ofMembers members ∧ ∀ name, name ∈ names ↔ name ∈ members.map Prod.fst

theorem names?_ofMembers (members : List (String × Json)) :
    names? (.ofMembers members) = some (Dictionary.ofEntries members).keys := by
  have hmembers : dictionary? some (.ofMembers members) = some (.ofEntries members) :=
    dictionary?_eq_some_iff.mpr
      ⟨members, members, rfl, List.forall₂_same.mpr fun _ _ => ⟨rfl, rfl⟩, rfl⟩
  rw [names?, hmembers, Option.map_some]

theorem namesAre_of_names? {names : List String} (h : names? j = some names) :
    NamesAre j names := by
  obtain ⟨d, hd, rfl⟩ := Option.map_eq_some_iff.mp h
  obtain ⟨members, entries, rfl, -, -⟩ := dictionary?_eq_some_iff.mp hd
  rw [names?_ofMembers, Option.some.injEq] at h
  rw [← h]
  exact ⟨List.pairwise_map.mpr (Dictionary.rising_ofEntries members), members, rfl,
    fun _ => Dictionary.mem_keys_ofEntries_iff⟩

/-- Names depend on the keys only. -/
theorem keeps_names? : Keeps (MapChange anyChange) names? := by
  have hnames : ∀ {members others : List (String × Json)},
      (∀ name, name ∈ members.map Prod.fst ↔ name ∈ others.map Prod.fst) →
      names? (.ofMembers members) = names? (.ofMembers others) := by
    intro members others h
    have hrising : ∀ ms : List (String × Json), (Dictionary.ofEntries ms).keys.Pairwise (· < ·) :=
      fun ms => List.pairwise_map.mpr (Dictionary.rising_ofEntries ms)
    have hnodup : ∀ ms : List (String × Json), (Dictionary.ofEntries ms).keys.Nodup :=
      fun ms => (hrising ms).imp fun hlt => Std.ne_of_lt hlt
    have hperm := (List.perm_ext_iff_of_nodup (hnodup members) (hnodup others)).mpr fun name => by
      rw [Dictionary.mem_keys_ofEntries_iff, Dictionary.mem_keys_ofEntries_iff, h]
    rw [names?_ofMembers, names?_ofMembers, hperm.eq_of_pairwise
      (fun _ _ _ _ hab hba => absurd hba (String.lt_asymm hab)) (hrising members) (hrising others)]
  intro j k hjk
  cases hjk with
  | order _ hperm => exact hnames fun name => (hperm.map Prod.fst).mem_iff
  | value _ => exact hnames fun name => by simp

/-- The package folders are the keys of a map, in the order in which they stand there. -/
def FoldersAre (j : Json) (folders : List String) : Prop :=
  ∃ members, j = .ofMembers members ∧ folders = members.map Prod.fst

theorem keeps_folders :
    Keeps ValueChange fun j => j.members?.map (·.map Prod.fst) := by
  intro j k hjk
  cases hjk
  simp

/-- A map is read value by value.  Of the values under one key the last counts. -/
structure MapIs (R : Json → α → Prop) (j : Json) (d : Dictionary α) : Prop where
  rising : d.Rising
  values : ∃ members, j = .ofMembers members ∧
    ∀ key, Option.Rel R (members.reverse.lookup key) (d.get? key)

theorem rel_lookup {R : Json → α → Prop} {members : List (String × Json)}
    {entries : List (String × α)}
    (h : List.Forall₂ (fun m e => m.1 = e.1 ∧ R m.2 e.2) members entries) (key : String) :
    Option.Rel R (members.lookup key) (entries.lookup key) := by
  induction h with
  | nil => exact .none
  | @cons m e _ _ hfirst _ ih =>
      obtain ⟨k, v⟩ := m
      obtain ⟨rfl, hvalue⟩ := hfirst
      rw [List.lookup_cons, List.lookup_cons]
      cases key == e.1 with
      | true => exact .some hvalue
      | false => exact ih

theorem mapIs_of_dictionary? {R : Json → α → Prop}
    (hR : ∀ v value, readValue v = some value → R v value)
    (h : dictionary? readValue j = some d) : MapIs R j d := by
  obtain ⟨members, entries, rfl, hentries, rfl⟩ := dictionary?_eq_some_iff.mp h
  refine ⟨Dictionary.rising_ofEntries entries, members, rfl, fun key => ?_⟩
  rw [Dictionary.get?_ofEntries]
  refine rel_lookup (List.forall₂_reverse_iff.mpr (hentries.imp fun m e he => ?_)) key
  exact ⟨he.1, hR _ _ he.2⟩

/-- What stands in a map was read of some value. -/
theorem MapIs.exists_of_mem {R : Json → α → Prop} (h : MapIs R j d) {e : String × α} (he : e ∈ d) :
    ∃ v, R v e.2 := by
  obtain ⟨members, -, hvalues⟩ := h.values
  have hrel := hvalues e.1
  rw [(Dictionary.get?_eq_some_iff h.rising.nodup).mpr he] at hrel
  generalize members.reverse.lookup e.1 = found at hrel
  cases hrel with
  | some hv => exact ⟨_, hv⟩

/-! ### Records -/

/-- What a field is read as: empty if it is absent. -/
def FieldIs (empty : α) (R : Json → α → Prop) : Option Json → α → Prop
  | none, value => value = empty
  | some v, value => R v value

theorem fieldIs_of_orElse {R : Json → α → Prop} {empty value : α} {field : Option Json}
    (hR : ∀ v value, readValue v = some value → R v value)
    (h : orElse empty readValue field = some value) : FieldIs empty R field value := by
  cases field with
  | none => exact (Option.some.inj h).symm
  | some v => exact hR v value h

/-- The value is what is read. -/
def ReadAs (readValue : Json → Option α) (j : Json) (value : α) : Prop :=
  readValue j = some value

theorem fieldIs_readAs {empty value : α} {field : Option Json}
    (h : orElse empty readValue field = some value) :
    FieldIs empty (ReadAs readValue) field value :=
  fieldIs_of_orElse (fun _ _ => id) h

theorem fieldIs_mapIs {R : Json → α → Prop} {field : Option Json}
    (hR : ∀ v value, readValue v = some value → R v value)
    (h : orElse [] (dictionary? readValue) field = some d) : FieldIs [] (MapIs R) field d :=
  fieldIs_of_orElse (fun _ _ => mapIs_of_dictionary? hR) h

namespace FieldIs

variable {R : Json → α → Prop} {field : Option Json}

theorem rising (h : FieldIs [] (MapIs R) field d) : d.Rising := by
  cases field with
  | none => exact h ▸ Dictionary.rising_nil
  | some v => exact MapIs.rising h

theorem exists_of_mem (h : FieldIs [] (MapIs R) field d) {e : String × α} (he : e ∈ d) :
    ∃ v, R v e.2 := by
  cases field with
  | none => exact absurd (h ▸ he) List.not_mem_nil
  | some v => exact MapIs.exists_of_mem h he

theorem pairwise {names : List String} (h : FieldIs [] NamesAre field names) :
    names.Pairwise (· < ·) := by
  cases field with
  | none => exact h ▸ List.Pairwise.nil
  | some v => exact NamesAre.rising h

end FieldIs

/-- An asset for one kind of runtime. -/
def runtimeTargetFields : Fields :=
  [("assetType", noChange), ("rid", noChange)]

structure RuntimeTargetIs (j : Json) (t : RuntimeTarget) : Prop where
  isRecord : j.isRecord runtimeTargetFields = true
  assetType : FieldIs "" (ReadAs text?) (j.field? runtimeTargetFields "assetType") t.assetType
  runtime : FieldIs "" (ReadAs text?) (j.field? runtimeTargetFields "rid") t.runtime

theorem runtimeTarget?_eq (j : Json) : runtimeTarget? j =
    if j.isRecord runtimeTargetFields then do
      some ⟨← orElse "" text? (j.field? runtimeTargetFields "assetType"),
        ← orElse "" text? (j.field? runtimeTargetFields "rid")⟩
    else none :=
  bind_fields? runtimeTargetFields (by decide) _ j

theorem runtimeTargetIs_of_eq_some {t : RuntimeTarget} (h : runtimeTarget? j = some t) :
    RuntimeTargetIs j t := by
  rw [runtimeTarget?_eq] at h
  split at h
  · rename_i hrecord
    simp only [Option.bind_eq_bind, Option.bind_eq_some_iff, Option.some.injEq] at h
    obtain ⟨_, hassetType, _, hruntime, rfl⟩ := h
    exact ⟨hrecord, fieldIs_readAs hassetType, fieldIs_readAs hruntime⟩
  · contradiction

theorem keeps_runtimeTarget? : Keeps (RecordChange runtimeTargetFields) runtimeTarget? := by
  intro j k h
  rw [runtimeTarget?_eq, runtimeTarget?_eq, ← h.isRecord_eq]
  split
  · rename_i hrecord
    rw [h.orElse_eq (by decide) hrecord (keeps_noChange _) (by simp [runtimeTargetFields]),
      h.orElse_eq (by decide) hrecord (keeps_noChange _) (by simp [runtimeTargetFields])]
  · rfl

/-- A file that goes into projects as content. -/
def contentFileFields : Fields :=
  [("codeLanguage", noChange), ("buildAction", noChange)]

structure ContentFileIs (j : Json) (f : ContentFile) : Prop where
  isRecord : j.isRecord contentFileFields = true
  codeLanguage :
    FieldIs none (ReadAs optionalText?) (j.field? contentFileFields "codeLanguage") f.codeLanguage
  buildAction :
    FieldIs none (ReadAs optionalText?) (j.field? contentFileFields "buildAction") f.buildAction

theorem contentFile?_eq (j : Json) : contentFile? j =
    if j.isRecord contentFileFields then do
      some ⟨← orElse none optionalText? (j.field? contentFileFields "codeLanguage"),
        ← orElse none optionalText? (j.field? contentFileFields "buildAction")⟩
    else none :=
  bind_fields? contentFileFields (by decide) _ j

theorem contentFileIs_of_eq_some {f : ContentFile} (h : contentFile? j = some f) :
    ContentFileIs j f := by
  rw [contentFile?_eq] at h
  split at h
  · rename_i hrecord
    simp only [Option.bind_eq_bind, Option.bind_eq_some_iff, Option.some.injEq] at h
    obtain ⟨_, hlanguage, _, haction, rfl⟩ := h
    exact ⟨hrecord, fieldIs_readAs hlanguage, fieldIs_readAs haction⟩
  · contradiction

theorem keeps_contentFile? : Keeps (RecordChange contentFileFields) contentFile? := by
  intro j k h
  rw [contentFile?_eq, contentFile?_eq, ← h.isRecord_eq]
  split
  · rename_i hrecord
    rw [h.orElse_eq (by decide) hrecord (keeps_noChange _) (by simp [contentFileFields]),
      h.orElse_eq (by decide) hrecord (keeps_noChange _) (by simp [contentFileFields])]
  · rfl

/-- The assets of a library for one target. -/
def targetLibraryFields : Fields :=
  [("type", noChange), ("dependencies", MapChange noChange), ("compile", MapChange anyChange),
    ("runtime", MapChange anyChange), ("native", MapChange anyChange),
    ("runtimeTargets", MapChange (RecordChange runtimeTargetFields)),
    ("contentFiles", MapChange (RecordChange contentFileFields))]

structure TargetLibraryIs (j : Json) (t : TargetLibrary) : Prop where
  isRecord : j.isRecord targetLibraryFields = true
  kind : FieldIs "" (ReadAs text?) (j.field? targetLibraryFields "type") t.kind
  dependencies :
    FieldIs [] (MapIs (ReadAs text?)) (j.field? targetLibraryFields "dependencies") t.dependencies
  compile : FieldIs [] NamesAre (j.field? targetLibraryFields "compile") t.compile
  runtime : FieldIs [] NamesAre (j.field? targetLibraryFields "runtime") t.runtime
  native : FieldIs [] NamesAre (j.field? targetLibraryFields "native") t.native
  runtimeTargets :
    FieldIs [] (MapIs RuntimeTargetIs) (j.field? targetLibraryFields "runtimeTargets")
      t.runtimeTargets
  contentFiles :
    FieldIs [] (MapIs ContentFileIs) (j.field? targetLibraryFields "contentFiles") t.contentFiles

theorem targetLibrary?_eq (j : Json) : targetLibrary? j =
    if j.isRecord targetLibraryFields then do
      some
        { kind := ← orElse "" text? (j.field? targetLibraryFields "type")
          dependencies :=
            ← orElse [] (dictionary? text?) (j.field? targetLibraryFields "dependencies")
          compile := ← orElse [] names? (j.field? targetLibraryFields "compile")
          runtime := ← orElse [] names? (j.field? targetLibraryFields "runtime")
          native := ← orElse [] names? (j.field? targetLibraryFields "native")
          runtimeTargets :=
            ← orElse [] (dictionary? runtimeTarget?) (j.field? targetLibraryFields "runtimeTargets")
          contentFiles :=
            ← orElse [] (dictionary? contentFile?) (j.field? targetLibraryFields "contentFiles") }
    else none :=
  bind_fields? targetLibraryFields (by decide) _ j

theorem targetLibraryIs_of_eq_some {t : TargetLibrary} (h : targetLibrary? j = some t) :
    TargetLibraryIs j t := by
  rw [targetLibrary?_eq] at h
  split at h
  · rename_i hrecord
    simp only [Option.bind_eq_bind, Option.bind_eq_some_iff, Option.some.injEq] at h
    obtain ⟨_, hkind, _, hdependencies, _, hcompile, _, hruntime, _, hnative, _, htargets, _,
      hfiles, rfl⟩ := h
    exact
      { isRecord := hrecord
        kind := fieldIs_readAs hkind
        dependencies := fieldIs_mapIs (fun _ _ => id) hdependencies
        compile := fieldIs_of_orElse (fun _ _ => namesAre_of_names?) hcompile
        runtime := fieldIs_of_orElse (fun _ _ => namesAre_of_names?) hruntime
        native := fieldIs_of_orElse (fun _ _ => namesAre_of_names?) hnative
        runtimeTargets := fieldIs_mapIs (fun _ _ => runtimeTargetIs_of_eq_some) htargets
        contentFiles := fieldIs_mapIs (fun _ _ => contentFileIs_of_eq_some) hfiles }
  · contradiction

theorem keeps_targetLibrary? : Keeps (RecordChange targetLibraryFields) targetLibrary? := by
  intro j k h
  rw [targetLibrary?_eq, targetLibrary?_eq, ← h.isRecord_eq]
  split
  · rename_i hrecord
    rw [h.orElse_eq (by decide) hrecord (keeps_noChange _) (by simp [targetLibraryFields]),
      h.orElse_eq (by decide) hrecord (keeps_dictionary? (keeps_noChange _))
        (by simp [targetLibraryFields]),
      h.orElse_eq (by decide) hrecord keeps_names? (by simp [targetLibraryFields]),
      h.orElse_eq (by decide) hrecord keeps_names? (by simp [targetLibraryFields]),
      h.orElse_eq (by decide) hrecord keeps_names? (by simp [targetLibraryFields]),
      h.orElse_eq (by decide) hrecord (keeps_dictionary? keeps_runtimeTarget?)
        (by simp [targetLibraryFields]),
      h.orElse_eq (by decide) hrecord (keeps_dictionary? keeps_contentFile?)
        (by simp [targetLibraryFields])]
  · rfl

/-- A library as it is on disk. -/
def libraryFields : Fields :=
  [("type", noChange), ("path", noChange), ("files", noChange)]

structure LibraryIs (j : Json) (l : Library) : Prop where
  isRecord : j.isRecord libraryFields = true
  kind : FieldIs "" (ReadAs text?) (j.field? libraryFields "type") l.kind
  path : FieldIs none (ReadAs optionalText?) (j.field? libraryFields "path") l.path
  files : FieldIs [] (ReadAs texts?) (j.field? libraryFields "files") l.files

theorem library?_eq (j : Json) : library? j =
    if j.isRecord libraryFields then do
      some
        { kind := ← orElse "" text? (j.field? libraryFields "type")
          path := ← orElse none optionalText? (j.field? libraryFields "path")
          files := ← orElse [] texts? (j.field? libraryFields "files") }
    else none :=
  bind_fields? libraryFields (by decide) _ j

theorem libraryIs_of_eq_some {l : Library} (h : library? j = some l) : LibraryIs j l := by
  rw [library?_eq] at h
  split at h
  · rename_i hrecord
    simp only [Option.bind_eq_bind, Option.bind_eq_some_iff, Option.some.injEq] at h
    obtain ⟨_, hkind, _, hpath, _, hfiles, rfl⟩ := h
    exact ⟨hrecord, fieldIs_readAs hkind, fieldIs_readAs hpath, fieldIs_readAs hfiles⟩
  · contradiction

theorem keeps_library? : Keeps (RecordChange libraryFields) library? := by
  intro j k h
  rw [library?_eq, library?_eq, ← h.isRecord_eq]
  split
  · rename_i hrecord
    rw [h.orElse_eq (by decide) hrecord (keeps_noChange _) (by simp [libraryFields]),
      h.orElse_eq (by decide) hrecord (keeps_noChange _) (by simp [libraryFields]),
      h.orElse_eq (by decide) hrecord (keeps_noChange _) (by simp [libraryFields])]
  · rfl

/-! ### The artifact -/

def artifactFields : Fields :=
  [("version", noChange), ("targets", MapChange (MapChange (RecordChange targetLibraryFields))),
    ("libraries", MapChange (RecordChange libraryFields)), ("packageFolders", ValueChange)]

/-- A value as a lock artifact. -/
structure Describes (j : Json) (lock : LockArtifact) : Prop where
  isRecord : j.isRecord artifactFields = true
  version : FieldIs 0 (ReadAs word?) (j.field? artifactFields "version") lock.version
  targets :
    FieldIs [] (MapIs (MapIs TargetLibraryIs)) (j.field? artifactFields "targets") lock.targets
  libraries : FieldIs [] (MapIs LibraryIs) (j.field? artifactFields "libraries") lock.libraries
  packageFolders :
    FieldIs [] FoldersAre (j.field? artifactFields "packageFolders") lock.packageFolders

theorem ofJson?_eq (j : Json) : ofJson? j =
    if j.isRecord artifactFields then do
      some
        { version := ← orElse 0 word? (j.field? artifactFields "version")
          targets :=
            ← orElse [] (dictionary? (dictionary? targetLibrary?))
              (j.field? artifactFields "targets")
          libraries := ← orElse [] (dictionary? library?) (j.field? artifactFields "libraries")
          packageFolders :=
            ← orElse [] (fun j => j.members?.map (·.map Prod.fst))
              (j.field? artifactFields "packageFolders") }
    else none :=
  bind_fields? artifactFields (by decide) _ j

theorem describes_of_ofJson? {lock : LockArtifact} (h : ofJson? j = some lock) :
    Describes j lock := by
  rw [ofJson?_eq] at h
  split at h
  · rename_i hrecord
    simp only [Option.bind_eq_bind, Option.bind_eq_some_iff, Option.some.injEq] at h
    obtain ⟨_, hversion, _, htargets, _, hlibraries, _, hfolders, rfl⟩ := h
    refine
      { isRecord := hrecord
        version := fieldIs_readAs hversion
        targets := fieldIs_mapIs
          (fun _ _ => mapIs_of_dictionary? fun _ _ => targetLibraryIs_of_eq_some) htargets
        libraries := fieldIs_mapIs (fun _ _ => libraryIs_of_eq_some) hlibraries
        packageFolders := fieldIs_of_orElse (fun v folders hread => ?_) hfolders }
    obtain ⟨members, hmembers, rfl⟩ := Option.map_eq_some_iff.mp hread
    exact ⟨members, members?_eq_some_iff.mp hmembers, rfl⟩
  · contradiction

theorem keeps_ofJson? : Keeps (RecordChange artifactFields) ofJson? := by
  intro j k h
  rw [ofJson?_eq, ofJson?_eq, ← h.isRecord_eq]
  split
  · rename_i hrecord
    rw [h.orElse_eq (by decide) hrecord (keeps_noChange _) (by simp [artifactFields]),
      h.orElse_eq (by decide) hrecord
        (keeps_dictionary? (keeps_dictionary? keeps_targetLibrary?)) (by simp [artifactFields]),
      h.orElse_eq (by decide) hrecord (keeps_dictionary? keeps_library?)
        (by simp [artifactFields]),
      h.orElse_eq (by decide) hrecord keeps_folders (by simp [artifactFields])]
  · rfl

/-! ### The order of the keys -/

/-- The names of the runtime and native assets rise. -/
structure AssetsInOrder (t : TargetLibrary) : Prop where
  runtime : t.runtime.Pairwise (· < ·)
  native : t.native.Pairwise (· < ·)
  runtimeTargets : t.runtimeTargets.Rising

/-- The keys of targets rise, and so do those of the libraries in each and their assets. -/
structure InOrder (lock : LockArtifact) : Prop where
  targets : lock.targets.Rising
  libraries : ∀ e ∈ lock.targets, e.2.Rising
  assets : ∀ e ∈ lock.targets, ∀ l ∈ e.2, AssetsInOrder l.2

/-- The keys of a library's assets and dependencies are in order. -/
structure LibraryInOrder (t : TargetLibrary) : Prop where
  dependencies : InByteOrder t.dependencies.keys
  compile : InByteOrder t.compile
  runtime : InByteOrder t.runtime
  native : InByteOrder t.native
  runtimeTargets : InByteOrder t.runtimeTargets.keys
  contentFiles : InByteOrder t.contentFiles.keys

/-- All keys are in order but those of the package folders. -/
structure KeysInOrder (lock : LockArtifact) : Prop where
  targets : InByteOrder lock.targets.keys
  libraries : ∀ e ∈ lock.targets, InByteOrder e.2.keys
  assets : ∀ e ∈ lock.targets, ∀ l ∈ e.2, LibraryInOrder l.2
  installed : InByteOrder lock.libraries.keys

theorem TargetLibraryIs.assetsInOrder {t : TargetLibrary} (h : TargetLibraryIs j t) :
    AssetsInOrder t :=
  ⟨h.runtime.pairwise, h.native.pairwise, h.runtimeTargets.rising⟩

theorem TargetLibraryIs.libraryInOrder {t : TargetLibrary} (h : TargetLibraryIs j t) :
    LibraryInOrder t where
  dependencies := h.dependencies.rising.inByteOrder
  compile := inByteOrder_iff.mpr h.compile.pairwise
  runtime := inByteOrder_iff.mpr h.runtime.pairwise
  native := inByteOrder_iff.mpr h.native.pairwise
  runtimeTargets := h.runtimeTargets.rising.inByteOrder
  contentFiles := h.contentFiles.rising.inByteOrder

/-- What stands in a target was read as a library. -/
theorem Describes.exists_targetLibraryIs {lock : LockArtifact} (h : Describes j lock) :
    ∀ e ∈ lock.targets, ∀ l ∈ e.2, ∃ v, TargetLibraryIs v l.2 := by
  intro e he l hl
  obtain ⟨v, hv⟩ := h.targets.exists_of_mem he
  exact hv.exists_of_mem hl

theorem Describes.rising_target {lock : LockArtifact} (h : Describes j lock) :
    ∀ e ∈ lock.targets, e.2.Rising := by
  intro e he
  obtain ⟨v, hv⟩ := h.targets.exists_of_mem he
  exact hv.rising

theorem Describes.inOrder {lock : LockArtifact} (h : Describes j lock) : lock.InOrder where
  targets := h.targets.rising
  libraries := h.rising_target
  assets e he l hl := by
    obtain ⟨v, hv⟩ := h.exists_targetLibraryIs e he l hl
    exact hv.assetsInOrder

theorem Describes.keysInOrder {lock : LockArtifact} (h : Describes j lock) :
    lock.KeysInOrder where
  targets := h.targets.rising.inByteOrder
  libraries e he := (h.rising_target e he).inByteOrder
  assets e he l hl := by
    obtain ⟨v, hv⟩ := h.exists_targetLibraryIs e he l hl
    exact hv.libraryInOrder
  installed := h.libraries.rising.inByteOrder

/-! ### Reading -/

variable {s : Store} {p : Path} {lock : LockArtifact}

theorem read_eq_ok_iff : read s p = .ok lock ↔
    ∃ text value, s.readText p = .ok text ∧ Json.parse? text = some value ∧
      ofJson? value = some lock := by
  rw [read]
  cases s.readText p with
  | error fault => simp
  | ok text =>
      cases hvalue : Json.parse? text with
      | none => simp [hvalue]
      | some value => cases hlock : ofJson? value <;> simp [hvalue, hlock]

/-- **Whatever is read is in order.** -/
theorem inOrder_of_read (h : read s p = .ok lock) : lock.InOrder := by
  obtain ⟨text, value, -, -, hlock⟩ := read_eq_ok_iff.mp h
  exact (describes_of_ofJson? hlock).inOrder

/-- Two values differ in the order of members, in members that are no fields, and in values that
are not read. -/
def Rearranged : Json → Json → Prop :=
  Relation.ReflTransGen (RecordChange artifactFields)

theorem ofJson?_rearranged {k : Json} (h : Rearranged j k) : ofJson? j = ofJson? k := by
  induction h with
  | refl => rfl
  | tail _ hchange ih => exact ih.trans (keeps_ofJson? _ _ hchange)

/-- **The order of members does not matter for what is read, but for the package folders.**  A text
that is read describes what is read of it, field by field: an absent field is empty, the keys of
all maps are in the order of their bytes, and the package folders stand as in the text, with
repetitions.  A text whose value is a rearranged one is read as the same. -/
theorem read_rearranged (h : read s p = .ok lock) :
    ∃ text value, s.readText p = .ok text ∧ Json.parse? text = some value ∧
      Describes value lock ∧ lock.KeysInOrder ∧
      ∀ (s' : Store) (p' : Path) (text' : String) (value' : Json), s'.readText p' = .ok text' →
        Json.parse? text' = some value' → Rearranged value value' → read s' p' = .ok lock := by
  obtain ⟨text, value, htext, hvalue, hlock⟩ := read_eq_ok_iff.mp h
  have hdescribes := describes_of_ofJson? hlock
  refine ⟨text, value, htext, hvalue, hdescribes, hdescribes.keysInOrder, ?_⟩
  intro s' p' text' value' htext' hvalue' hrearranged
  exact read_eq_ok_iff.mpr
    ⟨text', value', htext', hvalue', ofJson?_rearranged hrearranged ▸ hlock⟩

/-- The text of a lock artifact. -/
def orderedText : String :=
  "\x7b\"targets\":\x7b\"net8.0\":\x7b\"B/1\":\x7b\x7d,\"A/1\":\x7b\x7d\x7d\x7d," ++
  "\"libraries\":\x7b\x7d,\"packageFolders\":\x7b\"/b\":true,\"/a\":null,\"/b\":false\x7d\x7d"

/-- The same with its members in another order, also those of the target, and with one more. -/
def rearrangedText : String :=
  "\x7b\"libraries\":\x7b\x7d,\"note\":true," ++
  "\"targets\":\x7b\"net8.0\":\x7b\"A/1\":\x7b\x7d,\"B/1\":\x7b\x7d\x7d\x7d," ++
  "\"packageFolders\":\x7b\"/b\":true,\"/a\":null,\"/b\":false\x7d\x7d"

def twoTexts : Store :=
  ⟨[(["one"], .file orderedText.toUTF8 false), (["other"], .file rearrangedText.toUTF8 false)],
    [], []⟩

/-- What both are read as. -/
def twoLibraries : LockArtifact :=
  let library : TargetLibrary := ⟨"", [], [], [], [], [], []⟩
  ⟨0, [("net8.0", [("A/1", library), ("B/1", library)])], [], ["/b", "/a", "/b"]⟩

def targetsOf (first second : String) : String × Json :=
  ("targets", .ofMembers [("net8.0", .ofMembers [(first, .ofMembers []), (second, .ofMembers [])])])

def noLibraries : String × Json :=
  ("libraries", .ofMembers [])

def threeFolders : String × Json :=
  ("packageFolders", .ofMembers [("/b", .bool true), ("/a", .null), ("/b", .bool false)])

def orderedValue : Json :=
  .ofMembers [targetsOf "B/1" "A/1", noLibraries, threeFolders]

def rearrangedValue : Json :=
  .ofMembers [noLibraries, ("note", .bool true), targetsOf "A/1" "B/1", threeFolders]

theorem rearranged_orderedValue : Rearranged orderedValue rearrangedValue := by
  have hlibraries : MapChange (MapChange (RecordChange targetLibraryFields))
      (targetsOf "B/1" "A/1").2 (targetsOf "A/1" "B/1").2 :=
    @MapChange.value _ [] [] "net8.0" _ _ (MapChange.order (by decide) (.swap _ _ _))
  have htargets : Rearranged orderedValue
      (.ofMembers [targetsOf "A/1" "B/1", noLibraries, threeFolders]) :=
    .single (@RecordChange.field artifactFields [] _ "targets" _ _ _ (by simp [artifactFields])
      hlibraries)
  have horder : RecordChange artifactFields
      (.ofMembers [targetsOf "A/1" "B/1", noLibraries, threeFolders])
      (.ofMembers [noLibraries, targetsOf "A/1" "B/1", threeFolders]) :=
    .order (.swap _ _ _)
  have hunknown : RecordChange artifactFields
      (.ofMembers [noLibraries, targetsOf "A/1" "B/1", threeFolders]) rearrangedValue :=
    @RecordChange.unknown artifactFields [noLibraries] _ "note" _ (by decide)
  exact (htargets.tail horder).tail hunknown

theorem read_rearranged_twoTexts :
    read twoTexts ⟨"/one"⟩ = .ok twoLibraries ∧ read twoTexts ⟨"/other"⟩ = .ok twoLibraries ∧
      twoLibraries.KeysInOrder := by
  have hreadOne : twoTexts.read ⟨"/one"⟩ = .ok orderedText.toUTF8 := rfl
  have hreadOther : twoTexts.read ⟨"/other"⟩ = .ok rearrangedText.toUTF8 := rfl
  have hone := Store.readText_of_read hreadOne
  have hother := Store.readText_of_read hreadOther
  -- the characters come first, since to read them off the bytes takes far longer than the rest
  have hordered : Json.parse? orderedText = some orderedValue := by
    unfold orderedText
    rw [Json.parse?, String.toList_append, String.toList_ofList, String.toList_ofList]
    rfl
  have hrearranged : Json.parse? rearrangedText = some rearrangedValue := by
    unfold rearrangedText
    rw [Json.parse?, String.toList_append, String.toList_append, String.toList_ofList,
      String.toList_ofList, String.toList_ofList]
    rfl
  have hlock : ofJson? orderedValue = some twoLibraries := by decide +kernel
  have hread : read twoTexts ⟨"/one"⟩ = .ok twoLibraries :=
    read_eq_ok_iff.mpr ⟨_, _, hone, hordered, hlock⟩
  obtain ⟨text, value, htext, hvalue, -, hkeys, hsame⟩ := read_rearranged hread
  obtain rfl := Except.ok.inj (hone.symm.trans htext)
  obtain rfl := Option.some.inj (hordered.symm.trans hvalue)
  exact ⟨hread, hsame _ _ _ _ hother hrearranged rearranged_orderedValue, hkeys⟩

end LockArtifact

end ScriptDeps
