/-
Late binding never goes down, and never loads an assembly twice.

A request is redirected to the one assembly of its name, whatever its case, and only if it names
no version or a lower one.  So what is redirected at one version is redirected below it.

What keeps an assembly from being loaded twice is that the host is asked for the name of its
file, and has what it loaded under that name.  `Host.recording` writes down every file that is
asked for and whether it was loaded; `Once` is what a request leaves true of the record.
-/
import ScriptDeps.Binding
import ScriptDeps.Proofs.Compilation

namespace ScriptDeps

open Std

variable {σ α : Type}

/-! ### Requests and the assemblies that serve them -/

/-- An assembly serves a request for its name that does not name its version or a higher one. -/
structure Assembly.Serves (a : Assembly) (request : AssemblyRequest) : Prop where
  name : Text.lowercase a.name = Text.lowercase request.name
  higher : ∀ requested, request.version = some requested →
    ∃ version, Version.ofText? a.version = some version ∧ version.compare requested = .gt

namespace Resolved

variable {context : List Dependency} {look : Path → Option String} {request : AssemblyRequest}
  {a : Assembly}

theorem redirect_eq_some_iff_find? {r : Resolved} :
    r.redirect request = some a ↔ r.find? request.name = some a ∧
      ∀ requested, request.version = some requested →
        ∃ version, Version.ofText? a.version = some version ∧
          version.compare requested = .gt := by
  unfold redirect
  cases hfound : r.find? request.name with
  | none => simp
  | some b =>
      cases hasked : request.version with
      | none => simp
      | some requested =>
          simp only [Option.some.injEq, forall_eq']
          cases hversion : Version.ofText? b.version with
          | none =>
              simp only [reduceCtorEq, false_iff, not_and]
              rintro rfl
              simp [hversion]
          | some version =>
              simp only [beq_iff_eq, Option.ite_none_right_eq_some, Option.some.injEq]
              rw [and_comm]
              refine and_congr_right ?_
              rintro rfl
              simp [hversion]

theorem redirect_eq_some_iff :
    (ofContext context look).redirect request = some a ↔
      a ∈ (ofContext context look).runtime ∧ a.Serves request := by
  rw [redirect_eq_some_iff_find?, find?_eq_some_iff, and_assoc]
  exact and_congr_right fun _ => ⟨fun h => ⟨h.1, h.2⟩, fun h => ⟨h.name, h.higher⟩⟩

theorem redirect_eq_none_iff :
    (ofContext context look).redirect request = none ↔
      ∀ a ∈ (ofContext context look).runtime, ¬ a.Serves request := by
  simp only [Option.eq_none_iff_forall_ne_some, Ne, redirect_eq_some_iff, not_and]

/-- What is redirected at one version is redirected without one and below it, however the name
is written. -/
theorem redirect_of_lower {name other : String} {version : Version}
    (h : (ofContext context look).redirect ⟨name, some version⟩ = some a)
    (hname : Text.lowercase other = Text.lowercase name) :
    (ofContext context look).redirect ⟨other, none⟩ = some a ∧
      ∀ lower : Version, lower.compare version = .lt →
        (ofContext context look).redirect ⟨other, some lower⟩ = some a := by
  obtain ⟨ha, hserves⟩ := redirect_eq_some_iff.mp h
  have hother : Text.lowercase a.name = Text.lowercase other := hserves.name.trans hname.symm
  obtain ⟨own, hown, hgt⟩ := hserves.higher version rfl
  refine ⟨redirect_eq_some_iff.mpr ⟨ha, hother, by simp⟩, fun lower hlower => ?_⟩
  refine redirect_eq_some_iff.mpr ⟨ha, hother, ?_⟩
  rintro _ ⟨⟩
  exact ⟨own, hown, TransCmp.gt_trans hgt (OrientedCmp.gt_iff_lt.mpr hlower)⟩

end Resolved

/-! ### A record of the files that are asked for -/

/-- A file that was asked for, and whether it was loaded. -/
structure LoadAttempt where
  path : Path
  succeeded : Bool
  deriving DecidableEq, Repr

/-- The host, which writes down all that it is asked to load, oldest first. -/
def Host.recording (host : Host σ α) : Host (σ × List LoadAttempt) α where
  loaded? now name := host.loaded? now.1 name
  load now p :=
    let (next, result) := host.load now.1 p
    ((next, now.2 ++ [⟨p, result.isOk⟩]), result)

/-- How often a file was loaded. -/
def timesLoaded (record : List LoadAttempt) (p : Path) : Nat :=
  record.countP fun l => l.succeeded && l.path.same p

/-- A host has what it loaded under the name of its file, and forgets nothing. -/
structure Host.Keeps (host : Host σ α) : Prop where
  records : ∀ now p name, (host.load now p).2.isOk → p.fileStem? = some name →
    (host.loaded? (host.load now p).1 name).isSome
  remembers : ∀ now p name, (host.loaded? now name).isSome →
    (host.loaded? (host.load now p).1 name).isSome

namespace Resolved

/-- The host after several requests. -/
def bindAll (r : Resolved) (host : Host σ α) (now : σ) (requests : List AssemblyRequest) : σ :=
  requests.foldl (fun now request => (r.bind host now request).1) now

/-- A request is left alone, answered with what the host has, or answered from disk. -/
theorem bind_cases (r : Resolved) (host : Host σ α) (now : σ) (request : AssemblyRequest) :
    r.redirect request = none ∧ r.bind host now request = (now, .ok none) ∨
    ∃ a, r.redirect request = some a ∧
      ((∃ assembly, host.loaded? now a.name = some assembly ∧
          r.bind host now request = (now, .ok (some assembly))) ∨
        host.loaded? now a.name = none ∧
          r.bind host now request =
            ((host.load now a.path).1, (host.load now a.path).2.map some)) := by
  unfold bind
  cases hredirect : r.redirect request with
  | none => exact .inl ⟨rfl, rfl⟩
  | some a =>
      refine .inr ⟨a, rfl, ?_⟩
      cases hloaded : host.loaded? now a.name with
      | none => exact .inr ⟨rfl, by simp [hloaded]⟩
      | some assembly => exact .inl ⟨assembly, rfl, by simp [hloaded]⟩

/-- Writing down what is asked for changes nothing else. -/
theorem bind_recording (r : Resolved) (host : Host σ α) (now : σ × List LoadAttempt)
    (request : AssemblyRequest) :
    (r.bind host.recording now request).1.1 = (r.bind host now.1 request).1 ∧
      (r.bind host.recording now request).2 = (r.bind host now.1 request).2 := by
  unfold bind
  cases r.redirect request with
  | none => exact ⟨rfl, rfl⟩
  | some a =>
      have hsame : host.recording.loaded? now a.name = host.loaded? now.1 a.name := rfl
      simp only [hsame]
      cases host.loaded? now.1 a.name <;> exact ⟨rfl, rfl⟩

theorem bindAll_recording (r : Resolved) (host : Host σ α) (now : σ × List LoadAttempt)
    (requests : List AssemblyRequest) :
    (r.bindAll host.recording now requests).1 = r.bindAll host now.1 requests := by
  induction requests generalizing now with
  | nil => rfl
  | cons request requests ih =>
      obtain ⟨hstate, -⟩ := bind_recording r host now request
      rw [bindAll, List.foldl_cons, bindAll, List.foldl_cons, ← hstate]
      exact ih _

end Resolved

/-! ### Each assembly is loaded once -/

theorem timesLoaded_concat (record : List LoadAttempt) (l : LoadAttempt) (p : Path) :
    timesLoaded (record ++ [l]) p =
      timesLoaded record p + if l.succeeded && l.path.same p then 1 else 0 := by
  rw [timesLoaded, List.countP_append, List.countP_singleton, timesLoaded]

namespace Resolved

variable {context : List Dependency} {look : Path → Option String} {host : Host σ α}
  {now : σ × List LoadAttempt}

theorem fileStem?_of_mem_runtime {a : Assembly} (h : a ∈ (ofContext context look).runtime) :
    a.path.fileStem? = some a.name :=
  VersionLog.fileStem?_of_mem_choose h

/-- An assembly that was loaded was loaded once, and the host has it. -/
def Once (r : Resolved) (host : Host σ α) (now : σ × List LoadAttempt) : Prop :=
  ∀ a ∈ r.runtime, timesLoaded now.2 a.path = 0 ∨
    timesLoaded now.2 a.path = 1 ∧ (host.loaded? now.1 a.name).isSome

/-- A load of what the host does not have keeps it so. -/
theorem Once.load (h : (ofContext context look).Once host now) (hkeeps : host.Keeps)
    {a : Assembly} (ha : a ∈ (ofContext context look).runtime)
    (hmissing : host.loaded? now.1 a.name = none) :
    (ofContext context look).Once host (host.recording.load now a.path).1 := by
  intro b hb
  have htimes : timesLoaded (host.recording.load now a.path).1.2 b.path =
      timesLoaded now.2 b.path +
        if (host.load now.1 a.path).2.isOk && a.path.same b.path then 1 else 0 :=
    timesLoaded_concat _ _ _
  rw [htimes]
  split
  · rename_i hloaded
    rw [Bool.and_eq_true] at hloaded
    -- the file is that of `b`, so `a` and `b` have its name and the host had neither
    have hstem := Path.fileStem?_of_same hloaded.2
    rw [fileStem?_of_mem_runtime ha, fileStem?_of_mem_runtime hb, Option.some.injEq] at hstem
    refine .inr ⟨?_, ?_⟩
    · rcases h b hb with hzero | ⟨-, hsome⟩
      · rw [hzero]
      · simp [← hstem, hmissing] at hsome
    · rw [← hstem]
      exact hkeeps.records _ _ _ hloaded.1 (fileStem?_of_mem_runtime ha)
  · exact (h b hb).imp id fun hone => ⟨hone.1, hkeeps.remembers _ _ _ hone.2⟩

theorem Once.bind (h : (ofContext context look).Once host now) (hkeeps : host.Keeps)
    (request : AssemblyRequest) :
    (ofContext context look).Once host
      ((ofContext context look).bind host.recording now request).1 := by
  rcases bind_cases (ofContext context look) host.recording now request with
    ⟨-, heq⟩ | ⟨a, hredirect, ⟨_, -, heq⟩ | ⟨hmissing, heq⟩⟩
  · rw [heq]
    exact h
  · rw [heq]
    exact h
  · rw [heq]
    exact h.load hkeeps (redirect_eq_some_iff.mp hredirect).1 hmissing

theorem Once.bindAll (h : (ofContext context look).Once host now) (hkeeps : host.Keeps)
    (requests : List AssemblyRequest) :
    (ofContext context look).Once host
      ((ofContext context look).bindAll host.recording now requests) := by
  induction requests generalizing now with
  | nil => exact h
  | cons request requests ih => exact ih (h.bind hkeeps request)

/-- A request asks for one file at most, that of the assembly that serves it. -/
theorem bind_asks (host : Host σ α) (now : σ × List LoadAttempt) (request : AssemblyRequest) :
    ((ofContext context look).bind host.recording now request).1.2 = now.2 ∨
    ∃ a ∈ (ofContext context look).runtime, a.Serves request ∧ ∃ succeeded,
      ((ofContext context look).bind host.recording now request).1.2 =
        now.2 ++ [⟨a.path, succeeded⟩] := by
  rcases bind_cases (ofContext context look) host.recording now request with
    ⟨-, heq⟩ | ⟨a, hredirect, ⟨_, -, heq⟩ | ⟨-, heq⟩⟩
  · exact .inl (by rw [heq])
  · exact .inl (by rw [heq])
  · obtain ⟨ha, hserves⟩ := redirect_eq_some_iff.mp hredirect
    exact .inr ⟨a, ha, hserves, (host.load now.1 a.path).2.isOk, by rw [heq]; rfl⟩

/-- What no assembly serves is left alone. -/
theorem bind_of_not_serves (host : Host σ α) (now : σ) {request : AssemblyRequest}
    (h : ∀ a ∈ (ofContext context look).runtime, ¬ a.Serves request) :
    (ofContext context look).bind host now request = (now, .ok none) := by
  rw [bind, redirect_eq_none_iff.mpr h]

/-- **Late binding never goes down and never loads an assembly twice.** -/
theorem bindAll_once (context : List Dependency) (look : Path → Option String)
    {host : Host σ α} (hkeeps : host.Keeps) (start : σ) (requests : List AssemblyRequest) :
    let r := ofContext context look
    let last := r.bindAll host.recording (start, []) requests
    last.1 = r.bindAll host start requests ∧
    (∀ a ∈ r.runtime, timesLoaded last.2 a.path ≤ 1) ∧
    (∀ (now : σ × List LoadAttempt) (request : AssemblyRequest),
      (r.bind host.recording now request).2 = (r.bind host now.1 request).2 ∧
      ((r.bind host.recording now request).1.2 = now.2 ∨
        ∃ a ∈ r.runtime, a.Serves request ∧ ∃ succeeded,
          (r.bind host.recording now request).1.2 = now.2 ++ [⟨a.path, succeeded⟩])) ∧
    (∀ (now : σ) (request : AssemblyRequest), (∀ a ∈ r.runtime, ¬ a.Serves request) →
      r.bind host now request = (now, .ok none)) ∧
    ∀ (name : String) (version : Version) (a : Assembly),
      r.redirect ⟨name, some version⟩ = some a →
      ∀ other, Text.lowercase other = Text.lowercase name →
        r.redirect ⟨other, none⟩ = some a ∧
        ∀ lower : Version, lower.compare version = .lt →
          r.redirect ⟨other, some lower⟩ = some a := by
  intro r last
  have hstart : r.Once host (start, []) := fun a _ => .inl rfl
  refine ⟨bindAll_recording r host _ requests, fun a ha => ?_,
    fun now request => ⟨(bind_recording r host now request).2, bind_asks host now request⟩,
    fun now _ => bind_of_not_serves host now, fun _ _ _ h _ => redirect_of_lower h⟩
  rcases hstart.bindAll hkeeps requests a ha with hzero | ⟨hone, -⟩
  · exact hzero.trans_le (Nat.zero_le 1)
  · exact hone.le

/-- A host that loads all files but one, and keeps their names. -/
def namesHost (missing : Path) : Host (List String) Unit where
  loaded? names name := if names.contains name then some () else none
  load names p :=
    if p.same missing then (names, .error (.compilation p.text))
    else (names ++ p.fileStem?.toList, .ok ())

theorem keeps_namesHost (missing : Path) : (namesHost missing).Keeps where
  records names p name hok hstem := by
    simp only [namesHost] at hok ⊢
    split at hok
    · cases hok
    · rename_i hp
      simp [hp, hstem]
  remembers names p name hsome := by
    simp only [namesHost] at hsome ⊢
    split
    · exact hsome
    · split at hsome
      · rename_i hmem
        simp only [List.contains_iff_mem] at hmem
        simp [hmem]
      · cases hsome

/-- Requests in different cases load a file once, and one that names its version is left alone. -/
theorem bindAll_once_sharedContext :
    let r := ofContext sharedContext statedVersion
    let last := r.bindAll (namesHost ⟨"/beta/3.0.0/Beta.dll"⟩).recording ([], [])
      [⟨"JSON", none⟩, ⟨"beta", none⟩, ⟨"json", Version.ofText? "12.0.3"⟩,
        ⟨"Json", Version.ofText? "13.0"⟩, ⟨"beta", none⟩]
    (namesHost ⟨"/beta/3.0.0/Beta.dll"⟩).Keeps ∧
    last.2 = [⟨⟨"/alpha/1.2.0/Json.dll"⟩, true⟩, ⟨⟨"/beta/3.0.0/Beta.dll"⟩, false⟩,
      ⟨⟨"/beta/3.0.0/Beta.dll"⟩, false⟩] ∧
    ∀ a ∈ r.runtime, timesLoaded last.2 a.path ≤ 1 := by
  have hkeeps := keeps_namesHost ⟨"/beta/3.0.0/Beta.dll"⟩
  exact ⟨hkeeps, by decide +kernel, (bindAll_once sharedContext statedVersion hkeeps [] _).2.1⟩

end Resolved

end ScriptDeps
