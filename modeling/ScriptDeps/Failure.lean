/-
Why a stage of the resolution fails.

A failure is a cause.  Its wording is `Failure.message`, and some failures come with
advice on what to do about them, `Failure.advice`; `Failure.report` is what a user
reads, the wording followed by the advice.
-/
import ScriptDeps.Fault
import ScriptDeps.Path

namespace ScriptDeps

/-- Why a text is refused by a reader. -/
inductive Malformed where
  /-- The text, without the blanks around it, is no version. -/
  | version (text : String)
  /-- The project has no target framework. -/
  | noTargetFramework
  /-- A refusal known by its wording only. -/
  | worded (text : String)
  deriving DecidableEq, Repr

namespace Malformed

def message : Malformed → String
  | version text => "invalid version '" ++ text ++ "'"
  | noTargetFramework => "project file has no <TargetFramework>"
  | worded text => text

end Malformed

/-- The cause of a failed stage. -/
inductive Failure where
  | io (fault : Fault)
  /-- A script of the graph cannot be read. -/
  | unreadableScript (path : Path) (fault : Fault)
  | malformed (cause : Malformed)
  /-- The restore tool did not succeed; what it printed is kept. -/
  | restoreFailed (manifest : Path) (output : String)
  /-- The restore tool was stopped after that many milliseconds. -/
  | restoreTimeout (manifest : Path) (limit : Nat)
  /-- No candidate can restore. -/
  | noRestorer (detail : String)
  | missingLockArtifact (path : Path)
  /-- The lock artifact has no target for any runtime. -/
  | missingRuntimeTarget (path : Path) (runtime : String)
  /-- An asset that a dependency should have is not on disk. -/
  | missingAsset (dependency : String) (path : Path)
  | invalidLockArtifact (path : Path)
  /-- A native library does not load. -/
  | nativeLoad (path : Path)
  | compilation (detail : String)
  deriving DecidableEq, Repr

namespace Failure

/-- The wording of a failure. -/
def message : Failure → String
  | io fault => "IO error: " ++ fault.message
  | unreadableScript path fault =>
    "failed to read script " ++ path.text ++ ": " ++ fault.message
  | malformed cause => "parse error: " ++ cause.message
  | restoreFailed manifest output => "restore failed for " ++ manifest.text ++ ":\n" ++ output
  | restoreTimeout manifest limit =>
    "restore of " ++ manifest.text ++ " timed out after " ++ toString (limit / 1000) ++ "s"
  | noRestorer detail => "no restorer available: " ++ detail
  | missingLockArtifact path => "lock artifact not found at " ++ path.text
  | missingRuntimeTarget path runtime =>
    "no runtime-specific target found in " ++ path.text ++
      "; restore with an explicit runtime identifier (-r " ++ runtime ++ ")"
  | missingAsset dependency path =>
    "dependency " ++ dependency ++ " references missing file " ++ path.text
  | invalidLockArtifact path => "invalid lock artifact " ++ path.text
  | nativeLoad _ => "failed to load native asset"
  | compilation detail => "compilation failed: " ++ detail

/-- What a user can do about it. -/
def advice : Failure → Option String
  | missingAsset .. => some "the global package cache may be stale; try again with --no-cache"
  | missingRuntimeTarget .. =>
    some "run the restore with a runtime identifier (dotnet restore -r <rid>)"
  | missingLockArtifact .. =>
    some "the restore did not produce project.assets.json; try again with --no-cache"
  | noRestorer .. => some "install the .NET SDK and make sure `dotnet` is on PATH"
  | restoreTimeout .. => some "raise the limit with --restore-timeout"
  | _ => none

/-- The advice as it follows the wording. -/
def hint (f : Failure) : String :=
  match f.advice with
  | some text => "\n\nhint: " ++ text
  | none => ""

/-- The wording with the advice. -/
def report (f : Failure) : String :=
  f.message ++ f.hint

end Failure

end ScriptDeps
