/-
Why an operation on the file system fails.
-/
namespace ScriptDeps

/-- The cause of a failed operation on files. -/
inductive Fault where
  /-- Nothing stands at the path, or at one of the directories it goes through. -/
  | notFound
  /-- Something stands where a new directory should be. -/
  | alreadyExists
  /-- The path goes through something that is no directory. -/
  | notDirectory
  /-- A directory stands where a file is needed. -/
  | isDirectory
  /-- The operation makes no sense for the path. -/
  | invalidArgument
  /-- The directory still has entries. -/
  | notEmpty
  /-- A name of more than 255 bytes, or a path of 4096 or more. -/
  | nameTooLong
  /-- The file may not be run. -/
  | notPermitted
  /-- The system keeps what stands there where it is. -/
  | notMovable
  /-- The file is in no form that can be run. -/
  | notRunnable
  /-- A program stands for another one that stands for another one, and so on. -/
  | tooManyLevels
  /-- What is to be replaced is in use. -/
  | busy
  /-- The path holds a zero character. -/
  | zeroInName
  /-- The content is no text. -/
  | notText
  /-- A fault known by its wording only. -/
  | worded (text : String)
  deriving DecidableEq, Repr, Inhabited

namespace Fault

/-- The wording of a fault. -/
def wording : Fault → String
  | notFound => "No such file or directory"
  | notRunnable => "Exec format error"
  | notPermitted => "Permission denied"
  | notMovable => "Operation not permitted"
  | alreadyExists => "File exists"
  | notDirectory => "Not a directory"
  | isDirectory => "Is a directory"
  | invalidArgument => "Invalid argument"
  | nameTooLong => "File name too long"
  | tooManyLevels => "Too many levels of symbolic links"
  | busy => "Device or resource busy"
  | notEmpty => "Directory not empty"
  | zeroInName => "file name contained an unexpected NUL byte"
  | notText => "stream did not contain valid UTF-8"
  | worded text => text

/-- The number that the system gives to a fault. -/
def number? : Fault → Option Nat
  | notMovable => some 1
  | notFound => some 2
  | notRunnable => some 8
  | notPermitted => some 13
  | alreadyExists => some 17
  | notDirectory => some 20
  | isDirectory => some 21
  | invalidArgument => some 22
  | busy => some 16
  | nameTooLong => some 36
  | tooManyLevels => some 40
  | notEmpty => some 39
  | zeroInName => none
  | notText => none
  | worded _ => none

/-- The wording of a fault, with its number where it has one. -/
def message (f : Fault) : String :=
  match f.number? with
  | some n => f.wording ++ " (os error " ++ toString n ++ ")"
  | none => f.wording

end Fault

end ScriptDeps
