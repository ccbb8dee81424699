/-
What the programs of the machine tell about their versions.
-/
import ScriptDeps.Shell.Bytes

namespace ScriptDeps.Shell.Version

/-- The programs that take the option for the version only where it is all they are given. -/
def strictNames : List String :=
  ["[", "true", "false", "echo", "printf", "expr", "yes"]

/-- The programs that do not know the option. -/
def muteNames : List String :=
  ["sh", "dash", "awk", "mawk", "test", "which", "captoinfo", "chage", "chfn", "chsh", "clear",
    "debconf", "expiry", "faillog", "gpasswd", "infocmp", "infotocap", "ischroot", "lastlog", "login",
    "newgrp", "passwd", "reset", "savelog", "tabs", "tempfile", "tic", "toe", "tput", "tset"]

/-- A program is asked for its version. -/
def isAsked (name : String) (args : List Bytes) : Bool :=
  args.head? == some "--version".toList && !muteNames.contains name &&
    (!strictNames.contains name || args.length == 1)

/-- The programs of packages that have a version of their own. -/
def packages : List (List String × String) :=
  [(["bash", "rbash"], ""),
    (["grep", "egrep", "fgrep", "rgrep"], " (GNU grep) 3.8"),
    (["sed"], " (GNU sed) 4.9"),
    (["find", "xargs"], " (GNU findutils) 4.9.0"),
    (["diff", "cmp", "diff3", "sdiff"], " (GNU diffutils) 3.8"),
    (["tar"], " (GNU tar) 1.34"),
    (["gzip"], " 1.12"),
    (["rev", "setsid", "flock", "getopt", "logger", "more", "mount", "namei", "renice", "script",
      "su", "whereis"], " from util-linux 2.38.1")]

/-- The line that tells the version. -/
def line (name : String) : Bytes :=
  if name == "bash" || name == "rbash" then
    "GNU bash, version 5.2.15(1)-release (x86_64-pc-linux-gnu)\n".toList
  else
    let package := (packages.find? fun p => p.1.contains name).map Prod.snd
    (name ++ package.getD " (GNU coreutils) 9.1" ++ "\n").toList

/-- The status of a program that has told its version. -/
def status (name : String) : Nat :=
  if name == "false" then 1 else 0

end ScriptDeps.Shell.Version
