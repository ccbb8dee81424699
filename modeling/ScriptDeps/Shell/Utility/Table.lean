/-
The utilities of the machine by their names.
-/
import ScriptDeps.Shell.Utility.Column
import ScriptDeps.Shell.Utility.Compare
import ScriptDeps.Shell.Utility.Dump
import ScriptDeps.Shell.Utility.Exchange
import ScriptDeps.Shell.Utility.Expression
import ScriptDeps.Shell.Utility.File
import ScriptDeps.Shell.Utility.Identity
import ScriptDeps.Shell.Utility.Installation
import ScriptDeps.Shell.Utility.Judge
import ScriptDeps.Shell.Utility.Line
import ScriptDeps.Shell.Utility.Listing
import ScriptDeps.Shell.Utility.Name
import ScriptDeps.Shell.Utility.Number
import ScriptDeps.Shell.Utility.Part
import ScriptDeps.Shell.Utility.Piece
import ScriptDeps.Shell.Utility.Search
import ScriptDeps.Shell.Utility.Time

namespace ScriptDeps.Shell.Utility

/-- What `echo` as a program prints: only with an option escapes mean something. -/
def echoed : Bool → Bool → List Bytes → Bytes
  | quiet, _, [] => if quiet then [] else ['\n']
  | quiet, escapes, arg :: rest =>
    match arg with
    | '-' :: c :: letters =>
      if (c :: letters).all fun c => ['n', 'e', 'E'].contains c then
        let last := ((c :: letters).filter (· != 'n')).getLast?
        echoed (quiet || (c :: letters).contains 'n') (last.elim escapes (· == 'e')) rest
      else shown quiet escapes (arg :: rest)
    | arg => shown quiet escapes (arg :: rest)
where
  /-- The arguments that are no options. -/
  shown (quiet escapes : Bool) (args : List Bytes) : Bytes :=
    let text := Bytes.joined args
    let (text, more) := if escapes then Printing.unescaped text else (text, true)
    if quiet || !more then text else text ++ ['\n']

/-- The utilities. -/
def table : List (String × (List Bytes → State → State)) :=
  [("true", fun _ s => s.done 0),
    ("false", fun _ s => s.done 1),
    ("echo", fun args s => (s.say (echoed false false args)).done 0),
    ("printf", Format.print),
    ("test", Judge.judge "test"),
    ("[", fun args s =>
      if args.getLast? == some [']'] then Judge.judge "[" args.dropLast s
      else s.failed 2 ("[: missing ".toList ++ cited [']'])),
    ("pwd", fun _ s => (s.say (Bytes.ofText (Store.pathOf s.store.cwd).text ++ ['\n'])).done 0),
    ("cat", concatenate),
    ("head", head),
    ("tail", tail),
    ("tr", Exchange.exchange),
    ("wc", countText),
    ("cut", cutLines),
    ("sort", sortLines),
    ("uniq", uniqueLines),
    ("tee", tee),
    ("seq", sequence),
    ("tac", reverseLines),
    ("rev", reverseBytes),
    ("nl", numberLines),
    ("paste", paste),
    ("comm", commonLines),
    ("join", joinLines),
    ("fold", foldLines),
    ("expand", expandTabs),
    ("unexpand", unexpandTabs),
    ("tsort", sortParts),
    ("factor", factorNumbers),
    ("cksum", checksumFiles),
    ("sum", sumFiles),
    ("od", dump),
    ("base64", encode base64),
    ("base32", encode base32),
    ("grep", search),
    ("egrep", fun args => search ("-E".toList :: args)),
    ("fgrep", fun args => search ("-F".toList :: args)),
    ("expr", evaluate),
    ("cmp", compareFiles),
    ("diff", diff),
    ("sleep", sleep),
    ("date", date),
    ("mkdir", makeDirectories),
    ("touch", touch),
    ("cp", copy),
    ("mv", move),
    ("rm", removeFiles),
    ("unlink", unlink),
    ("ln", makeLinks),
    ("link", makeLink),
    ("mktemp", makeTemporary),
    ("stat", tellStatus),
    ("rmdir", removeDirectories),
    ("chmod", changeMode),
    ("ls", listFiles),
    ("dir", fun args => listFiles ("-C".toList :: args)),
    ("vdir", fun args => listFiles ("-l".toList :: args)),
    ("dirname", directoryNames),
    ("basename", baseNames),
    ("realpath", realPaths),
    ("readlink", readLinks),
    ("sync", fun _ s => s.done 0),
    ("truncate", truncate),
    ("split", split),
    ("dd", copyBlocks),
    ("install", install),
    ("id", tellIdentity),
    ("groups", tellGroups),
    ("whoami", tellUser),
    ("logname", tellLogin),
    ("chown", changeOwner),
    ("chgrp", changeGroup),
    ("uname", tellMachine),
    ("arch", tellMachineKind),
    ("nproc", tellProcessors),
    ("hostname", tellMachineName),
    ("tty", tellTerminal),
    ("which", tellPlaces)] ++
  digestKinds.map fun k => (k.name, digestFiles k)

/-- The names of the utilities. -/
def names : List String :=
  table.map Prod.fst

/-- The complaint of a utility that could not print. -/
def unprinted (name : String) (why : String) : Bytes :=
  match name with
  | "cat" => if why == "Broken pipe" then "cat: write error: Broken pipe".toList
    else ("cat: standard output: " ++ why).toList
  | "head" | "tail" => (name ++ ": error writing 'standard output': " ++ why).toList
  | "tee" => (name ++ ": 'standard output': " ++ why).toList
  | "sed" => ("sed: couldn't write to output: " ++ why).toList
  | _ => (name ++ ": write error: " ++ why).toList

/-- The state after a utility, or nothing if there is none of that name. -/
def run? (name : String) (args : List Bytes) (s : State) : Option State :=
  (table.lookup name).map fun f =>
    let s := f args { s with unwritten := none }
    match s.unwritten with
    | some why =>
      { s.complain (unprinted name why) with unwritten := none }.done (if name == "grep" then 2 else 1)
    | none => s

end ScriptDeps.Shell.Utility
