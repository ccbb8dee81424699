/-
The commands about processes in the background and about signals.

A job that was started in the background is known to its shell until something has been told
about its end.  A trap is a text of commands for a signal, and the empty text means that the
signal does nothing.
-/
import ScriptDeps.Shell.Variable

namespace ScriptDeps.Shell

namespace State

/-- The job of a process. -/
def jobOf? (s : State) (process : Nat) : Option Job :=
  s.jobs.find? (·.process == process)

/-- The job that a text behind a percent sign names. -/
def namedJob? (s : State) (name : Bytes) : Option Job :=
  if ["", "%", "+"].contains (String.ofList name) then s.jobs.head?
  else if name == ['-'] then s.jobs[1]?
  else name.natural?.bind fun n => s.jobs.find? (·.number == n)

/-- The number for the next job.  Those that have been waited for make room. -/
def freeNumber (s : State) : Nat :=
  let taken := (s.jobs.filter fun j => !(j.waited && j.stop ≤ s.clock)).map Job.number
  ((List.range (taken.length + 1)).map (· + 1)).find? (!taken.contains ·) |>.getD 1

/-- The state with a process that has just been started in the background. -/
def withJob (s inner : State) (text : Bytes) : State :=
  let number := s.freeNumber
  let (deaf, heeded) := inner.traps.partition (·.2.isEmpty)
  -- What is to be run at the end is run after a signal as well in the extended dialect.
  let heeds := if inner.isExtended && heeded.any (·.1 == 0) then Signal.all else heeded.map Prod.fst
  let job : Job := ⟨number, inner.process, false, inner.clock, inner.finalStatus, inner.fate,
    deaf.map Prod.fst, heeds, text⟩
  { s with jobs := job :: s.jobs.filter (·.number != number), background := some inner.process }

/-- The state without what was to be run on some signal. -/
def withoutTrap (s : State) (signal : Nat) : State :=
  { s with traps := s.traps.filter (·.1 != signal) }

/-- Some signal would interrupt the shell. -/
def hasTraps (s : State) : Bool :=
  s.traps.any (!·.2.isEmpty)

/-- The state after a complaint about a process that has died of a signal. -/
def mourn (s : State) (signal : Option Nat) : State :=
  if s.isDoomed then s else ((signal.bind Signal.wording).map String.toList).elim s s.complain

/-- The state of a shell after one of its processes has ended. -/
def reaped (s inner : State) : State :=
  (((s.after inner).done inner.finalStatus).mourn inner.fate).settled

end State

namespace Builtin

/-! ### Waiting -/

/-- The signal that keeps a shell from waiting until some time. -/
def interruption? (s : State) (stop : Nat) : Option Alert :=
  s.pending.find? fun a =>
    a.process == s.process && a.time < stop && !s.ignores a.signal &&
      (!Signal.harmless.contains a.signal || (s.traps.lookup a.signal).isSome)

/-- The state after waiting until some time, unless a signal comes first. -/
def waitUntil (s : State) (stop : Nat) (f : State → State) : State :=
  match interruption? s stop with
  | some a => { s with clock := max s.clock a.time }.done (128 + a.signal)
  | none => f { s with clock := max s.clock stop }

/-- The state after waiting for a job. -/
def waitFor (s : State) (j : Job) : State :=
  waitUntil s j.stop fun s =>
    let s := { s with jobs := s.jobs.map fun (k : Job) =>
      if k.process == j.process then { k with waited := true } else k }
    (if j.waited then s else s.mourn j.signal).done j.status

/-- Waits for jobs, or for all of them. -/
def waitAll (args : List Bytes) (s : State) : State :=
  withLetters "" "" args s fun _ args =>
    if args.isEmpty then
      waitUntil s ((s.jobs.map Job.stop).foldr max 0) fun s =>
        { s with jobs := s.jobs.map fun (j : Job) => { j with waited := true } }.done 0
    else
      eachArgument args s fun s arg =>
        match arg with
        | '%' :: name =>
          (s.namedJob? name).elim (s.breaking ("No such job: ".toList ++ arg)) (waitFor s)
        | arg =>
          match arg.natural? with
          | none => s.breaking ("Illegal number: ".toList ++ arg)
          | some n => ((s.processOf? n).bind s.jobOf?).elim (s.done 127) (waitFor s)

/-! ### Listing -/

/-- What a job is doing, or how it has ended. -/
def jobWording (s : State) (j : Job) : Bytes :=
  if s.clock < j.stop then "Running".toList
  else
    match j.signal with
    | some signal => ((Signal.wording signal).getD "").toList
    | none => if j.status == 0 then "Done".toList
      else "Done(".toList ++ Bytes.ofNat j.status ++ [')']

/-- Lists jobs, the last one first.  Those that have ended are forgotten after that. -/
def listJobs (args : List Bytes) (s : State) : State :=
  withLetters "lp" "" args s fun given _ =>
    let lines := s.jobs.zipIdx.map fun (j, i) =>
      let process := Bytes.ofNat (State.shownNumber j.process)
      if (given.getLast?.map Prod.fst) == some 'p' then process ++ ['\n']
      else
        let mark := if i == 0 then '+' else if i == 1 then '-' else ' '
        let front := ['['] ++ Bytes.ofNat j.number ++ "] ".toList ++ [mark, ' '] ++
          (if given.isEmpty then [] else process ++ [' '])
        let text := front ++ jobWording s j
        text ++ List.replicate (33 - text.length) ' ' ++ ['\n']
    { s.say lines.flatten with jobs := s.jobs.filter fun j => s.clock < j.stop }.done 0

/-- Brings a job to the front, which takes control of jobs. -/
def resume (args : List Bytes) (s : State) : State :=
  withLetters "" "" args s fun _ args =>
    match args with
    | [] =>
      s.breaking <| if s.jobs.isEmpty then "No current job".toList
        else "job (null) not created under job control".toList
    | arg :: _ =>
      s.breaking <| if ((Text.dropStart? ['%'] arg).bind s.namedJob?).isSome then
          "job (null) not created under job control".toList
        else "No such job: ".toList ++ arg

/-! ### Sending signals -/

def killUsage : Bytes :=
  ("Usage: kill [-s sigspec | -signum | -sigspec] [pid | job]... or\n" ++
    "kill -l [exitstatus]").toList

/-- The process exists and has not been waited for. -/
def isAlive (s : State) (process : Nat) : Bool :=
  match s.jobOf? process with
  | some j => !j.waited || s.clock < j.stop
  | none => !s.spans.any fun p => p.process == process && p.stop ≤ s.clock

/-- Sends a signal to the process that an argument names. -/
def killOne (signal : Nat) (s : State) (arg : Bytes) : State :=
  let missing := fun (s : State) => (s.object "No such process\n".toList).done 1
  match arg with
  | '%' :: name =>
    if (s.namedJob? name).isNone then s.breaking ("No such job: ".toList ++ arg) else missing s
  | '-' :: number =>
    if (Bytes.natural? number).isNone then s.breaking ("Illegal number: ".toList ++ number) else missing s
  | arg =>
    match arg.natural? with
    | none => s.breaking ("Illegal number: ".toList ++ arg)
    | some n =>
      match (s.processOf? n).filter (isAlive s) with
      | some process => s.send process signal
      | none => missing s

/-- The name of a signal by its number, or by the status of a process that has died of it. -/
def nameSignal (args : List Bytes) (s : State) : State :=
  match args with
  | [] =>
    let names := Signal.all.filterMap Signal.name?
    (s.say (names.flatMap (· ++ ['\n']))).done 0
  | arg :: _ =>
    match arg.natural? with
    | none => s.breaking ("Illegal number: ".toList ++ arg)
    | some n =>
      let n := if 128 < n then n - 128 else n
      match (if n == 0 then none else Signal.name? n) with
      | some name => (s.say (name ++ ['\n'])).done 0
      | none => s.breaking ("invalid signal number or exit status: ".toList ++ arg)

/-- Sends a signal to processes, or names one. -/
def kill (args : List Bytes) (s : State) : State :=
  let sendAll := fun (signal : Nat) (args : List Bytes) (s : State) =>
    if args.isEmpty then s.breaking killUsage
    else
      args.foldl
        (fun s arg =>
          let before := s.status
          let s := if s.goesOn then killOne signal (s.done 0) arg else s
          if s.goesOn then s.done (max before s.status) else s)
        (s.done 0)
  match args with
  | [] => s.breaking killUsage
  | first :: rest =>
    match (Text.dropStart? ['-'] first).bind fun name =>
        (Signal.ofName? name).filter fun n => n != 0 || name == ['0'] with
    | some signal => sendAll signal rest s
    | none =>
      withLetters "l" "s" args s fun given args =>
        match given.getLast? with
        | none => sendAll Signal.terminate args s
        | some ('l', _) => nameSignal args s
        | some (_, name) =>
          match (Signal.ofName? name).filter fun n => n != 0 || name == ['0'] with
          | some signal => sendAll signal args s
          | none => s.breaking ("invalid signal number or name: ".toList ++ name)

/-! ### Traps -/

/-- The name of a signal among traps. -/
def trapName (signal : Nat) : Bytes :=
  if signal == 0 then "EXIT".toList else (Signal.name? signal).getD []

/-- Lists the traps. -/
def listTraps (s : State) : State :=
  let text := Signal.all.flatMap fun signal =>
    (s.traps.lookup signal).elim [] fun action =>
      "trap -- ".toList ++ quotedValue action ++ [' '] ++ trapName signal ++ ['\n']
  (s.say text).done 0

/-- Sets what is to be run on some signals, up to the first name that is no signal's. -/
def setTraps (action : Option Bytes) : List Bytes → State → State
  | [], s => s.done 0
  | name :: names, s =>
    match Signal.ofName? name with
    | none => s.failed 1 ("trap: ".toList ++ name ++ ": bad trap".toList)
    | some signal =>
      let s := s.withoutTrap signal
      setTraps action names (action.elim s fun a => { s with traps := (signal, a) :: s.traps })

/-- Sets or lists traps.  A dash, and a number in the place of commands, take them away. -/
def trap (args : List Bytes) (s : State) : State :=
  withLetters "" "" args s fun _ args =>
    match args with
    | [] => listTraps s
    | [name] => setTraps none [name] s
    | first :: names =>
      if first.natural?.any (· ≤ Signal.lastFree) then setTraps none (first :: names) s
      else setTraps (if first == ['-'] then none else some first) names s

end Builtin

end ScriptDeps.Shell
