/-
The utilities that tell the time and wait.
-/
import ScriptDeps.Shell.Calendar
import ScriptDeps.Shell.Utility

namespace ScriptDeps.Shell.Utility

/-! ### Waiting -/

/-- The milliseconds in a unit of time. -/
def unit? : Bytes → Option Nat
  | [] | ['s'] => some 1000
  | ['m'] => some 60000
  | ['h'] => some 3600000
  | ['d'] => some 86400000
  | _ => none

/-- The milliseconds of a time: digits, perhaps with a fraction, perhaps with a unit. -/
def duration? (arg : Bytes) : Option Nat := do
  let arg := match arg with
    | '+' :: arg => arg
    | arg => arg
  let whole := arg.takeWhile Char.isDigit
  let rest := arg.dropWhile Char.isDigit
  let (fraction, rest) := match rest with
    | '.' :: rest => (rest.takeWhile Char.isDigit, rest.dropWhile Char.isDigit)
    | rest => ([], rest)
  if whole.isEmpty && fraction.isEmpty then none
  let (exponent, rest) := match rest with
    | 'e' :: '-' :: more =>
      if more.any Char.isDigit then (-((Bytes.natural? (more.takeWhile Char.isDigit)).getD 0 : Int),
        more.dropWhile Char.isDigit) else (0, rest)
    | 'e' :: more =>
      if (more.head?.any Char.isDigit) then (((Bytes.natural? (more.takeWhile Char.isDigit)).getD 0 : Int),
        more.dropWhile Char.isDigit) else (0, rest)
    | rest => (0, rest)
  let scale ← unit? rest
  let digits := (Bytes.natural? (whole ++ fraction)).getD 0
  let places : Int := exponent - fraction.length
  some (if places < 0 then digits * scale / Nat.pow 10 (min places.natAbs 400)
    else digits * scale * Nat.pow 10 (min places.natAbs 20))

/-- The time is one without end. -/
def isEndless (arg : Bytes) : Bool :=
  ["inf", "infinity"].any fun n => arg.map Char.toLower == n.toList

def sleep (args : List Bytes) (s : State) : State :=
  withOptions "sleep" (letters "") args s fun o =>
    let bad := o.args.filter fun a => (duration? a).isNone && !isEndless a
    match o.args, bad with
    | [], _ => missingOperand "sleep" s
    | _, [] =>
      if o.args.any isEndless then s.going .endless
      else { s with clock := s.clock + (o.args.filterMap duration?).foldr (· + ·) 0 }.done 0
    | _, bad =>
      let lines := bad.map fun a => "sleep: invalid time interval ".toList ++ cited a ++ ['\n']
      s.failed 1 (lines.flatten ++ "Try 'sleep --help' for more information.".toList)

/-! ### Telling the time -/

/-- The moment when the clock of the machine starts. -/
def epoch : Int :=
  1767225600

/-- The zone that the shell is told, or universal time. -/
def zoneOf (s : State) (universal : Bool) : Zone :=
  if universal then .universal
  else
    match s.visible.lookup "TZ".toList with
    | some text => Zone.ofText text
    | none => .universal

/-- The moment of the clock. -/
def now (s : State) (zone : Zone) : Moment :=
  ⟨epoch + (s.clock / 1000 : Nat), s.clock % 1000 * 1000000, zone⟩

/-- The options of `date`. -/
def dateOptions : Known :=
  .of "d:f:I::r:Rs:uF:D" ("date=d file=f iso-8601=I reference=r rfc-email=R rfc-822=R rfc-2822=R set=s " ++
    "uct=u utc=u universal=u rfc-3339=F debug=D")

/-- The forms that a day and a time can be told in, by names of which the start is enough. -/
def dateForms (isStrict : Bool) : List (String × String) :=
  if isStrict then
    [("date", "%Y-%m-%d"), ("seconds", "%Y-%m-%d %H:%M:%S%:z"), ("ns", "%Y-%m-%d %H:%M:%S.%N%:z")]
  else
    [("hours", "%Y-%m-%dT%H%:z"), ("minutes", "%Y-%m-%dT%H:%M%:z"), ("date", "%Y-%m-%d"),
      ("seconds", "%Y-%m-%dT%H:%M:%S%:z"), ("ns", "%Y-%m-%dT%H:%M:%S,%N%:z")]

/-- The format of a named form, or the complaint that there is none. -/
def dateForm (isStrict : Bool) (arg : Bytes) : Except Bytes String :=
  let forms := dateForms isStrict
  if arg.isEmpty && !isStrict then .ok "%Y-%m-%d"
  else
    let meant := forms.filter fun (n, _) => arg.isPrefixOf n.toList
    match meant with
    | [(_, format)] => .ok format
    | _ =>
      let option := if isStrict then "--rfc-3339" else "--iso-8601"
      let kind := if arg.isEmpty || 1 < meant.length then "ambiguous" else "invalid"
      .error ((kind ++ " argument ").toList ++ cited arg ++ " for ".toList ++ cited option.toList ++
        "\nValid arguments are:".toList ++
        (forms.flatMap fun (n, _) => "\n  - ".toList ++ cited n.toList) ++ advice "date")

/-- The format that the options ask for, if they do, or what is wrong with them. -/
def givenForm (o : Options) : Except Bytes (Option String) := do
  let forms ← o.given.filterMapM fun (c, value) =>
    match c with
    | 'I' => (dateForm false value).map some
    | 'F' => (dateForm true value).map some
    | 'R' => .ok (some "%a, %d %b %Y %H:%M:%S %z")
    | _ => .ok none
  match forms with
  | [] => .ok none
  | [form] => .ok (some form)
  | _ => .error "multiple output formats specified".toList

/-- The lines of a moment in a format. -/
def dated (m : Moment) (format : Bytes) : Bytes :=
  m.format (format.length + 8) format ++ ['\n']

def date (args : List Bytes) (s : State) : State :=
  withOptions "date" dateOptions args s fun o =>
    let zone := zoneOf s (o.has 'u')
    let present := now s zone
    let refuse := fun (text : Bytes) => refused "date" text s
    let isGiven := o.has 'd' || o.has 'f' || o.has 'r' || o.has 's'
    match givenForm o with
    | .error text => refuse text
    | .ok form =>
      if 1 < (['d', 'f', 'r'].filter o.has).length then
        refuse ("the options to specify dates for printing are mutually exclusive".toList ++
          advice "date")
      else if o.has 's' && ['d', 'f', 'r'].any o.has then
        refuse ("the options to print and set the time may not be used together".toList ++
          advice "date")
      else
        match o.args with
        | _ :: extra :: _ => extraOperand "date" extra s
        | args =>
          let format? : Except Bytes Bytes := match args, form with
            | ['+' :: _], some _ => .error "multiple output formats specified".toList
            | ['+' :: format], none => .ok format
            | [arg], _ =>
              if isGiven then .error ("the argument ".toList ++ cited arg ++
                " lacks a leading '+';\nwhen using an option to specify date(s), any non-option\n".toList ++
                "argument must be a format string beginning with '+'".toList ++ advice "date")
              else if arg.all Char.isDigit && 8 ≤ arg.length then
                .error "cannot set date: Operation not permitted".toList
              else .error ("invalid date ".toList ++ cited arg)
            | _, form => .ok (form.getD "%a %b %e %H:%M:%S %Z %Y").toList
          match format? with
          | .error text => refuse text
          | .ok format =>
            let shown := fun (s : State) (text : Bytes) =>
              match present.ofText? text with
              | some m => s.say (dated m format)
              | none => refused "date" ("invalid date ".toList ++ cited text) s
            match o.value? 'd', o.value? 'f', o.value? 'r', o.value? 's' with
            | some text, _, _, _ => shown (s.done 0) text
            | _, some file, _, _ =>
              match contentOf "date" s file with
              | (s, none) => s
              | (s, some text) =>
                forEach (Bytes.lines text) s fun s line => shown s (bare line)
            | _, _, some file, _ =>
              match s.lookup file.path with
              | .ok _ => (s.say (dated (now { s with clock := 0 } zone) format)).done 0
              | .error fault => refused "date" (file ++ ": ".toList ++ fault.wording.toList) s
            | _, _, _, some text =>
              match present.ofText? text with
              | some m =>
                (refused "date" "cannot set date: Operation not permitted".toList s).say (dated m format)
              | none => refused "date" ("invalid date ".toList ++ cited text) s
            | _, _, _, _ => (s.say (dated present format)).done 0

end ScriptDeps.Shell.Utility
