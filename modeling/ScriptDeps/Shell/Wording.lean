/-
Commands as a script writes them.

A command is told from what was read, so the text that a script has may differ from it: quotes are put where
they are needed, and each command of a function stands on a line of its own.
-/
import ScriptDeps.Shell.Quoting

namespace ScriptDeps.Shell.Wording

/-- How far commands inside others stand to the right. -/
def step : Nat :=
  4

/-- So many spaces. -/
def indent (n : Nat) : Bytes :=
  List.replicate n ' '

/-- A line end and what follows it. -/
def line (place : Nat) (text : String) : Bytes :=
  '\n' :: indent place ++ text.toList

/-- A text with a semicolon, unless it has an end already. -/
def closed (text : Bytes) : Bytes :=
  match text.getLast? with
  | some '&' | some '\n' => text
  | _ => text ++ [';']

/-- Texts with a space between each two. -/
def spaced (texts : List Bytes) : Bytes :=
  Bytes.joined (texts.filter (!·.isEmpty))

/-- A number in front of a redirection, unless it is the usual one. -/
def number (usual n : Nat) : Bytes :=
  if n == usual then [] else Bytes.ofNat n

/-- The sign of what braces do for a variable that is not there. -/
def fallbackSign : Fallback → Char
  | .use => '-'
  | .assign => '='
  | .refuse => '?'
  | .replace => '+'

/-- The sign of a cut. -/
def cutSign (c : Cut) : Bytes :=
  let sign := if c.fromStart then '#' else '%'
  if c.longest then [sign, sign] else [sign]

/-- The sign of a replacement. -/
def scopeSign : Scope → Bytes
  | .first => "/".toList
  | .all => "//".toList
  | .start => "/#".toList
  | .finish => "/%".toList

/-- The sign of a change of letters. -/
def recasingSign (kind : Recasing) (all : Bool) : Bytes :=
  let sign := match kind with
    | .upper => '^'
    | .lower => ','
    | .turned => '~'
  if all then [sign, sign] else [sign]

/-- The end of an arm. -/
def armSign : ArmEnd → String
  | .stop => ";;"
  | .fall => ";&"
  | .retry => ";;&"

/-- The sign between two operands. -/
def sign (adds : Bool) : Bytes :=
  if adds then ['+', '='] else ['=']

/-- Texts in double quotes where they stand in quotes; those that stand next to each other share them. -/
def quotedRuns : List (Bytes × Bool) → Bytes
  | [] => []
  | (text, false) :: rest => text ++ quotedRuns rest
  | (text, true) :: rest =>
    match rest with
    | (more, true) :: others =>
      match quotedRuns ((more, true) :: others) with
      | '"' :: behind => '"' :: text ++ behind
      | behind => '"' :: text ++ '"' :: behind
    | rest => '"' :: text ++ '"' :: quotedRuns rest

mutual

/-- A word. -/
def word : Nat → Word → Bytes
  | 0, _ => []
  | fuel + 1, w => quotedRuns (w.map (part fuel))

/-- A word without any quotes. -/
def bare : Nat → Word → Bytes
  | 0, _ => []
  | fuel + 1, w => w.flatMap fun
    | .text bytes _ => bytes
    | p => (part fuel p).1

/-- A part of a word, and whether it stands in quotes. -/
def part : Nat → Part → Bytes × Bool
  | 0, _ => ([], false)
  | fuel + 1, p =>
    let inBraces := fun (text : Bytes) => "$\x7b".toList ++ text ++ ['\x7d']
    match p with
    | .text bytes quoted => if quoted && bytes != [] then
        (if bytes.all fun c => c.isAlphanum || Bytes.isBlank c then (bytes, true) else (Quoting.ifNeeded bytes, false))
      else (bytes, quoted)
    | .variable name quoted => ('$' :: name, quoted)
    | .length name quoted => (inBraces ('#' :: name), quoted)
    | .choice name kind colon w quoted =>
      (inBraces (name ++ (if colon then [':'] else []) ++ fallbackSign kind ::
        (if quoted then bare fuel w else word fuel w)), quoted)
    | .cut name kind w quoted => (inBraces (name ++ cutSign kind ++ word fuel w), quoted)
    | .output c quoted => ("$(".toList ++ command fuel false 0 true c ++ [')'], quoted)
    | .number w quoted => ("$((".toList ++ bare fuel w ++ "))".toList, quoted)
    | .senseless => (inBraces [], false)
    | .home sign => ('~' :: sign, false)
    | .fed isRead c => ((if isRead then '<' else '>') :: '(' :: command fuel false 0 true c ++ [')'], false)
    | .place (.mk name key adds) =>
      (name ++ key.elim [] (fun key => '[' :: word fuel key ++ [']']) ++ sign adds, false)
    | .items items =>
      let texts := items.map fun (key, adds, w) =>
        key.elim [] (fun key => '[' :: word fuel key ++ ']' :: sign adds) ++ word fuel w
      ('(' :: Bytes.joined texts ++ [')'], false)
    | .braced (.mk name key indirect) operation quoted =>
      let subject := (if indirect then ['!'] else []) ++ name ++
        match key with
        | .none => []
        | .each => "[@]".toList
        | .joined => "[*]".toList
        | .one w => '[' :: word fuel w ++ [']']
      let text := match operation with
        | .value => subject
        | .length => '#' :: subject
        | .keys => '!' :: subject
        | .names => '!' :: name ++ (if key matches .each then ['@'] else ['*'])
        | .choice kind colon w => subject ++ (if colon then [':'] else []) ++ fallbackSign kind ::
            (if quoted then bare fuel w else word fuel w)
        | .cut kind w => subject ++ cutSign kind ++ word fuel w
        | .slice start count =>
          subject ++ ':' :: bare fuel start ++ count.elim [] fun count => ':' :: bare fuel count
        | .replace scope pattern w => subject ++ scopeSign scope ++ word fuel pattern ++ '/' :: word fuel w
        | .recase kind all pattern => subject ++ recasingSign kind all ++ word fuel pattern
        | .transform letter => subject ++ ['@', letter]
        | .unknown text => text
      (match operation with
        | .unknown text => text
        | _ => inBraces text, quoted)

/-- What is assigned. -/
def assignment : Nat → Place × Word → Bytes
  | 0, _ => []
  | fuel + 1, (place, w) => (part fuel (.place place)).1 ++ word fuel w

/-- A redirection. -/
def redirect : Nat → Redirect → Bytes
  | 0, _ => []
  | fuel + 1, r =>
    let told := fun (front : Nat → Bytes) (change : Redirection) =>
      match change with
      | .read w => front 0 ++ "< ".toList ++ word fuel w
      | .write w => front 1 ++ "> ".toList ++ word fuel w
      | .replace w => front 1 ++ ">| ".toList ++ word fuel w
      | .append w => front 1 ++ ">> ".toList ++ word fuel w
      | .both w => front 0 ++ "<> ".toList ++ word fuel w
      | .copy w => front 1024 ++ ">&".toList ++ word fuel w
      | .here text => front 0 ++ "<<EOF\n".toList ++ bare fuel text ++ "EOF\n".toList
      | .line w => front 0 ++ "<<< ".toList ++ word fuel w
      | .writeAll w => "&> ".toList ++ word fuel w
      | .appendAll w => "&>> ".toList ++ word fuel w
    match r with
    | .mk n change => told (fun usual => number usual n) change
    | .named name change => told (fun _ => '\x7b' :: name ++ ['\x7d']) change

/-- A condition between double brackets. -/
def condition : Nat → Condition → Bytes
  | 0, _ => []
  | fuel + 1, c =>
    match c with
    | .ask operator w => operator ++ ' ' :: word fuel w
    | .compare a operator b => word fuel a ++ ' ' :: operator ++ ' ' :: word fuel b
    | .not c => "! ".toList ++ condition fuel c
    | .and a b => condition fuel a ++ " && ".toList ++ condition fuel b
    | .or a b => condition fuel a ++ " || ".toList ++ condition fuel b

/-- A command.  Those of a function stand on lines of their own; `goesOn` tells that the line has begun. -/
def command : Nat → Bool → Nat → Bool → Command → Bytes
  | 0, _, _, _, _ => []
  | fuel + 1, apart, place, goesOn, c =>
    let front := if goesOn then [] else indent place
    let further := command fuel apart (place + step) false
    let here := command fuel apart place true
    let round := fun (body : Command) =>
      line place "do\n" ++ closed (further body) ++ line place "done"
    let words := fun (ws : Option (List Word)) =>
      (ws.map fun ws => Bytes.joined (ws.map (word fuel))).getD "\"$@\"".toList
    let behind := fun (rs : List Redirect) => rs.flatMap fun r => ' ' :: redirect fuel r
    front ++
      match c with
      | .skip => []
      | .simple _ assigned ws redirects =>
        spaced (assigned.map (assignment fuel) ++ ws.map (word fuel) ++ redirects.map (redirect fuel))
      | .pipeline cs => Bytes.joinedBy " | ".toList (cs.map here)
      | .not c => "! ".toList ++ here c
      | .and a b => here a ++ " && ".toList ++ here b
      | .or a b => here a ++ " || ".toList ++ here b
      | .background c => here c ++ " &".toList
      | .sequence a b =>
        let first := here a
        if first.getLast? == some '&' then first ++ ' ' :: here b
        else if apart then first ++ ";\n".toList ++ command fuel apart place false b
        else first ++ "; ".toList ++ here b
      | .group _ c redirects =>
        let isGroup := match c with
          | .simple .. | .sequence .. | .and .. | .or .. | .pipeline .. | .not .. | .background .. => true
          | _ => false
        (if !isGroup then here c
          else if apart then "\x7b \n".toList ++ further c ++ line place "\x7d"
          else "\x7b ".toList ++ closed (here c) ++ " \x7d".toList) ++ behind redirects
      | .subshell _ c redirects => "( ".toList ++ here c ++ " )".toList ++ behind redirects
      | .branch test yes no =>
        let others := match no with
          | .skip => []
          | no => [';'] ++ line place "else\n" ++ further no
        "if ".toList ++ closed (here test) ++ " then\n".toList ++ closed (further yes ++ others) ++ line place "fi"
      | .loop goal test body =>
        (if goal then "while " else "until ").toList ++ closed (here test) ++ " do\n".toList ++
          closed (further body) ++ line place "done"
      | .each _ name ws body => "for ".toList ++ name ++ " in ".toList ++ words ws ++ ';' :: round body
      | .choose _ name ws body => "select ".toList ++ name ++ " in ".toList ++ words ws ++ ';' :: round body
      | .count _ start goal next body =>
        "for ((".toList ++ bare fuel start ++ "; ".toList ++ bare fuel goal ++ "; ".toList ++ bare fuel next ++
          "))".toList ++ round body
      | .cases _ w arms =>
        let shown := arms.map fun (patterns, body, ending) =>
          line (place + step) "" ++ Bytes.joinedBy " | ".toList (patterns.map (word fuel)) ++ ")\n".toList ++
            command fuel apart (place + 2 * step) false body ++ line (place + step) (armSign ending)
        "case ".toList ++ word fuel w ++ " in ".toList ++ shown.flatten ++ line place "esac"
      | .define _ name body => "function ".toList ++ name ++ " () \n".toList ++ indent place ++ function fuel place body
      | .calculate _ w => "((".toList ++ bare fuel w ++ "))".toList
      | .test _ c => "[[ ".toList ++ condition fuel c ++ " ]]".toList
      | .timed short c => (if short then "time -p " else "time ").toList ++ here c

/-- The body of a function. -/
def function : Nat → Nat → Command → Bytes
  | 0, _, _ => []
  | fuel + 1, place, body =>
    let inside := match body with
      | .group _ c [] => c
      | c => c
    "\x7b \n".toList ++ command fuel true (place + step) false inside ++ line place "\x7d"

end

/-- How deep commands are told. -/
def depth : Nat :=
  1000

/-- The command in one line, as far as it has one. -/
def brief (c : Command) : Bytes :=
  command depth false 0 true c

/-- A function with its name. -/
def definition (name : Bytes) (body : Command) : Bytes :=
  name ++ " () \n".toList ++ function depth 0 body ++ ['\n']

end ScriptDeps.Shell.Wording
