/-
Formats with more than the least that is asked of them: characters by their numbers, and texts in
the quotes that a script needs around them.

The program and the shell with arrays read formats alike, and differ in what they complain about.
-/
import ScriptDeps.Shell.Printing
import ScriptDeps.Shell.Quoting
import ScriptDeps.Shell.Utility

namespace ScriptDeps.Shell.Utility.Format

open Printing Quoting

/-- Who reads the format. -/
inductive Reader where
  | program
  | shell
  deriving DecidableEq

/-! ### Texts in quotes -/

/-- Characters in runs of which all are shown, or none. -/
def runs : Bytes → List (Bool × Bytes)
  | [] => []
  | c :: s =>
    match runs s with
    | (kind, run) :: rest =>
      if kind == isShown c then (kind, c :: run) :: rest else (isShown c, [c]) :: (kind, run) :: rest
    | [] => [(isShown c, [c])]

/-- A text in the quotes that a script needs around it, if it needs any; what is not shown stands in
quotes of its own. -/
def quotedText (b : Bytes) : Bytes :=
  let text := Wide.ofBytes b
  if text.all isShown then shownName b
  else
    let inner := (runs text).flatMap fun (kind, run) =>
      let bytes := Wide.toBytes run
      if kind then bytes.flatMap fun c => if c == '\x27' then "'\\''".toList else [c]
      else "'$'".toList ++ bytes.flatMap escapedByte ++ "''".toList
    let whole := '\x27' :: inner
    -- A run at the end that is not shown has the last quote already.
    if (text.getLast?).any fun c => !isShown c then whole.dropLast else whole ++ ['\x27']

/-! ### Escapes -/

/-- What an escape stands for. -/
inductive Escape where
  | bytes (b : Bytes)
  /-- Nothing more is printed. -/
  | stop
  | missingDigits (letter : Char)
  | badNumber (text : Bytes)

/-- The hexadecimal digits at the front, so many at most, and what is behind them. -/
def hexDigits (most : Nat) (s : Bytes) : Bytes × Bytes :=
  let digits := (s.take most).takeWhile fun c => (Arithmetic.digit? 16 c).isSome
  (digits, s.drop digits.length)

/-- The program takes the number for one of a character: the first ones have shorter names, and some
numbers are halves of others. -/
def isNameable (n : Nat) : Bool :=
  (0xa0 ≤ n || n == 0x24 || n == 0x40 || n == 0x60) && !(0xd800 ≤ n && n < 0xe000)

/-- The character of a number that is told by so many digits, and what is behind them. -/
def numbered (who : Reader) (letter : Char) (most : Nat) (s : Bytes) : Escape × Bytes :=
  let (digits, rest) := hexDigits most s
  let n := Arithmetic.inBase 16 digits
  if digits.isEmpty || (who == .program && digits.length < most) then (.missingDigits letter, s)
  else if who == .program && !isNameable n then (.badNumber (letter :: digits), rest)
  else (.bytes (Wide.bytesOf (Char.ofNat n)), rest)

/-- The escape behind a backslash, and what is behind it.  In an argument octal digits may stand behind
a zero. -/
def escape (who : Reader) (inArgument : Bool) (s : Bytes) : Escape × Bytes :=
  match s with
  | [] => (.bytes ['\\'], [])
  | c :: rest =>
    if c == 'c' && (inArgument || who == .program) then (.stop, rest)
    else if c == 'x' then
      let (digits, behind) := hexDigits 2 rest
      if digits.isEmpty then (.missingDigits 'x', rest)
      else (.bytes [Char.ofNat (Arithmetic.inBase 16 digits)], behind)
    else if c == 'u' then numbered who 'u' 4 rest
    else if c == 'U' then numbered who 'U' 8 rest
    else if c == '"' || (who == .shell && (c == '\x27' || c == '?') && !inArgument) then (.bytes [c], rest)
    else if who == .shell && c == 'E' then (.bytes ['\x1b'], rest)
    else
      let (b, rest) := Printing.escape inArgument s
      (.bytes b, rest)

namespace Progress

/-- A complaint that does no harm. -/
def note (p : Printing.Progress) (b : Bytes) : Printing.Progress :=
  { p with complaints := b :: p.complaints }

/-- The end at a complaint. -/
def finish (p : Printing.Progress) (b : Bytes) : Printing.Progress :=
  { p.complain b with ended := true }

/-- The state after an escape was printed to a text, and that text. -/
def escaped (who : Reader) (p : Printing.Progress) (e : Escape) : Bytes × Printing.Progress :=
  match e with
  | .bytes b => (b, p)
  | .stop => ([], { p with ended := true })
  | .missingDigits letter =>
    if who == .program then ([], finish p "missing hexadecimal number in escape".toList)
    else
      let what := if letter == 'x' then "hex digit" else "unicode digit"
      (['\\', letter], note p (("missing " ++ what ++ " for \\").toList ++ [letter]))
  | .badNumber digits => ([], finish p ("invalid universal character name \\".toList ++ digits))

end Progress

open Progress

/-- The escapes of an argument in their meanings. -/
def unescaped (who : Reader) : Nat → Printing.Progress → Bytes → Bytes × Printing.Progress
  | 0, p, _ => ([], p)
  | _, p, [] => ([], p)
  | fuel + 1, p, '\\' :: s =>
    let (e, rest) := escape who true s
    let (front, p) := escaped who p e
    if p.ended then (front, p)
    else
      let (more, p) := unescaped who fuel p rest
      (front ++ more, p)
  | fuel + 1, p, s =>
    let (run, rest) := s.span (· != '\\')
    let (more, p) := unescaped who fuel p rest
    (run ++ more, p)

/-! ### Arguments -/

/-- The number of the character behind a quote, if the argument begins with one, with what is behind
it. -/
def quotedNumber? : Bytes → Option (Nat × Bytes)
  | q :: c :: s =>
    if q == '\x27' || q == '"' then
      match Wide.ofBytes (c :: s) with
      | w :: rest => some (if Wide.isStray w then c.toNat else w.toNat, Wide.toBytes rest)
      | [] => none
    else none
  | _ => none

/-- The complaint about an argument that is not all a number. -/
def checked (who : Reader) (p : Printing.Progress) (arg : Bytes) (found far : Bool) (rest : Bytes) :
    Printing.Progress :=
  match who with
  | .program =>
    if !found && !arg.isEmpty then p.complain (cited arg ++ ": expected a numeric value".toList)
    else if !rest.isEmpty then p.complain (cited arg ++ ": value not completely converted".toList)
    else if far then p.complain (cited arg ++ ": Numerical result out of range".toList)
    else p
  | .shell =>
    if (!found && !arg.isEmpty) || !rest.isEmpty then p.complain (arg ++ ": invalid number".toList)
    else if far then note p ("warning: ".toList ++ arg ++ ": Numerical result out of range".toList)
    else p

/-- The character behind a quote as a number. -/
def quotedArgument (who : Reader) (p : Printing.Progress) (n : Nat) (rest : Bytes) : Nat × Printing.Progress :=
  if rest.isEmpty || who == .shell then (n, p)
  else (n, note p ("warning: ".toList ++ rest ++
    ": character(s) following character constant have been ignored".toList))

/-- The next argument as a whole number. -/
def integer (who : Reader) (p : Printing.Progress) (isSigned : Bool) : Int × Printing.Progress :=
  match p.take with
  | (none, p) => (0, p)
  | (some arg, p) =>
    match quotedNumber? arg with
    | some (n, rest) =>
      let (n, p) := quotedArgument who p n rest
      (n, p)
    | none =>
      match Arithmetic.leading? arg with
      | none => (0, checked who p arg false false [])
      | some (n, rest) =>
        let limit : Int := UInt64.size
        if isSigned then (Arithmetic.clamp n, checked who p arg true (Arithmetic.clamp n != n) rest)
        else if limit ≤ n.natAbs then (limit - 1, checked who p arg true true rest)
        else (n % limit, checked who p arg true false rest)

/-- The next argument as a number with a point. -/
def double (who : Reader) (p : Printing.Progress) : Double × Printing.Progress :=
  let zero : Double := .finite false 0 0
  match p.take with
  | (none, p) => (zero, p)
  | (some arg, p) =>
    match quotedNumber? arg with
    | some (n, rest) =>
      let (n, p) := quotedArgument who p n rest
      ((Double.ofRatio false n 1).1, p)
    | none =>
      match Double.leading? arg with
      | none => (zero, checked who p arg false false [])
      | some (d, far, rest) => (d, checked who p arg true far rest)

/-! ### Fields -/

/-- A number that the format gives, or a star for the next argument. -/
def size (who : Reader) (p : Printing.Progress) (s : Bytes) : Option Int × Printing.Progress × Bytes :=
  match s with
  | '*' :: s =>
    let (n, p) := integer who p true
    (some n, p, s)
  | s =>
    let digits := s.takeWhile Char.isDigit
    (if digits.isEmpty then none else some (Arithmetic.inBase 10 digits : Nat), p, s.drop digits.length)

/-- The program takes the letter with these flags and this precision. -/
def isTaken (flags : Bytes) (hasPrecision : Bool) (letter : Char) : Bool :=
  "aAcdeEfFgGiosuxX".toList.contains letter &&
    !(flags.contains '#' && "cdisu".toList.contains letter) &&
    !(flags.contains '0' && "cs".toList.contains letter) &&
    !(flags.contains '\x27' && "aAceEosxX".toList.contains letter) &&
    !(hasPrecision && letter == 'c')

/-- The next argument as a field shows it, or nothing if there is no such field. -/
def show? (who : Reader) (p : Printing.Progress) (f : Printing.Field) : Option Printing.Progress :=
  match f.letter with
  | 's' =>
    let (arg, p) := p.take
    some (p.put (f.text (arg.getD [])))
  | 'b' =>
    let (arg, p) := p.take
    let arg := arg.getD []
    let (text, p) := unescaped who (arg.length + 1) p arg
    some (p.put (f.text text))
  | 'q' | 'Q' =>
    let (arg, p) := p.take
    let text := match who with
      | .program => arg.elim [] quotedText
      | .shell => marked (arg.getD [])
    some (p.put (f.text text))
  | 'c' =>
    let (arg, p) := p.take
    some (p.put (f.filled false [] [(arg.getD []).headD '\x00']))
  | 'd' | 'i' =>
    let (n, p) := integer who p true
    some (p.put (f.signed n))
  | 'o' | 'u' | 'x' | 'X' =>
    let (n, p) := integer who p false
    some (p.put (f.unsigned n.toNat))
  | 'n' =>
    let (_, p) := p.take
    some p
  | 'a' | 'A' | 'e' | 'E' | 'f' | 'F' | 'g' | 'G' =>
    let (d, p) := double who p
    some (p.put (f.double d))
  | _ => none

/-- How a moment is shown: by a format, at the time that an argument tells. -/
abbrev Dated := Bytes → Option Int → Bytes

/-- The field behind a percent sign printed, and what is behind it. -/
def field (who : Reader) (dated : Dated) (p : Printing.Progress) (s : Bytes) : Printing.Progress × Bytes :=
  let (flags, rest) := s.span fun c => ['#', '-', '+', ' ', '0', '\x27', 'I'].contains c
  let (width, p, rest) := size who p rest
  let flags := if width.any (· < 0) then '-' :: flags else flags
  let (precision, hasPrecision, p, rest) := match rest with
    | '.' :: rest =>
      let (n, p, rest) := size who p rest
      ((if n.any (· < 0) then none else some ((n.getD 0).toNat)), true, p, rest)
    | rest => (none, false, p, rest)
  let behind := rest.dropWhile fun c => ['h', 'l', 'L', 'j', 't', 'z'].contains c
  let written := fun (rest : Bytes) => '%' :: s.take (s.length - rest.length)
  match who, behind with
  | .program, letter :: rest =>
    let isPlain := letter == 'b' || letter == 'q'
    if (isPlain && s.head? == some letter) || isTaken flags hasPrecision letter then
      ((show? who p ⟨flags, (width.getD 0).natAbs, precision, letter⟩).getD p, rest)
    else (finish p (written rest ++ ": invalid conversion specification".toList), rest)
  | .program, [] => (finish p (written [] ++ ": invalid conversion specification".toList), [])
  | .shell, [] => (finish p ("\x60".toList ++ written [] ++ "': missing format character".toList), [])
  | .shell, '(' :: inside =>
    let (format, rest) := inside.span (· != ')')
    match rest with
    | ')' :: 'T' :: rest =>
      let isThere := !p.args.isEmpty
      let (n, p) := integer who p true
      let text := dated (if format.isEmpty then "%X".toList else format) (if isThere then some n else none)
      (p.put ((⟨flags, (width.getD 0).natAbs, precision, 's'⟩ : Printing.Field).text text), rest)
    | _ => (finish p ("\x60(': invalid format character".toList), rest)
  | .shell, letter :: rest =>
    match show? who p ⟨flags, (width.getD 0).natAbs, precision, letter⟩ with
    | some p => (p, rest)
    | none => (finish p ("\x60".toList ++ letter :: "': invalid format character".toList), rest)

/-- One pass over a format. -/
def pass (who : Reader) (dated : Dated) : Nat → Printing.Progress → Bytes → Printing.Progress
  | 0, p, _ => p
  | _, p, [] => p
  | fuel + 1, p, '%' :: '%' :: s => pass who dated fuel (p.put ['%']) s
  | fuel + 1, p, '%' :: s =>
    let (p, rest) := field who dated p s
    if p.ended then p else pass who dated fuel p rest
  | fuel + 1, p, '\\' :: s =>
    let (e, rest) := escape who false s
    let (front, p) := escaped who p e
    let p := p.put front
    if p.ended then p else pass who dated fuel p rest
  | fuel + 1, p, s =>
    let (run, rest) := s.span fun c => c != '%' && c != '\\'
    pass who dated fuel (p.put run) rest

/-- Passes over a format as long as they use arguments up and there are more. -/
def passes (who : Reader) (dated : Dated) (format : Bytes) : Nat → Printing.Progress → Printing.Progress
  | 0, p => p
  | fuel + 1, p =>
    let after := pass who dated (format.length + 1) p format
    if after.ended || after.args.isEmpty then after
    else if after.args.length == p.args.length then
      match who, after.args with
      | .program, arg :: _ =>
        note after ("warning: ignoring excess arguments, starting with ".toList ++ cited arg)
      | _, _ => after
    else passes who dated format fuel after

/-- What is printed for a format and its arguments. -/
def printed (who : Reader) (dated : Dated) (format : Bytes) (args : List Bytes) : Printing.Progress :=
  passes who dated format (args.length + 1) ⟨args, [], [], false, false, false⟩

/-- Prints a format with its arguments. -/
def print (args : List Bytes) (s : State) : State :=
  let args := if args.head? == some "--".toList then args.drop 1 else args
  match args with
  | [] => missingOperand "printf" s
  | format :: args =>
    let p := printed .program (fun _ _ => []) format args
    let s := p.complaints.reverse.foldl (fun s text => s.complain ("printf: ".toList ++ text)) s
    (s.say p.printed).done (if p.failed then 1 else 0)

end ScriptDeps.Shell.Utility.Format
