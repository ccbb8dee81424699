/-
What `echo` and `printf` print: escapes and formats.

A format is passed over again and again until its arguments are used up.  An argument that
is not the number a format asks for is complained about, and the part of it that is one
counts.
-/
import ScriptDeps.Shell.Double

namespace ScriptDeps.Shell.Printing

/-! ### Escapes -/

def isOctal (c : Char) : Bool :=
  '0' ≤ c && c ≤ '7'

/-- The byte that at most three octal digits stand for, and what is behind them. -/
def octalByte (s : Bytes) : Char × Bytes :=
  let digits := (s.take 3).takeWhile isOctal
  (Char.ofNat (Arithmetic.inBase 8 digits % 256), s.drop digits.length)

/-- The byte of an escape of one letter. -/
def letter? : Char → Option Char
  | 'a' => some '\x07'
  | 'b' => some '\x08'
  | 'e' => some '\x1b'
  | 'f' => some '\x0c'
  | 'n' => some '\n'
  | 'r' => some '\r'
  | 't' => some '\t'
  | 'v' => some '\x0b'
  | '\\' => some '\\'
  | _ => none

/-- The bytes of the escape behind a backslash, and what is behind it.  With `zero` a zero may
stand in front of its octal digits.  A backslash that begins none stands for itself. -/
def escape (zero : Bool) : Bytes → Bytes × Bytes
  | [] => (['\\'], [])
  | c :: s =>
    if zero && c == '0' then
      let (byte, s) := octalByte s
      ([byte], s)
    else if isOctal c then
      let (byte, s) := octalByte (c :: s)
      ([byte], s)
    else
      match letter? c with
      | some byte => ([byte], s)
      | none => (['\\', c], s)

/-- The escapes of a text in their meanings, and whether printing goes on after it: a `c` behind
a backslash ends it. -/
def unescape : Nat → Bytes → Bytes × Bool
  | 0, _ => ([], true)
  | _, [] => ([], true)
  | fuel + 1, '\\' :: s =>
    if s.head? == some 'c' then ([], false)
    else
      let (front, s) := escape true s
      let (rest, more) := unescape fuel s
      (front ++ rest, more)
  | fuel + 1, c :: s =>
    let (rest, more) := unescape fuel s
    (c :: rest, more)

/-- The escapes of a text in their meanings. -/
def unescaped (s : Bytes) : Bytes × Bool :=
  unescape s.length s

/-- What `echo` prints. -/
def echo (args : List Bytes) : Bytes :=
  let (quiet, args) := match args with
    | ['-', 'n'] :: rest => (true, rest)
    | args => (false, args)
  let (shown, more) := unescaped (Bytes.joined args)
  if quiet || !more then shown else shown ++ ['\n']

/-! ### Fields -/

/-- A field of a format. -/
structure Field where
  /-- The characters in front of the width. -/
  flags : Bytes
  width : Nat
  precision : Option Nat
  letter : Char

namespace Field

def has (f : Field) (flag : Char) : Bool :=
  f.flags.contains flag

/-- Text filled up to the width of the field, and with `zeros` with zeros behind a sign. -/
def filled (f : Field) (zeros : Bool) (sign text : Bytes) : Bytes :=
  let missing := f.width - (sign.length + text.length)
  if f.has '-' then sign ++ text ++ List.replicate missing ' '
  else if zeros && f.has '0' then sign ++ List.replicate missing '0' ++ text
  else List.replicate missing ' ' ++ sign ++ text

/-- How long a field may be. -/
def maxLength : Nat :=
  2147483647

/-- The field does not ask for more bytes than a field may have. -/
def isShort (f : Field) : Bool :=
  f.width ≤ maxLength && f.precision.all (· ≤ maxLength)

/-- Text cut to the precision of the field and filled up to its width. -/
def text (f : Field) (b : Bytes) : Bytes :=
  f.filled false [] (f.precision.elim b b.take)

/-- The sign of a number. -/
def sign (f : Field) (negative : Bool) : Bytes :=
  if negative then ['-'] else if f.has '+' then ['+'] else if f.has ' ' then [' '] else []

/-- Digits filled up to the precision; there are none of zero with precision zero. -/
def digits (f : Field) (n : Nat) (text : Bytes) : Bytes :=
  match f.precision with
  | some least => if n == 0 && least == 0 then [] else List.replicate (least - text.length) '0' ++ text
  | none => text

/-- A number with a sign. -/
def signed (f : Field) (n : Int) : Bytes :=
  f.filled f.precision.isNone (f.sign (n < 0)) (f.digits n.natAbs (Bytes.ofNat n.natAbs))

/-- A number without a sign, in the base of the letter. -/
def unsigned (f : Field) (n : Nat) : Bytes :=
  let text := f.digits n <| match f.letter with
    | 'o' => Nat.toDigits 8 n
    | 'x' => Nat.toDigits 16 n
    | 'X' => (Nat.toDigits 16 n).map Char.toUpper
    | _ => Bytes.ofNat n
  let text := if f.letter == 'o' && f.has '#' && text.head? != some '0' then '0' :: text else text
  let front := if !f.has '#' || n == 0 then []
    else if f.letter == 'x' then ['0', 'x'] else if f.letter == 'X' then ['0', 'X'] else []
  f.filled f.precision.isNone front text

/-- A number with a point. -/
def double (f : Field) (d : Double) : Bytes :=
  let places := f.precision.getD 6
  let point := f.has '#'
  let (front, text) := if !d.isFinite then ([], d.name)
    else
      match f.letter.toLower with
      | 'a' => (['0', 'x'], d.hexadecimal point f.precision)
      | 'f' => ([], d.fixed point places)
      | 'e' => ([], d.scientific point places)
      | _ => ([], d.general point places)
  let cased := fun (b : Bytes) => if f.letter.isUpper then b.map Char.toUpper else b
  f.filled d.isFinite (f.sign d.isNegative ++ cased front) (cased text)

end Field

/-! ### Formats -/

/-- What printing has come to. -/
structure Progress where
  args : List Bytes
  printed : Bytes
  /-- The complaints, the newest first. -/
  complaints : List Bytes
  failed : Bool
  /-- Nothing more is printed. -/
  ended : Bool
  /-- The format makes no sense. -/
  senseless : Bool

/-- The complaint about a format that is not there. -/
def usage : Bytes :=
  "usage: printf format [arg ...]".toList

namespace Progress

def put (p : Progress) (b : Bytes) : Progress :=
  { p with printed := p.printed ++ b }

/-- The next argument, if there is one. -/
def take (p : Progress) : Option Bytes × Progress :=
  (p.args.head?, { p with args := p.args.tail })

def complain (p : Progress) (b : Bytes) : Progress :=
  { p with complaints := b :: p.complaints, failed := true }

/-- The end at a complaint. -/
def stop (p : Progress) (b : Bytes) : Progress :=
  { p.complain b with ended := true, senseless := true }

/-- The complaint about an argument, if there is something behind its number or that is out of
range. -/
def checked (p : Progress) (arg : Bytes) (found far : Bool) (rest : Bytes) : Progress :=
  if !found && !arg.isEmpty then p.complain (arg ++ ": expected numeric value".toList)
  else if !rest.isEmpty then p.complain (arg ++ ": not completely converted".toList)
  else if far then p.complain (arg ++ ": Numerical result out of range".toList)
  else p

/-- The number of the byte behind a quote, if the argument begins with one. -/
def quoted? : Bytes → Option Nat
  | q :: s => if q == '\x27' || q == '"' then some ((s.head?.map Char.toNat).getD 0) else none
  | [] => none

/-- The next argument as a whole number. -/
def integer (p : Progress) (signed : Bool) : Int × Progress :=
  match p.take with
  | (none, p) => (0, p)
  | (some arg, p) =>
    match quoted? arg with
    | some n => (n, p)
    | none =>
      match Arithmetic.leading? arg with
      | none => (0, p.checked arg false false [])
      | some (n, rest) =>
        let limit : Int := UInt64.size
        if signed then (Arithmetic.clamp n, p.checked arg true (Arithmetic.clamp n != n) rest)
        else if limit ≤ n.natAbs then (limit - 1, p.checked arg true true rest)
        else (n % limit, p.checked arg true false rest)

/-- The next argument as a number with a point. -/
def double (p : Progress) : Double × Progress :=
  let zero : Double := .finite false 0 0
  match p.take with
  | (none, p) => (zero, p)
  | (some arg, p) =>
    match quoted? arg with
    | some n => ((Double.ofRatio false n 1).1, p)
    | none =>
      match Double.leading? arg with
      | none => (zero, p.checked arg false false [])
      | some (d, far, rest) => (d, p.checked arg true far rest)

/-- A number that the format gives, or a star for the next argument, of which 32 bits count. -/
def size (p : Progress) (s : Bytes) : Int × Progress × Bytes :=
  match s with
  | '*' :: s =>
    let (n, p) := p.integer true
    (n.bmod UInt32.size, p, s)
  | s => (Arithmetic.inBase 10 (s.takeWhile Char.isDigit), p, s.dropWhile Char.isDigit)

/-- The field behind a percent sign, if it is complete, and what is behind it. -/
def field (p : Progress) (s : Bytes) : Option (Field × Bytes) × Progress :=
  let isFlag := fun c => ['#', '-', '+', ' ', '0'].contains c
  let flags := s.takeWhile isFlag
  let (width, p, s) := p.size (s.dropWhile isFlag)
  let flags := if width < 0 then '-' :: flags else flags
  let (precision, p, s) := match s with
    | '.' :: s =>
      let (n, p, s) := p.size s
      (if n < 0 then none else some n.toNat, p, s)
    | s => (none, p, s)
  match s with
  | [] => (none, p)
  | letter :: s => (some (⟨flags, width.natAbs, precision, letter⟩, s), p)

/-- The next argument as a field shows it, or nothing if there is no such field. -/
def show? (p : Progress) (f : Field) : Option Progress :=
  match f.letter with
  | 's' =>
    let (arg, p) := p.take
    some (p.put (f.text (arg.getD [])))
  | 'b' =>
    let (arg, p) := p.take
    let (text, more) := unescaped (arg.getD [])
    some { p.put (f.text text) with ended := !more }
  | 'c' =>
    let (arg, p) := p.take
    some (p.put (f.filled false [] [(arg.getD []).headD '\x00']))
  | 'd' | 'i' =>
    let (n, p) := p.integer true
    some (p.put (f.signed n))
  | 'o' | 'u' | 'x' | 'X' =>
    let (n, p) := p.integer false
    some (p.put (f.unsigned n.toNat))
  | 'a' | 'A' | 'e' | 'E' | 'f' | 'F' | 'g' | 'G' =>
    let (d, p) := p.double
    some (p.put (f.double d))
  | _ => none

/-- One pass over a format. -/
def pass (p : Progress) : Nat → Bytes → Progress
  | 0, _ => p
  | _, [] => p
  | fuel + 1, '%' :: '%' :: s => (p.put ['%']).pass fuel s
  | fuel + 1, '%' :: s =>
    match p.field s with
    | (none, p) => p.stop "missing format character".toList
    | (some (f, rest), p) =>
      match (if f.isShort then p.show? f else some (p.stop "xvsnprintf failed".toList)) with
      | none => p.stop ('%' :: s.take (s.length - rest.length) ++ ": invalid directive".toList)
      | some p => if p.ended then p else p.pass fuel rest
  | fuel + 1, '\\' :: s =>
    let (front, s) := escape false s
    (p.put front).pass fuel s
  | fuel + 1, c :: s => (p.put [c]).pass fuel s

/-- Passes over a format as long as they use arguments up and there are more. -/
def passes (p : Progress) (format : Bytes) : Nat → Progress
  | 0 => p
  | fuel + 1 =>
    let after := p.pass format.length format
    if after.ended || after.args.isEmpty || after.args.length == p.args.length then after
    else after.passes format fuel

end Progress

/-- What `printf` prints for a format and its arguments. -/
def printf (format : Bytes) (args : List Bytes) : Progress :=
  Progress.passes ⟨args, [], [], false, false, false⟩ format (args.length + 1)

end ScriptDeps.Shell.Printing
