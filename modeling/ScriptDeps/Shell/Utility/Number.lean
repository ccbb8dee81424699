/-
The utilities that print numbers.

Numbers are decimal fractions: a whole number and how many of its digits stand behind the point.
-/
import ScriptDeps.Shell.Printing
import ScriptDeps.Shell.Utility

namespace ScriptDeps.Shell.Utility

/-! ### Sequences -/

/-- A number of a sequence: its digits, how many stand behind the point, and what is known of how it
was written. -/
structure Term where
  digits : Int
  places : Nat
  /-- The places that are shown, unless it was not written in decimal digits. -/
  shownPlaces : Option Nat
  width : Nat

/-- Why an argument is no number of a sequence. -/
inductive Misnumbered where
  | invalid
  | notNumber

/-- The number that an argument is, or nothing for one without end. -/
def termOf (arg : Bytes) : Except Misnumbered (Option Term) :=
  let text := arg.dropWhile Bytes.isSpace
  let (negative, size) := match text with
    | '-' :: s => (true, s)
    | '+' :: s => (false, s)
    | s => (false, s)
  let sign := fun (n : Nat) => if negative then -(n : Int) else n
  let word := String.ofList (size.map Char.toLower)
  if word == "inf" || word == "infinity" then .ok none
  else if word.startsWith "nan" then .error .notNumber
  else
    match size with
    | '0' :: x :: hex =>
      if (x == 'x' || x == 'X') && !hex.isEmpty && hex.all (fun c => (Arithmetic.digit? 16 c).isSome) then
        .ok (some ⟨sign (Arithmetic.inBase 16 hex), 0, none, arg.length⟩)
      else decimal sign text size
    | size => decimal sign text size
where
  /-- The number of decimal digits. -/
  decimal (sign : Nat → Int) (text size : Bytes) : Except Misnumbered (Option Term) :=
    let (whole, rest) := size.span Char.isDigit
    let (part, rest) := match rest with
      | '.' :: rest => rest.span Char.isDigit
      | rest => ([], rest)
    let hasPoint := (size.drop whole.length).head? == some '.'
    match Bytes.natural? (whole ++ part) with
    | none => .error .invalid
    | some n =>
      let exponent? : Option Int := match rest with
        | [] => some 0
        | e :: rest =>
          if e != 'e' && e != 'E' then none
          else
            match rest with
            | '-' :: d => (Bytes.natural? d).map fun n => -(n : Int)
            | '+' :: d => (Bytes.natural? d).map fun n => (n : Int)
            | d => (Bytes.natural? d).map fun n => (n : Int)
      match exponent? with
      | none => .error .invalid
      | some e =>
        let places := (part.length : Int) - e
        let shown := places.toNat
        let width := text.length + (if whole.isEmpty then 1 else 0) -
          (if hasPoint && part.isEmpty then 1 else 0)
        if 5000 < e.natAbs then .error .invalid
        else if 0 ≤ places then .ok (some ⟨sign n, places.toNat, some shown, width⟩)
        else .ok (some ⟨sign (n * Nat.pow 10 (-places).toNat), 0, some 0, width⟩)

/-- A whole number with a point before so many of its digits. -/
def withPlaces (places : Nat) (n : Int) : Bytes :=
  (if n < 0 then ['-'] else []) ++ Double.withPoint false places (Bytes.ofNat n.natAbs)

/-- The numbers from one to another in steps. -/
def counting (step : Int) (last : Option Int) : Nat → Int → List Int
  | 0, _ => []
  | fuel + 1, n =>
    if last.any fun last => (0 < step && last < n) || (step < 0 && n < last) then []
    else n :: counting step last fuel (n + step)

/-- A format for one number: what is in front of the directive, the directive, and what is behind. -/
structure NumberFormat where
  before : Bytes
  field : Printing.Field
  behind : Bytes

/-- The text of a format with its doubled percent signs made one, up to the first other. -/
def formatText : Nat → Bytes → Bytes × Bytes
  | 0, s => ([], s)
  | _, [] => ([], [])
  | fuel + 1, '%' :: '%' :: s => let (t, rest) := formatText fuel s; ('%' :: t, rest)
  | _, '%' :: s => ([], '%' :: s)
  | fuel + 1, c :: s => let (t, rest) := formatText fuel s; (c :: t, rest)

/-- The format that a text is. -/
def numberFormat (text : Bytes) : Except Bytes NumberFormat := do
  let bad := fun (what : String) =>
    (.error ("format ".toList ++ cited text ++ ' ' :: what.toList) : Except Bytes Unit)
  let (before, rest) := formatText (text.length + 1) text
  if rest.isEmpty then bad "has no % directive"
  let rest := rest.drop 1
  let (flags, rest) := rest.span fun c => "-+#0 '".toList.contains c
  let (width, rest) := rest.span Char.isDigit
  let (precision, rest) := match rest with
    | '.' :: rest => let (p, rest) := rest.span Char.isDigit; (some ((Bytes.natural? p).getD 0), rest)
    | rest => (none, rest)
  let rest := if rest.head? == some 'L' then rest.drop 1 else rest
  match rest with
  | [] =>
    bad "ends in %"
    return ⟨[], ⟨[], 0, none, 'g'⟩, []⟩
  | letter :: rest =>
    if !"efgaEFGA".toList.contains letter then bad ("has unknown %" ++ String.ofList [letter] ++ " directive")
    let (behind, more) := formatText (rest.length + 1) rest
    if !more.isEmpty then bad "has too many % directives"
    return ⟨before, ⟨flags, (Bytes.natural? width).getD 0, precision, letter⟩, behind⟩

/-- A number in a format. -/
def NumberFormat.show_ (f : NumberFormat) (places : Nat) (n : Int) : Bytes :=
  let d := (Double.ofRatio (n < 0) n.natAbs (Nat.pow 10 places)).1
  f.before ++ f.field.double d ++ f.behind

/-- How many terms of a sequence are looked at, if so many bytes are of an output without end. -/
def mostTerms (extent : Nat) : Nat :=
  4 * extent

/-- The options of a sequence and its numbers; a number with a minus sign is no option. -/
def sequenceOptions (k : Known) : Nat → List Bytes → Except Misuse Options
  | 0, args => .ok ⟨[], args⟩
  | fuel + 1, args =>
    match args with
    | ('-' :: c :: _) :: _ =>
      if c.isDigit || c == '.' then .ok ⟨[], args⟩
      else
        match readOptions k false 1 args with
        | .error m => .error m
        | .ok _ =>
          -- One option is read, and what is behind it in the same way.
          let first := args.take 1
          let alone := readOptions k false 3 first
          match alone with
          | .ok o =>
            if first == [['-', '-']] then .ok ⟨[], args.drop 1⟩
            else (sequenceOptions k fuel (args.drop 1)).map fun rest =>
              { rest with given := o.given ++ rest.given }
          | .error _ =>
            match readOptions k false 3 (args.take 2) with
            | .error m => .error m
            | .ok o => (sequenceOptions k fuel (args.drop 2)).map fun rest =>
                { rest with given := o.given ++ rest.given }
    | args => .ok ⟨[], args⟩

/-- Prints numbers in steps. -/
def sequence (args : List Bytes) (s : State) : State :=
  let known : Known := .of "f:s:w" "format=f separator=s equal-width=w version=! help=!"
  match sequenceOptions known (args.length + 1) args with
  | .error m => s.failed 1 (m.wording "seq")
  | .ok o =>
    let refuse := fun (text : Bytes) => refused "seq" (text ++ advice "seq") s
    match o.args with
    | [] => refuse "missing operand".toList
    | _ :: _ :: _ :: extra :: _ => refuse ("extra operand ".toList ++ cited extra)
    | operands =>
      match (o.value? 'f').mapM numberFormat with
      | .error text => refused "seq" text s
      | .ok format =>
        if o.has 'f' && o.has 'w' then
          refuse "format string may not be specified when printing equal width strings".toList
        else
          let terms := operands.mapM fun arg =>
            match termOf arg with
            | .ok t => Except.ok t
            | .error .invalid => .error ("invalid floating point argument: ".toList ++ cited arg)
            | .error .notNumber => .error ("invalid ".toList ++ cited "not-a-number".toList ++
                " argument: ".toList ++ cited arg)
          match terms with
          | .error text => refuse text
          | .ok terms =>
            let one : Term := ⟨1, 0, some 0, 1⟩
            let (first, step, last) := match terms with
              | [last] => (some one, some one, last)
              | [first, last] => (first, some one, last)
              | [first, step, last] => (first, step, last)
              | _ => (some one, some one, some one)
            match first, step with
            | some first, some step =>
              if step.digits == 0 then
                refuse ("invalid Zero increment value: ".toList ++ cited ((operands[1]?).getD []))
              else shownTerms s o format first step last
            | _, _ => s.done 0
where
  /-- Prints the numbers between two others. -/
  shownTerms (s : State) (o : Options) (format : Option NumberFormat) (first step : Term)
      (last : Option Term) : State :=
    let places := max (max first.places step.places) (last.elim 0 Term.places)
    let scaled := fun (t : Term) => t.digits * (Nat.pow 10 (places - t.places) : Nat)
    let stop := last.map scaled
    let most := mostTerms s.extent
    let count := stop.map fun l => (l - scaled first).natAbs / (scaled step).natAbs + 1
    let numbers := counting (scaled step) stop (min most (count.getD s.extent)) (scaled first)
    let precision := match first.shownPlaces, step.shownPlaces, last.elim (some 0) Term.shownPlaces with
      | some a, some b, some _ => some (max a b)
      | _, _, _ => none
    let lastTerm := last.getD first
    let width := match precision with
      | some p =>
        let widthOf := fun (t : Term) =>
          let own := t.places
          t.width + p - own - (if 0 < own && p == 0 then 1 else 0) + (if own == 0 && 0 < p then 1 else 0)
        max (widthOf first) (widthOf lastTerm)
      | none => 0
    let shown := fun (n : Int) =>
      match format, precision with
      | some f, _ => f.show_ places n
      | none, some p =>
        let text := withPlaces p (if p ≤ places then n.tdiv (Nat.pow 10 (places - p) : Nat) else n)
        if !o.has 'w' then text
        else
          let fill := List.replicate (width - text.length) '0'
          match text with
          | '-' :: digits => '-' :: fill ++ digits
          | digits => fill ++ digits
      | none, none => (Double.ofRatio (n < 0) n.natAbs (Nat.pow 10 places)).1.general false 6
    let between := (o.value? 's').getD ['\n']
    if numbers.isEmpty then s.done 0
    else
      let s := (s.say (Bytes.joinedBy between (numbers.map shown) ++ ['\n'])).done 0
      if count.all (most < ·) then s.going .endless else s

/-! ### Factors -/

/-- The prime factors of a number from one on; what has none below a bound is taken for a prime. -/
def factorsFrom : Nat → Nat → Nat → List Nat
  | 0, _, n => if n ≤ 1 then [] else [n]
  | fuel + 1, d, n =>
    if n ≤ 1 then []
    else if n < d * d then [n]
    else if n % d == 0 then d :: factorsFrom fuel d (n / d)
    else factorsFrom fuel (if d == 2 then 3 else d + 2) n

/-- Prints the prime factors of numbers. -/
def factorNumbers (args : List Bytes) (s : State) : State :=
  withOptions "factor" (.of "h" "exponents=h version=! help=!") args s fun o =>
    let (s, words) := if o.args.isEmpty then
        let words := (Text.splitOn ' ' (s.input.map fun c => if Bytes.isSpace c then ' ' else c)).filter
          (!·.isEmpty)
        (s.drained, words)
      else (s, o.args)
    forEach words s fun s word =>
      let text := word.dropWhile (· == ' ')
      let text := if text.head? == some '+' then text.drop 1 else text
      match Bytes.natural? text with
      | none => s.failed 1 ("factor: ".toList ++ cited word ++ " is not a valid positive integer".toList)
      | some n =>
        s.say (Bytes.ofNat n ++ ':' ::
          (factorsFrom 600000 2 n).flatMap (fun p => ' ' :: Bytes.ofNat p) ++ ['\n'])

end ScriptDeps.Shell.Utility
