/-
Days and times.

A moment is a number of seconds since the start of 1970 in universal time.  It is shown in a zone,
which is some seconds ahead of that time.
-/
import ScriptDeps.Shell.Bytes

namespace ScriptDeps.Shell

/-- A day: the year, the month and the day of the month. -/
structure Day where
  year : Int
  month : Nat
  day : Nat
  deriving DecidableEq, Repr

namespace Day

def isLeapYear (year : Int) : Bool :=
  (year % 4 == 0 && year % 100 != 0) || year % 400 == 0

/-- The number of days of a month. -/
def monthLength (year : Int) (month : Nat) : Nat :=
  match month with
  | 2 => if isLeapYear year then 29 else 28
  | 4 | 6 | 9 | 11 => 30
  | _ => 31

/-- The number of days since the start of 1970.  Months are counted from March, so that the day that
some years have more is the last one. -/
def number (d : Day) : Int :=
  let year := if d.month ≤ 2 then d.year - 1 else d.year
  let era := year / 400
  let ofEra := year - era * 400
  let month : Int := (d.month + 9) % 12
  let ofYear := (153 * month + 2) / 5 + d.day - 1
  let days := ofEra * 365 + ofEra / 4 - ofEra / 100 + ofYear
  era * 146097 + days - 719468

/-- The day of a number. -/
def ofNumber (n : Int) : Day :=
  let n := n + 719468
  let era := n / 146097
  let ofEra := n - era * 146097
  let yearOfEra := (ofEra - ofEra / 1460 + ofEra / 36524 - ofEra / 146096) / 365
  let ofYear := ofEra - (365 * yearOfEra + yearOfEra / 4 - yearOfEra / 100)
  let m := (5 * ofYear + 2) / 153
  let day := ofYear - (153 * m + 2) / 5 + 1
  let month := if m < 10 then m + 3 else m - 9
  let year := yearOfEra + era * 400 + (if month ≤ 2 then 1 else 0)
  ⟨year, month.toNat, day.toNat⟩

/-- The day of the week, Sunday being zero. -/
def weekday (d : Day) : Nat :=
  ((d.number + 4) % 7).toNat

/-- The day of the year, the first one being one. -/
def ofYear (d : Day) : Nat :=
  (d.number - (Day.mk d.year 1 1).number).toNat + 1

/-- The week by the rule that a week belongs to the year that has most of it: the year and the
week. -/
def isoWeek (d : Day) : Int × Nat :=
  let monday := (d.weekday + 6) % 7
  let thursday := ofNumber (d.number - monday + 3)
  (thursday.year, (thursday.ofYear - 1) / 7 + 1)

/-- The week of the year where weeks begin on a day. -/
def week (d : Day) (first : Nat) : Nat :=
  (d.ofYear - 1 + 7 - (d.weekday + 7 - first) % 7) / 7

/-- The day exists. -/
def isValid (d : Day) : Bool :=
  1 ≤ d.month && d.month ≤ 12 && 1 ≤ d.day && d.day ≤ monthLength d.year d.month

end Day

/-- A zone: how many seconds it is ahead, and its name. -/
structure Zone where
  ahead : Int
  name : Bytes

/-- Universal time. -/
def Zone.universal : Zone :=
  ⟨0, "UTC".toList⟩

/-- A moment in a zone. -/
structure Moment where
  seconds : Int
  nanoseconds : Nat
  zone : Zone

namespace Moment

def local_ (m : Moment) : Int :=
  m.seconds + m.zone.ahead

def day (m : Moment) : Day :=
  .ofNumber (m.local_ / 86400)

/-- The seconds of the day. -/
def ofDay (m : Moment) : Nat :=
  (m.local_ % 86400).toNat

def hour (m : Moment) : Nat :=
  m.ofDay / 3600

def minute (m : Moment) : Nat :=
  m.ofDay / 60 % 60

def second (m : Moment) : Nat :=
  m.ofDay % 60

end Moment

/-- The names of the months. -/
def monthNames : List String :=
  ["January", "February", "March", "April", "May", "June", "July", "August", "September", "October",
    "November", "December"]

/-- The names of the days of the week. -/
def weekdayNames : List String :=
  ["Sunday", "Monday", "Tuesday", "Wednesday", "Thursday", "Friday", "Saturday"]

/-! ### Formats -/

/-- How a part of a moment is filled up. -/
structure TimeField where
  fill : Option Char
  upper : Bool
  swapped : Bool
  width : Option Nat

namespace TimeField

/-- A number filled up to a width, with a fill that the field may change. -/
def number (f : TimeField) (standard : Char) (width : Nat) (n : Int) : Bytes :=
  let fill := f.fill.getD standard
  let digits := Bytes.ofNat n.natAbs
  let sign := if n < 0 then ['-'] else []
  if fill == '-' then sign ++ digits
  else
    let width := f.width.getD width
    let missing := width - digits.length - sign.length
    if fill == '_' then List.replicate missing ' ' ++ sign ++ digits
    else sign ++ List.replicate missing '0' ++ digits

/-- A text filled up to the width of the field. -/
def text (f : TimeField) (b : Bytes) : Bytes :=
  let b := if f.upper then b.map Char.toUpper else b
  let missing := (f.width.getD 0) - b.length
  List.replicate missing (if f.fill == some '0' then '0' else ' ') ++ b

end TimeField

/-- How far a zone is ahead, with so many colons. -/
def zoneText (ahead : Int) (colons : Nat) : Bytes :=
  let n := ahead.natAbs
  let two := fun (n : Nat) => let d := Bytes.ofNat n; List.replicate (2 - d.length) '0' ++ d
  let sign := if ahead < 0 then '-' else '+'
  let h := two (n / 3600)
  let m := two (n / 60 % 60)
  let s := two (n % 60)
  sign :: match colons with
    | 0 => h ++ m
    | 1 => h ++ ':' :: m
    | 2 => h ++ ':' :: m ++ ':' :: s
    | _ => if n % 3600 == 0 then h else if n % 60 == 0 then h ++ ':' :: m else h ++ ':' :: m ++ ':' :: s

/-- The first letters of a name. -/
def shortName (s : String) : Bytes :=
  s.toList.take 3

mutual

/-- A part of a moment by its letter, or nothing if there is none. -/
def Moment.part? (m : Moment) (f : TimeField) : Nat → Char → Option Bytes
  | 0, _ => none
  | fuel + 1, c =>
    let d := m.day
    let h12 := if m.hour % 12 == 0 then 12 else m.hour % 12
    let two := fun (n : Nat) => some (f.number '0' 2 n)
    let name := fun (b : Bytes) => some (f.text b)
    let whole := fun (format : String) => some (f.text (m.format fuel format.toList))
    let month := (monthNames[d.month - 1]?).getD ""
    let weekday := (weekdayNames[d.weekday]?).getD ""
    let half := if m.hour < 12 then "AM" else "PM"
    let (isoYear, isoWeek) := d.isoWeek
    match c with
    | '%' => name ['%']
    | 'n' => name ['\n']
    | 't' => name ['\t']
    | 'a' => name (if f.swapped then (shortName weekday).map Char.toUpper else shortName weekday)
    | 'A' => name (if f.swapped then weekday.toList.map Char.toUpper else weekday.toList)
    | 'b' | 'h' => name (if f.swapped then (shortName month).map Char.toUpper else shortName month)
    | 'B' => name (if f.swapped then month.toList.map Char.toUpper else month.toList)
    | 'c' => whole "%a %b %e %H:%M:%S %Y"
    | 'C' => some (f.number '0' 2 (d.year / 100))
    | 'd' => two d.day
    | 'D' => whole "%m/%d/%y"
    | 'e' => some (f.number '_' 2 d.day)
    | 'F' => whole "%Y-%m-%d"
    | 'g' => two (isoYear % 100).toNat
    | 'G' => some (f.number '0' 4 isoYear)
    | 'H' => two m.hour
    | 'I' => two h12
    | 'j' => some (f.number '0' 3 d.ofYear)
    | 'k' => some (f.number '_' 2 m.hour)
    | 'l' => some (f.number '_' 2 h12)
    | 'm' => two d.month
    | 'M' => two m.minute
    | 'N' =>
      let digits := Bytes.ofNat m.nanoseconds
      let digits := List.replicate (9 - digits.length) '0' ++ digits
      some (match f.width with
        | some w => digits.take w ++ List.replicate (w - 9) '0'
        | none => if f.fill == some '-' then (digits.reverse.dropWhile (· == '0')).reverse else digits)
    | 'p' => name (if f.swapped then half.toList.map Char.toLower else half.toList)
    | 'P' => name (half.toList.map Char.toLower)
    | 'q' => some (f.number '0' 1 ((d.month + 2) / 3 : Nat))
    | 'r' => whole "%I:%M:%S %p"
    | 'R' => whole "%H:%M"
    | 's' => some (f.number '0' 1 m.seconds)
    | 'S' => two m.second
    | 'T' | 'X' => whole "%H:%M:%S"
    | 'u' => some (f.number '0' 1 (if d.weekday == 0 then 7 else d.weekday : Nat))
    | 'U' => two (d.week 0)
    | 'V' => two isoWeek
    | 'w' => some (f.number '0' 1 d.weekday)
    | 'W' => two (d.week 1)
    | 'x' => whole "%m/%d/%y"
    | 'y' => two (d.year % 100).toNat
    | 'Y' => some (f.number '0' 4 d.year)
    | 'z' => name (zoneText m.zone.ahead 0)
    | 'Z' => name (if f.swapped then m.zone.name.map Char.toLower else m.zone.name)
    | _ => none

/-- A moment in a format. -/
def Moment.format (m : Moment) : Nat → Bytes → Bytes
  | 0, s => s
  | _, [] => []
  | fuel + 1, '%' :: s =>
    let isFlag := fun c => ['-', '_', '0', '^', '#', '+'].contains c
    let flags := s.takeWhile isFlag
    let rest := s.dropWhile isFlag
    let (digits, rest) := rest.span Char.isDigit
    let colons := (rest.takeWhile (· == ':')).length
    let rest := rest.drop colons
    let rest' := match rest with
      | c :: more => if c == 'E' || c == 'O' then more else rest
      | [] => []
    let field : TimeField :=
      ⟨(flags.filter ['-', '_', '0'].contains).getLast?, flags.contains '^', flags.contains '#',
        Bytes.natural? digits⟩
    match rest' with
    | [] => field.text ('%' :: s)
    | c :: behind =>
      let shown := if 0 < colons then
          if c == 'z' then some (field.text (zoneText m.zone.ahead colons)) else none
        else m.part? field fuel c
      match shown with
      | some text => text ++ m.format fuel behind
      | none => '%' :: s.take (s.length - behind.length) ++ m.format fuel behind
  | fuel + 1, c :: s => c :: m.format fuel s

end

/-! ### Reading -/

/-- What has been read of a date. -/
structure DateReading where
  day : Option Day
  time : Option (Nat × Nat)
  zone : Option Int
  weekday : Option (Int × Nat)
  years : Int
  months : Int
  days : Int
  seconds : Int
  /-- Only steps from now have been read. -/
  isRelative : Bool

/-- The zones that have names, with the hours that they are ahead. -/
def zoneNames : List (String × Int) :=
  [("z", 0), ("utc", 0), ("gmt", 0), ("ut", 0), ("wet", 0), ("bst", 3600), ("west", 3600), ("cet", 3600),
    ("cest", 7200), ("eet", 7200), ("eest", 10800), ("msk", 10800), ("est", -18000), ("edt", -14400),
    ("cst", -21600), ("cdt", -18000), ("mst", -25200), ("mdt", -21600), ("pst", -28800),
    ("pdt", -25200), ("jst", 32400), ("ist", 19800)]

/-- The number of a name among others, which may be cut after its third letter. -/
def namedOf? (names : List String) (word : Bytes) : Option Nat :=
  names.findIdx? fun n =>
    let n := n.toList.map Char.toLower
    word == n || word == n.take 3 || (word == "sept".toList && n.take 4 == "sept".toList) ||
      (word == "tues".toList && n.take 4 == word) || (word == "thurs".toList && n.take 5 == word) ||
      (word == "thur".toList && n.take 4 == word) || (word == "wednes".toList && n.take 6 == word)

/-- The reading with a step of a unit. -/
def DateReading.step? (r : DateReading) (n : Int) (word : Bytes) : Option DateReading :=
  let unit := if word.getLast? == some 's' && 1 < word.length then word.dropLast else word
  match String.ofList unit with
  | "year" => some { r with years := r.years + n }
  | "month" => some { r with months := r.months + n }
  | "fortnight" => some { r with days := r.days + 14 * n }
  | "week" => some { r with days := r.days + 7 * n }
  | "day" => some { r with days := r.days + n }
  | "hour" => some { r with seconds := r.seconds + 3600 * n }
  | "minute" | "min" => some { r with seconds := r.seconds + 60 * n }
  | "second" | "sec" => some { r with seconds := r.seconds + n }
  | _ => none

/-- The words that count things. -/
def ordinals : List (String × Int) :=
  [("last", -1), ("this", 0), ("next", 1), ("first", 1), ("third", 3), ("fourth", 4), ("fifth", 5),
    ("sixth", 6), ("seventh", 7), ("eighth", 8), ("ninth", 9), ("tenth", 10), ("eleventh", 11),
    ("twelfth", 12)]

/-- A piece of a date: a word, digits, or another character. -/
inductive DateToken where
  | word (b : Bytes)
  | digits (b : Bytes)
  | mark (c : Char)
  | blank
  deriving DecidableEq

/-- The pieces of a text. -/
def dateTokens : Nat → Bytes → List DateToken
  | 0, _ => []
  | _, [] => []
  | fuel + 1, c :: s =>
    if c.isDigit then
      let d := (c :: s).takeWhile Char.isDigit
      .digits d :: dateTokens fuel ((c :: s).drop d.length)
    else if c.isAlpha then
      let w := (c :: s).takeWhile fun c => c.isAlpha || c == '.'
      .word ((w.filter (· != '.')).map Char.toLower) :: dateTokens fuel ((c :: s).drop w.length)
    else if Bytes.isSpace c || c == ',' then
      match dateTokens fuel s with
      | .blank :: rest => .blank :: rest
      | rest => .blank :: rest
    else .mark c :: dateTokens fuel s

/-- The number of some digits. -/
def digitsValue (d : Bytes) : Nat :=
  (Bytes.natural? d).getD 0

/-- A year, of which two digits may be written. -/
def yearOf (d : Bytes) : Int :=
  let n := digitsValue d
  if d.length ≤ 2 then (if n < 69 then 2000 + n else 1900 + n : Nat) else n

/-- The digits behind a point as nanoseconds. -/
def fractionOf (d : Bytes) : Nat :=
  digitsValue ((d ++ List.replicate 9 '0').take 9)

/-- A zone behind a sign, and what is behind it. -/
def zoneBehind? (sign : Char) (ts : List DateToken) : Option (Int × List DateToken) :=
  let signed := fun (n : Nat) => if sign == '-' then -(n : Int) else n
  match ts with
  | .digits h :: .mark ':' :: .digits m :: rest =>
    some (signed (digitsValue h * 3600 + digitsValue m * 60), rest)
  | .digits d :: rest =>
    let n := digitsValue d
    some (signed (if d.length ≤ 2 then n * 3600 else n / 100 * 3600 + n % 100 * 60), rest)
  | _ => none

/-- The pieces without a blank at the front. -/
def behindBlank : List DateToken → List DateToken
  | .blank :: rest => rest
  | ts => ts

/-- What stands behind a time: the half of the day, and a zone. -/
def behindTime (r : DateReading) (h m s ns : Nat) (ts : List DateToken) :
    Option (DateReading × List DateToken) := do
  let (h, ts) ← match behindBlank ts with
    | DateToken.word w :: rest =>
      if w == "am".toList || w == "pm".toList then
        if h == 0 || 12 < h then none
        else some (h % 12 + (if w == "pm".toList then 12 else 0), rest)
      else some (h, ts)
    | _ => some (h, ts)
  if 23 < h || 59 < m || 60 < s then none
  let r := { r with time := some (h * 3600 + m * 60 + s, ns), isRelative := false }
  match behindBlank ts with
  | .mark c :: rest =>
    if c == '+' || c == '-' then
      match rest with
      | .digits d :: _ =>
        -- A sign in front of a unit is a step and no zone.
        let isStep := match behindBlank (rest.drop 1) with
          | .word w :: _ => (r.step? 1 w).isSome
          | _ => false
        if isStep && !(d.length == 4) then some (r, ts)
        else (zoneBehind? c rest).map fun (z, rest) => ({ r with zone := some z }, rest)
      | _ => some (r, ts)
    else some (r, ts)
  | _ => some (r, ts)

/-- The pieces behind a word that turns a step around, and the sign of the step. -/
def turnedBy (ts : List DateToken) : Int × List DateToken :=
  match behindBlank ts with
  | .word w :: rest => if w == "ago".toList then (-1, rest) else (1, ts)
  | _ => (1, ts)

/-- The reading with a day, of which the year may be missing. -/
def DateReading.withDay (r : DateReading) (year : Option Int) (month day : Nat) (now : Day) :
    Option DateReading :=
  if r.day.isSome then none
  else some { r with day := some ⟨year.getD now.year, month, day⟩, isRelative := false }

/-- The reading of a step behind its number. -/
def stepBehind? (r : DateReading) (n : Int) (ts : List DateToken) :
    Option (DateReading × List DateToken) :=
  match behindBlank ts with
  | .word w :: rest =>
    let (sign, rest) := turnedBy rest
    (r.step? (sign * n) w).map fun r => (r, rest)
  | _ => none

/-- The reading of what begins with digits. -/
def digitsItem (r : DateReading) (now : Day) (d : Bytes) (ts : List DateToken) :
    Option (DateReading × List DateToken) :=
  let n := digitsValue d
  match ts with
  | .mark '-' :: .digits m :: .mark '-' :: .digits e :: rest =>
    let rest := match rest with
      | .word ['t'] :: .digits x :: more => .digits x :: more
      | rest => rest
    (r.withDay (some (yearOf d)) (digitsValue m) (digitsValue e) now).map (·, rest)
  | .mark '-' :: .word w :: .mark '-' :: .digits y :: rest =>
    (namedOf? monthNames w).bind fun m => (r.withDay (some (yearOf y)) (m + 1) n now).map (·, rest)
  | .mark '/' :: .digits m :: .mark '/' :: .digits e :: rest =>
    (if 2 < d.length then r.withDay (some (yearOf d)) (digitsValue m) (digitsValue e) now
      else r.withDay (some (yearOf e)) n (digitsValue m) now).map (·, rest)
  | .mark '/' :: .digits m :: rest => (r.withDay none n (digitsValue m) now).map (·, rest)
  | .mark ':' :: .digits m :: .mark ':' :: .digits s :: .mark '.' :: .digits f :: rest =>
    behindTime r n (digitsValue m) (digitsValue s) (fractionOf f) rest
  | .mark ':' :: .digits m :: .mark ':' :: .digits s :: rest =>
    behindTime r n (digitsValue m) (digitsValue s) 0 rest
  | .mark ':' :: .digits m :: rest => behindTime r n (digitsValue m) 0 0 rest
  | ts =>
    match stepBehind? r n ts with
    | some result => some result
    | none =>
      let plain := fun (_ : Unit) =>
        if r.day.isSome && r.time.isNone && d.length ≤ 4 && 2 < d.length then
          behindTime r (n / 100) (n % 100) 0 0 ts
        else if 4 < d.length then
          (r.withDay (some (if d.length ≤ 6 then yearOf (d.take 2) else (n / 10000 : Nat)))
            (n / 100 % 100) (n % 100) now).map (·, ts)
        else if d.length ≤ 2 then behindTime r n 0 0 0 ts
        else behindTime r (n / 100) (n % 100) 0 0 ts
      match behindBlank ts with
      | .word w :: rest =>
        if w == "am".toList || w == "pm".toList then behindTime r n 0 0 0 (.word w :: rest)
        else
          match namedOf? monthNames w with
          | some m =>
            match behindBlank rest with
            | .digits y :: more =>
              if more.head? == some (.mark ':') then (r.withDay none (m + 1) n now).map (·, rest)
              else (r.withDay (some (yearOf y)) (m + 1) n now).map (·, more)
            | _ => (r.withDay none (m + 1) n now).map (·, rest)
          | none => plain ()
      | _ => plain ()

/-- The reading of what begins with a word. -/
def wordItem (r : DateReading) (now : Day) (w : Bytes) (ts : List DateToken) :
    Option (DateReading × List DateToken) :=
  match String.ofList w with
  | "now" | "today" => some (r, ts)
  | "yesterday" => some ({ r with days := r.days - 1 }, ts)
  | "tomorrow" => some ({ r with days := r.days + 1 }, ts)
  | "midnight" => some ({ r with time := some (0, 0), isRelative := false }, ts)
  | "noon" => some ({ r with time := some (43200, 0), isRelative := false }, ts)
  | word =>
    match ordinals.lookup word with
    | some n =>
      match stepBehind? r n ts with
      | some result => some result
      | none =>
        match behindBlank ts with
        | .word v :: rest =>
          (namedOf? weekdayNames v).map fun k => ({ r with weekday := some (n, k), isRelative := false }, rest)
        | _ => none
    | none =>
      match namedOf? monthNames w with
      | some m =>
        match behindBlank ts with
        | .digits d :: rest =>
          match behindBlank rest with
          | .digits y :: more =>
            if more.head? == some (.mark ':') then
              (r.withDay none (m + 1) (digitsValue d) now).map (·, rest)
            else (r.withDay (some (yearOf y)) (m + 1) (digitsValue d) now).map (·, more)
          | _ => (r.withDay none (m + 1) (digitsValue d) now).map (·, rest)
        | _ => none
      | none =>
        match namedOf? weekdayNames w with
        | some k => some ({ r with weekday := some (0, k), isRelative := false }, ts)
        | none =>
          match zoneNames.lookup word with
          | some z =>
            match ts with
            | .mark c :: rest =>
              if c == '+' || c == '-' then
                (zoneBehind? c rest).map fun (more, rest) => ({ r with zone := some (z + more) }, rest)
              else some ({ r with zone := some z }, ts)
            | _ => some ({ r with zone := some z }, ts)
          | none =>
            let (sign, rest) := turnedBy ts
            (r.step? sign w).map (·, rest)

/-- The reading of all pieces. -/
def dateItems (now : Day) : Nat → DateReading → List DateToken → Option DateReading
  | 0, _, _ => none
  | _, r, [] => some r
  | fuel + 1, r, t :: ts => do
    let (r, ts) ← match t with
      | .blank => some (r, ts)
      | .digits d => digitsItem r now d ts
      | .word w => wordItem r now w ts
      | .mark c =>
        if c == '+' || c == '-' then
          let sign := fun (n : Nat) => if c == '-' then -(n : Int) else n
          match behindBlank ts with
          | .digits d :: rest =>
            match stepBehind? r (sign (digitsValue d)) rest with
            | some result => some result
            | none =>
              if r.time.isSome then
                (zoneBehind? c ts).map fun (z, rest) => ({ r with zone := some z }, rest)
              else none
          | .word w :: rest =>
            let (turn, rest) := turnedBy rest
            (r.step? (turn * sign 1) w).map (·, rest)
          | _ => none
        else none
    dateItems now fuel r ts

/-- The moment that a text names. -/
def Moment.ofText? (now : Moment) (text : Bytes) : Option Moment :=
  let text := (text.dropWhile Bytes.isSpace)
  match text with
  | '@' :: number =>
    let (negative, digits) := match number with
      | '-' :: d => (true, d)
      | '+' :: d => (false, d)
      | d => (false, d)
    let (whole, rest) := digits.span Char.isDigit
    let fraction? := match rest.dropWhile Bytes.isSpace with
      | [] => some 0
      | '.' :: part | ',' :: part => if part.all Char.isDigit then some (fractionOf part) else none
      | _ => none
    match Bytes.natural? whole, fraction? with
    | some n, some f =>
      if negative && 0 < f then some ⟨-(n : Int) - 1, 1000000000 - f, now.zone⟩
      else some ⟨if negative then -(n : Int) else n, f, now.zone⟩
    | _, _ => none
  | text =>
    let start : DateReading := ⟨none, none, none, none, 0, 0, 0, 0, true⟩
    let tokens := dateTokens (text.length + 1) text
    let start := { start with isRelative := !(tokens.filter (· != .blank)).isEmpty }
    (dateItems now.day (tokens.length + 1) start tokens).bind fun r =>
      let d := r.day.getD now.day
      if !d.isValid || (r.zone.any fun z => 86400 < z.natAbs) then none
      else
        let time := match r.time with
          | some t => t
          | none => if r.isRelative then (now.ofDay, now.nanoseconds) else (0, 0)
        let months := d.year * 12 + (d.month - 1 : Nat) + r.years * 12 + r.months
        let first : Day := ⟨months / 12, (months % 12).toNat + 1, 1⟩
        let number := first.number + d.day - 1 + r.days
        let number := match r.weekday, r.day with
          | some (ordinal, k), none =>
            let today := (Day.ofNumber number).weekday
            let ahead := ((k : Int) - today + 7) % 7
            number + ahead + 7 * (ordinal - (if 0 < ordinal && k != today then 1 else 0))
          | _, _ => number
        let ahead := r.zone.getD now.zone.ahead
        some ⟨number * 86400 + time.1 - ahead + r.seconds, time.2, now.zone⟩

/-- The zone that a text names in the form with its name and the hours that it is behind. -/
def Zone.ofText (text : Bytes) : Zone :=
  let (name, rest) := match text with
    | '<' :: text => (text.takeWhile (· != '>'), (text.dropWhile (· != '>')).drop 1)
    | text => text.span Char.isAlpha
  let (sign, rest) := match rest with
    | '-' :: rest => ((1 : Int), rest)
    | '+' :: rest => (-1, rest)
    | rest => (-1, rest)
  let (h, rest) := rest.span Char.isDigit
  let (m, _) := match rest with
    | ':' :: rest => rest.span Char.isDigit
    | rest => ([], rest)
  if h.isEmpty then Zone.universal
  else ⟨sign * (digitsValue h * 3600 + digitsValue m * 60 : Nat), name⟩

end ScriptDeps.Shell
