/-
The utilities that write bytes as digits or letters, and those that print digests.
-/
import ScriptDeps.Shell.Digest
import ScriptDeps.Shell.Printing
import ScriptDeps.Shell.Utility

namespace ScriptDeps.Shell.Utility

/-! ### Bytes as letters -/

/-- A way to write bytes as letters: so many bits go to each letter, and the letters come in groups. -/
structure Alphabet where
  name : String
  bits : Nat
  group : Nat
  letters : List Char

def base64 : Alphabet :=
  ⟨"base64", 6, 4, "ABCDEFGHIJKLMNOPQRSTUVWXYZabcdefghijklmnopqrstuvwxyz0123456789+/".toList⟩

def base32 : Alphabet :=
  ⟨"base32", 5, 8, "ABCDEFGHIJKLMNOPQRSTUVWXYZ234567".toList⟩

namespace Alphabet

/-- The number of bytes that a whole group stands for. -/
def bytes (a : Alphabet) : Nat :=
  a.bits * a.group / 8

/-- The letters of at most as many bytes as a group stands for. -/
def groupOf (a : Alphabet) (b : Bytes) : Bytes :=
  let missing := a.bytes - b.length
  let n := (b ++ List.replicate missing '\x00').foldl (fun n c => 256 * n + c.toNat) 0
  let used := (b.length * 8 + a.bits - 1) / a.bits
  let digits := (List.range a.group).map fun i =>
    n / Nat.pow 2 (a.bits * (a.group - 1 - i)) % Nat.pow 2 a.bits
  (digits.take used).map (fun d => (a.letters[d]?).getD 'A') ++ List.replicate (a.group - used) '='

def encoded (a : Alphabet) (b : Bytes) : Bytes :=
  (Digest.chunks a.bytes (b.length + 1) b).flatMap a.groupOf

/-- The bytes that the letters of a group stand for, as far as they are letters, and whether they
are a whole group. -/
def bytesOf (a : Alphabet) (g : Bytes) : Bytes × Bool :=
  let letters := g.takeWhile a.letters.contains
  let n := letters.foldl (fun n c => Nat.pow 2 a.bits * n + (a.letters.idxOf c)) 0
  let count := letters.length * a.bits / 8
  let n := n / Nat.pow 2 (letters.length * a.bits - count * 8)
  let bytes := (List.range count).map fun i => Char.ofNat (n / Nat.pow 256 (count - 1 - i) % 256)
  let rest := g.drop letters.length
  let isWhole := g.length == a.group && rest.all (· == '=') && 0 < count &&
    letters.length == (count * 8 + a.bits - 1) / a.bits
  (bytes, isWhole)

/-- The bytes that a text stands for, and whether it is whole. -/
def decoded (a : Alphabet) : Nat → Bytes → Bytes × Bool
  | 0, _ => ([], true)
  | _, [] => ([], true)
  | fuel + 1, s =>
    let (bytes, isWhole) := a.bytesOf (s.take a.group)
    if isWhole then
      let (rest, ok) := a.decoded fuel (s.drop a.group)
      (bytes ++ rest, ok)
    else (bytes, false)

end Alphabet

/-- Text cut into lines of a width. -/
def wrapped (width : Nat) (text : Bytes) : Bytes :=
  if width == 0 then text
  else (Digest.chunks width (text.length + 1) text).flatMap (· ++ ['\n'])

/-- Writes bytes as letters, or reads them. -/
def encode (a : Alphabet) (args : List Bytes) (s : State) : State :=
  withOptions a.name (.of "diw:" "decode=d ignore-garbage=i wrap=w version=! help=!") args s fun o =>
    match o.args, (o.value? 'w').map Bytes.natural? with
    | _, some none =>
      refused a.name ("invalid wrap size: ".toList ++ cited ((o.value? 'w').getD [])) s
    | _ :: extra :: _, _ => extraOperand a.name extra s
    | args, width =>
      let width := (width.bind id).getD 76
      match contentOf a.name (s.done 0) (args.headD ['-']) with
      | (s, none) => s
      | (s, some b) =>
        if o.has 'd' then
          let text := b.filter fun c =>
            c != '\n' && (!o.has 'i' || a.letters.contains c || c == '=')
          let (bytes, ok) := a.decoded (text.length + 1) text
          let s := s.say bytes
          if ok then s else refused a.name "invalid input".toList s
        else s.say (wrapped width (a.encoded b))

/-! ### Digests -/

/-- A kind of digest. -/
structure DigestKind where
  name : String
  title : String
  length : Nat
  digest : Bytes → Bytes

def digestKinds : List DigestKind :=
  [⟨"md5sum", "MD5", 32, Digest.md5⟩, ⟨"sha1sum", "SHA1", 40, Digest.sha1⟩,
    ⟨"sha224sum", "SHA224", 56, Digest.sha224⟩, ⟨"sha256sum", "SHA256", 64, Digest.sha256⟩,
    ⟨"sha384sum", "SHA384", 96, Digest.sha384⟩, ⟨"sha512sum", "SHA512", 128, Digest.sha512⟩]

/-- The name of a file with its backslashes and line ends escaped, and whether there were any. -/
def escapedName (name : Bytes) : Bytes × Bool :=
  (name.flatMap fun
    | '\\' => ['\\', '\\']
    | '\n' => ['\\', 'n']
    | '\r' => ['\\', 'r']
    | c => [c], name.any fun c => c == '\\' || c == '\n' || c == '\r')

/-- A name without its escapes. -/
def plainName : Bytes → Bytes
  | '\\' :: 'n' :: s => '\n' :: plainName s
  | '\\' :: 'r' :: s => '\r' :: plainName s
  | '\\' :: c :: s => c :: plainName s
  | c :: s => c :: plainName s
  | [] => []

/-- A line of a list of digests: the digest and the file. -/
def digestLine? (k : DigestKind) (line : Bytes) : Option (Bytes × Bytes) :=
  let (isEscaped, line) := match line with
    | '\\' :: line => (true, line)
    | line => (false, line)
  let name := fun (b : Bytes) => if isEscaped then plainName b else b
  let isHex := fun (b : Bytes) => b.length == k.length && b.all fun c => (Arithmetic.digit? 16 c).isSome
  let digest := line.takeWhile (· != ' ')
  if isHex digest then
    match line.drop digest.length with
    | ' ' :: ' ' :: file => some (digest.map Char.toLower, name file)
    | ' ' :: '*' :: file => some (digest.map Char.toLower, name file)
    | ' ' :: file => some (digest.map Char.toLower, name file)
    | _ => none
  else
    match Text.dropStart? (k.title.toList ++ " (".toList) line with
    | some rest =>
      let back := rest.reverse
      let digest := (back.takeWhile (· != ' ')).reverse
      match (back.drop digest.length) with
      | ' ' :: '=' :: ' ' :: ')' :: file =>
        if isHex digest then some (digest.map Char.toLower, name file.reverse) else none
      | _ => none
    | none => none

/-- What checking a list of digests has come to. -/
structure Checking where
  state : State
  right : Nat
  wrong : Nat
  unread : Nat
  malformed : Nat

/-- A number of things that are wrong, as a warning. -/
def digestWarning (n : Nat) (one many : String) : Bytes :=
  "WARNING: ".toList ++ Bytes.ofNat n ++ ' ' :: (if n == 1 then one else many).toList

/-- Checks a list of digests. -/
def checkDigests (k : DigestKind) (o : Options) (s : State) (list : Bytes) : State :=
  match contentOf k.name s list with
  | (s, none) => s
  | (s, some b) =>
    let isSilent := o.has 'S'
    let say := fun (file : Bytes) (text : String) (s : State) =>
      let (shown, isEscaped) := escapedName file
      if isSilent then s
      else s.say ((if isEscaped then ['\\'] else []) ++ shown ++ ": ".toList ++ text.toList ++ ['\n'])
    let w := ((Bytes.lines b).map bare).foldl
      (fun (w : Checking) line =>
        if line.isEmpty || line.head? == some '#' then w
        else
          match digestLine? k line with
          | none => { w with malformed := w.malformed + 1 }
          | some (digest, file) =>
            match contentOf k.name w.state file with
            | (s, some content) =>
              if k.digest content == digest then
                { w with state := if o.has 'q' then s else say file "OK" s, right := w.right + 1 }
              else { w with state := say file "FAILED" s, wrong := w.wrong + 1 }
            | (s, none) =>
              if o.has 'm' && (w.state.lookup file.path).toOption.isNone then w
              else { w with state := say file "FAILED open or read" s, unread := w.unread + 1 })
      ⟨s, 0, 0, 0, 0⟩
    let s := w.state
    let warn := fun (s : State) (text : Bytes) =>
      if isSilent then s else s.complain (k.name.toList ++ ": ".toList ++ text)
    let shownList := if list == ['-'] then "'standard input'".toList else shownName list
    if w.right + w.wrong + w.unread == 0 then
      if o.has 'm' && w.malformed == 0 then
        (warn s (shownList ++ ": no file was verified".toList)).done 1
      else (s.complain (k.name.toList ++ ": ".toList ++ shownList ++ ": no properly formatted ".toList ++
        "checksum lines found".toList)).done 1
    else
      let s := if w.malformed == 0 then s
        else warn s (digestWarning w.malformed "line is improperly formatted"
          "lines are improperly formatted")
      let s := if w.unread == 0 then s
        else warn s (digestWarning w.unread "listed file could not be read"
          "listed files could not be read")
      let s := if w.wrong == 0 then s
        else warn s (digestWarning w.wrong "computed checksum did NOT match"
          "computed checksums did NOT match")
      let isBad := 0 < w.wrong + w.unread || (o.has 'X' && 0 < w.malformed)
      s.done (if isBad then 1 else 0)

/-- Prints digests of files, or checks a list of them. -/
def digestFiles (k : DigestKind) (args : List Bytes) (s : State) : State :=
  let known : Known := .of "bctwzSqmXT"
    ("binary=b check=c text=t warn=w zero=z status=S quiet=q ignore-missing=m strict=X tag=T " ++
      "version=! help=!")
  withOptions k.name known args s fun o =>
    if o.has 'c' then forEach (inputs o.args) s (checkDigests k o)
    else
      let stop := if o.has 'z' then '\x00' else '\n'
      forEach (inputs o.args) s fun s arg =>
        match contentOf k.name s arg with
        | (s, none) => s
        | (s, some b) =>
          let (shown, isEscaped) := if o.has 'z' then (arg, false) else escapedName arg
          let digest := k.digest b
          let line := if o.has 'T' then
              k.title.toList ++ " (".toList ++ shown ++ ") = ".toList ++ digest
            else digest ++ [' ', if o.last? ['b', 't'] == some 'b' then '*' else ' '] ++ shown
          s.say ((if isEscaped then ['\\'] else []) ++ line ++ [stop])

/-- The older sum of the bytes alone. -/
def plainSum (b : Bytes) : Nat :=
  let n := b.foldl (fun n c => n + c.toNat) 0
  let r := n % 65536 + n % 4294967296 / 65536
  r % 65536 + r / 65536

/-- Prints the checksums of files. -/
def checksumFiles (args : List Bytes) (s : State) : State :=
  withOptions "cksum" (.of "a:l:uT" "algorithm=a length=l untagged=u tag=T version=! help=!") args s
    fun o =>
      let kind? := (o.value? 'a').bind fun v =>
        digestKinds.find? fun k => k.title.toList.map Char.toLower == v
      forEach (inputs o.args) s fun s arg =>
        match contentOf "cksum" s arg with
        | (s, none) => s
        | (s, some b) =>
          match kind? with
          | some k =>
            s.say (if o.has 'u' then k.digest b ++ "  ".toList ++ arg ++ ['\n']
              else k.title.toList ++ " (".toList ++ arg ++ ") = ".toList ++ k.digest b ++ ['\n'])
          | none =>
            let name := if o.args.isEmpty then [] else ' ' :: arg
            s.say (Bytes.ofNat (Digest.checksum b) ++ ' ' :: Bytes.ofNat b.length ++ name ++ ['\n'])

/-- Prints the sums of files. -/
def sumFiles (args : List Bytes) (s : State) : State :=
  withOptions "sum" (.of "rs" "sysv=s version=! help=!") args s fun o =>
    forEach (inputs o.args) s fun s arg =>
      match contentOf "sum" s arg with
      | (s, none) => s
      | (s, some b) =>
        let name := if o.args.isEmpty then [] else ' ' :: arg
        if o.last? ['r', 's'] == some 's' then
          s.say (Bytes.ofNat (plainSum b) ++ ' ' :: Bytes.ofNat ((b.length + 511) / 512) ++ name ++ ['\n'])
        else
          let sum := Bytes.ofNat (Digest.turnedSum b)
          let blocks := Bytes.ofNat ((b.length + 1023) / 1024)
          s.say (List.replicate (5 - sum.length) '0' ++ sum ++ ' ' ::
            List.replicate (5 - blocks.length) ' ' ++ blocks ++ name ++ ['\n'])

/-! ### Bytes as digits -/

/-- A way to show items of some bytes. -/
structure DumpForm where
  letter : Char
  size : Nat
  /-- The characters are shown at the end of the line, too. -/
  trailer : Bool

/-- The width of an item. -/
def DumpForm.width (f : DumpForm) : Nat :=
  match f.letter, f.size with
  | 'a', _ | 'c', _ => 3
  | 'x', n => 2 * n
  | 'o', 1 => 3
  | 'o', 2 => 6
  | 'o', 4 => 11
  | 'o', _ => 22
  | 'd', 1 => 4
  | 'd', 2 => 6
  | 'd', 4 => 11
  | 'd', _ => 20
  | 'u', 1 => 3
  | 'u', 2 => 5
  | 'u', 4 => 10
  | 'u', _ => 20
  | _, 4 => 15
  | _, _ => 24

/-- The names of the bytes that cannot be seen. -/
def byteNames : List String :=
  ["nul", "soh", "stx", "etx", "eot", "enq", "ack", "bel", "bs", "ht", "nl", "vt", "ff", "cr", "so",
    "si", "dle", "dc1", "dc2", "dc3", "dc4", "nak", "syn", "etb", "can", "em", "sub", "esc", "fs", "gs",
    "rs", "us", "sp"]

/-- A byte as a character or as an escape. -/
def shownCharacter (c : Char) : Bytes :=
  match c with
  | '\x00' => "\\0".toList
  | '\x07' => "\\a".toList
  | '\x08' => "\\b".toList
  | '\t' => "\\t".toList
  | '\n' => "\\n".toList
  | '\x0b' => "\\v".toList
  | '\x0c' => "\\f".toList
  | '\r' => "\\r".toList
  | c =>
    if 32 ≤ c.toNat && c.toNat < 127 then [c]
    else
      let digits := Nat.toDigits 8 c.toNat
      List.replicate (3 - digits.length) '0' ++ digits

/-- An item as it is shown, without blanks in front. -/
def DumpForm.item (f : DumpForm) (b : Bytes) : Bytes :=
  let n := Digest.number false b
  let filled := fun (base width : Nat) =>
    let digits := Nat.toDigits base n
    List.replicate (width - digits.length) '0' ++ digits
  match f.letter with
  | 'a' =>
    let k := n % 128
    if k == 127 then "del".toList else ((byteNames[k]?).map String.toList).getD [Char.ofNat k]
  | 'c' => shownCharacter (b.headD '\x00')
  | 'x' => filled 16 f.width
  | 'o' => filled 8 f.width
  | 'u' => Bytes.ofNat n
  | 'd' =>
    let limit := Nat.pow 256 f.size
    Bytes.ofInt (if limit ≤ 2 * n then (n : Int) - limit else n)
  | _ =>
    let sign := Nat.pow 256 f.size / 2 ≤ n
    let (fraction, exponents) := if f.size == 4 then (23, 8) else (52, 11)
    let mantissa := n % Nat.pow 2 fraction
    let exponent := n / Nat.pow 2 fraction % Nat.pow 2 exponents
    let bias : Int := Nat.pow 2 (exponents - 1) - 1
    let d : Double :=
      if exponent == Nat.pow 2 exponents - 1 then
        if mantissa == 0 then .infinite sign else .notNumber sign
      else if exponent == 0 then .finite sign mantissa (1 - bias - fraction)
      else .finite sign (mantissa + Nat.pow 2 fraction) ((exponent : Int) - bias - fraction)
    let shown := if d.isFinite then d.general false (if f.size == 4 then 8 else 17) else d.name
    (if sign then ['-'] else []) ++ shown

/-- The size that letters or digits behind a form name, and what is behind it. -/
def dumpSize (standard : Nat) (s : Bytes) : Option (Nat × Bytes) :=
  match s with
  | 'C' :: s => some (1, s)
  | 'S' :: s => some (2, s)
  | 'I' :: s => some (4, s)
  | 'L' :: s => some (8, s)
  | s =>
    let (digits, rest) := s.span Char.isDigit
    match Bytes.natural? digits with
    | none => some (standard, rest)
    | some n => if [1, 2, 4, 8].contains n then some (n, rest) else none

/-- The forms that a text names. -/
def dumpForms (whole : Bytes) : Nat → Bytes → Except Bytes (List DumpForm)
  | 0, _ => .ok []
  | _, [] => .ok []
  | fuel + 1, c :: s => do
    let invalid := ("invalid type string ".toList ++ cited whole : Bytes)
    let (form, rest) ←
      if c == 'a' || c == 'c' then Except.ok (DumpForm.mk c 1 false, s)
      else if ['d', 'o', 'u', 'x'].contains c then
        match dumpSize 4 s with
        | some (n, rest) => .ok (DumpForm.mk c n false, rest)
        | none => .error invalid
      else if c == 'f' then
        match s with
        | 'F' :: rest => .ok (DumpForm.mk c 4 false, rest)
        | 'D' :: rest => .ok (DumpForm.mk c 8 false, rest)
        | s =>
          match dumpSize 8 s with
          | some (n, rest) => .ok (DumpForm.mk c n false, rest)
          | none => .error invalid
      else .error ("invalid character '".toList ++ [c] ++ "' in type string ".toList ++ cited whole)
    let (form, rest) := match rest with
      | 'z' :: rest => ({ form with trailer := true }, rest)
      | rest => (form, rest)
    return form :: (← dumpForms whole fuel rest)

/-- An address in a base. -/
def dumpAddress (base : Char) (n : Nat) : Bytes :=
  let filled := fun (b width : Nat) =>
    let digits := Nat.toDigits b n
    List.replicate (width - digits.length) '0' ++ digits
  match base with
  | 'd' => filled 10 7
  | 'x' => filled 16 6
  | 'n' => []
  | _ => filled 8 7

/-- The items of a block in a form, with blanks that make all forms equally wide. -/
def dumpRow (width blockWidth : Nat) (f : DumpForm) (block : Bytes) : Bytes :=
  let fields := width / f.size
  let pad := blockWidth - (f.width + 1) * fields
  let items := Digest.chunks f.size (block.length + 1) block
  let shown := (items.zipIdx.flatMap fun (item, i) =>
    let left := fields - i
    let own := pad * left / fields - pad * (left - 1) / fields
    let text := f.item item
    List.replicate (own + f.width + 1 - text.length) ' ' ++ text)
  if !f.trailer then shown
  else
    let left := fields - items.length
    shown ++ List.replicate (left * (f.width + 1) + pad * left / fields) ' ' ++ "  >".toList ++
      block.map (fun c => if 32 ≤ c.toNat && c.toNat < 127 then c else '.') ++ ['<']

/-- The lines of a dump from an address on. -/
def dumpLines (forms : List DumpForm) (base : Char) (width : Nat) (shows : Bool) :
    Nat → Option Bytes → Bool → Bytes → Bytes
  | _, _, _, [] => []
  | at_, before, starred, s =>
    let block := s.take (max 1 width)
    let rest := s.drop (max 1 width)
    have : rest.length < s.length ∨ s = [] := by
      cases s with
      | nil => exact Or.inr rfl
      | cons c s =>
        refine Or.inl ?_
        simp only [rest, List.length_drop, List.length_cons]
        omega
    if h : s = [] then []
    else if before == some block && block.length == width && !shows then
      (if starred then [] else ['*', '\n']) ++
        dumpLines forms base width shows (at_ + width) before true rest
    else
      let blockWidth := (forms.map fun f => (f.width + 1) * (width / f.size)).foldl max 0
      let address := dumpAddress base at_
      let lines := forms.zipIdx.flatMap fun (f, i) =>
        (if i == 0 then address else List.replicate address.length ' ') ++
          dumpRow width blockWidth f block ++ ['\n']
      lines ++ dumpLines forms base width shows (at_ + width) (some block) false rest
termination_by _ _ _ s => s.length
decreasing_by all_goals (rcases this with h' | h'; exact h'; exact absurd h' h)

/-- The number of an argument in decimal, octal or hexadecimal digits, with a unit. -/
def dumpCount? (b : Bytes) : Option Nat :=
  let (digits, letters) := b.span Char.isAlphanum
  let plain := digits.takeWhile Char.isDigit
  let unit := digits.drop plain.length ++ letters
  match b with
  | '0' :: 'x' :: hex =>
    if !hex.isEmpty && hex.all fun c => (Arithmetic.digit? 16 c).isSome then some (Arithmetic.inBase 16 hex)
    else none
  | _ =>
    (Bytes.natural? plain).bind fun n =>
      let n := if plain.head? == some '0' then Arithmetic.inBase 8 plain else n
      match String.ofList unit with
      | "" => some n
      | "b" => some (n * 512)
      | "K" | "k" | "KiB" => some (n * 1024)
      | "KB" | "kB" => some (n * 1000)
      | "m" | "M" | "MiB" => some (n * 1048576)
      | _ => none

/-- Prints bytes as digits. -/
def dump (args : List Bytes) (s : State) : State :=
  let known : Known := .of "A:aBbcDdeFfHhIij:LlN:OoS:st:vw::XxE:"
    ("skip-bytes=j address-radix=A read-bytes=N format=t output-duplicates=v strings=S width=w " ++
      "traditional=E endian=E version=! help=!")
  withOptions "od" known args s fun o =>
    let formOf := fun (c : Char) (v : Bytes) =>
      match c with
      | 't' => some (dumpForms v (v.length + 1) v)
      | 'a' => some (.ok [⟨'a', 1, false⟩])
      | 'b' => some (.ok [⟨'o', 1, false⟩])
      | 'c' => some (.ok [⟨'c', 1, false⟩])
      | 'd' => some (.ok [⟨'u', 2, false⟩])
      | 'D' => some (.ok [⟨'u', 4, false⟩])
      | 'f' | 'F' | 'e' => some (.ok [⟨'f', 8, false⟩])
      | 'H' | 'X' => some (.ok [⟨'x', 4, false⟩])
      | 'i' => some (.ok [⟨'d', 4, false⟩])
      | 'I' | 'l' | 'L' => some (.ok [⟨'d', 8, false⟩])
      | 'o' | 'B' => some (.ok [⟨'o', 2, false⟩])
      | 'O' => some (.ok [⟨'o', 4, false⟩])
      | 's' => some (.ok [⟨'d', 2, false⟩])
      | 'h' | 'x' => some (.ok [⟨'x', 2, false⟩])
      | _ => none
    let forms := (o.given.filterMap fun (c, v) => formOf c v).mapM id
    let badCount := o.given.find? fun (c, v) => (c == 'N' || c == 'j') && (dumpCount? v).isNone
    let base := ((o.value? 'A').getD ['o']).headD 'o'
    match forms, badCount with
    | .error text, _ => refused "od" text s
    | .ok _, some (c, v) =>
      refused "od" ("invalid -".toList ++ [c] ++ " argument '".toList ++ v ++ ['\x27']) s
    | .ok forms, none =>
      if !(['d', 'o', 'x', 'n'].contains base) then
        refused "od" ("invalid output address radix '".toList ++ [base] ++
          "'; it must be one character from [doxn]".toList) s
      else
        let forms := if forms.isEmpty then [⟨'o', 2, false⟩] else forms.flatten
        let skip := ((o.value? 'j').bind dumpCount?).getD 0
        let wanted := ((o.value? 'N').bind dumpCount?).map (skip + ·)
        let (s, all) := (inputs o.args).foldl
          (fun (acc : State × Bytes) arg =>
            let before := acc.1.status
            let enough := fun (b : Bytes) =>
              (wanted.map (· - acc.2.length)).filter fun n => n ≤ b.length
            match contentUpTo "od" 1 enough acc.1 arg with
            | (s, some b) => (s.done before, acc.2 ++ b)
            | (s, none) => (s, acc.2)) (s.done 0, [])
        let status := s.status
        if all.length < skip then refused "od" "cannot skip past end of combined input".toList s
        else if status != 0 && all.isEmpty then s
        else
          let text := all.drop skip
          let text := ((o.value? 'N').bind dumpCount?).elim text text.take
          let width := match o.value? 'w' with
            | some [] => 32
            | some v => max 1 ((Bytes.natural? v).getD 16)
            | none => 16
          let lines := dumpLines forms base width (o.has 'v') skip none false text
          let final := if base == 'n' then [] else dumpAddress base (skip + text.length) ++ ['\n']
          (s.say (lines ++ final)).done status

end ScriptDeps.Shell.Utility
