/-
The utilities that print what they read, line by line or byte by byte, and those that count it.
-/
import ScriptDeps.Shell.Regex.Reading
import ScriptDeps.Shell.Utility.Compare
import ScriptDeps.Shell.Utility.Part

namespace ScriptDeps.Shell.Utility

/-! ### Files one behind another -/

/-- What printing files one behind another has come to. -/
structure Concatenation where
  number : Nat
  /-- The number of empty lines in front. -/
  blank : Nat
  atStart : Bool

/-- The text of bytes as it is shown, and what the printing has come to. -/
def Concatenation.show_ (o : Options) (w : Concatenation) (b : Bytes) : Bytes × Concatenation :=
  let marksEnds := o.has 'E' || o.has 'e' || o.has 'A'
  let marksTabs := o.has 'T' || o.has 't' || o.has 'A'
  let marksOthers := o.has 'v' || o.has 'e' || o.has 't' || o.has 'A'
  let shown := fun (line : Bytes) =>
    let text := bare line
    let text := text.flatMap fun c =>
      if c == '\t' then if marksTabs then ['^', 'I'] else [c]
      else if marksOthers then visibleByte c else [c]
    let text := if marksEnds && !marksOthers && text.getLast? == some '\r' && line != bare line then
        text.dropLast ++ ['^', 'M']
      else text
    text ++ (if line == bare line then [] else if marksEnds then ['$', '\n'] else ['\n'])
  let (out, w) := (Bytes.lines b).foldl
    (fun (acc : Bytes × Concatenation) line =>
      let (out, w) := acc
      let isBlank := line == ['\n'] && w.atStart
      if isBlank && o.has 's' && 0 < w.blank then (out, w)
      else
        let isNumbered := w.atStart && (if o.has 'b' then !isBlank else o.has 'n')
        let digits := Bytes.ofNat w.number
        let front := if isNumbered then List.replicate (6 - digits.length) ' ' ++ digits ++ ['\t'] else []
        (out ++ front ++ shown line,
          { number := if isNumbered then w.number + 1 else w.number
            blank := if isBlank then w.blank + 1 else 0
            atStart := line != bare line })) ([], w)
  (out, w)

/-- What is printed goes into the file that is read. -/
def printsInto (s : State) (arg : Bytes) : Bool :=
  match s.descriptors.lookup 1 with
  | some (.file loc) =>
    arg != ['-'] && (s.locate true arg.path).toOption == some loc &&
      (s.readFile arg.path).toOption.any (!·.isEmpty)
  | _ => false

/-- Prints files one behind another. -/
def concatenate (args : List Bytes) (s : State) : State :=
  let known : Known := .of "AbeEnstTuv"
    ("number-nonblank=b number=n squeeze-blank=s show-nonprinting=v show-ends=E show-tabs=T " ++
      "show-all=A version=! help=!")
  withOptions "cat" known args s fun o =>
    let isPlain := o.given.all fun (c, _) => c == 'u'
    let (s, status, _) := (inputs o.args).foldl
      (fun (acc : State × Nat × Concatenation) arg =>
        let (s, status, w) := acc
        if printsInto s arg then
          (s.complain ("cat: ".toList ++ shownName arg ++ ": input file is output file".toList), 1, w)
        else
          let reads := arg == ['-'] && !s.readsDirectory 0 && (s.descriptors.lookup 0).isSome
          if isPlain && reads then (s.passed State.say, status, w)
          else
          match contentOf "cat" s arg with
          | (s, none) => (s, 1, w)
          | (s, some b) =>
            if isPlain then (s.say b, status, w)
            else
              let (out, w) := w.show_ o b
              (s.say out, status, w)) (s.done 0, 0, ⟨1, 0, true⟩)
    s.done status

/-- Prints what is read, and writes it into files. -/
def tee (args : List Bytes) (s : State) : State :=
  withOptions "tee" (.of "aipm::" "append=a ignore-interrupts=i output-error=m version=! help=!") args s
    fun o =>
      let (s, sinks) := o.args.foldl
        (fun (acc : State × List Sink) (arg : Bytes) =>
          match acc.1.openFile arg.path (o.has 'a') with
          | .ok (sink, s) => (s, acc.2 ++ sink.toList)
          | .error fault => (acc.1.failed 1 (unreadable "tee" arg fault), acc.2))
        (s.done 0, [])
      let status := s.status
      (s.passed fun s b => (sinks.foldl (fun s sink => s.printTo sink b) s).say b).done status

/-! ### Orders turned around -/

/-- The pieces of a text, each with the mark that ends it or stands before it. -/
def markedPieces (mark : Bytes) (inFront : Bool) : Nat → Bytes → Bytes → List Bytes
  | 0, piece, s => [piece ++ s]
  | _, piece, [] => [piece]
  | fuel + 1, piece, c :: s =>
    if mark.isPrefixOf (c :: s) then
      let rest := (c :: s).drop mark.length
      if inFront then piece :: markedPieces mark inFront fuel mark rest
      else (piece ++ mark) :: markedPieces mark inFront fuel [] rest
    else markedPieces mark inFront fuel (piece ++ [c]) s

/-- The pieces of a text around the matches of an expression. -/
def matchedPieces (m : Matcher) (inFront : Bool) : Nat → Bytes → Regex.Place → List Bytes
  | 0, piece, p => [piece ++ p.behind]
  | fuel + 1, piece, p =>
    match m.first? p with
    | none => [piece ++ p.behind]
    | some (a, b) =>
      if a.position == b.position then [piece ++ p.behind]
      else
        let found := a.until_ b
        let before := piece ++ p.until_ a
        if inFront then before :: matchedPieces m inFront fuel found b
        else (before ++ found) :: matchedPieces m inFront fuel [] b

/-- Prints the lines of files from the last one to the first. -/
def reverseLines (args : List Bytes) (s : State) : State :=
  withOptions "tac" (.of "brs:" "before=b regex=r separator=s version=! help=!") args s fun o =>
    let mark := (o.value? 's').getD ['\n']
    if mark.isEmpty then refused "tac" "separator cannot be empty".toList s
    else
      match Regex.read .basic mark with
      | .error flaw => if o.has 'r' then refused "tac" flaw.wording s else plain o mark s
      | .ok r =>
        if o.has 'r' then
          filter "tac" o.args s fun b =>
            let all := matchedPieces (Matcher.bytes r) (o.has 'b') (b.length + 1) []
              (Regex.Place.ofText b)
            (all.filter (!·.isEmpty)).reverse.flatten
        else plain o mark s
where
  plain (o : Options) (mark : Bytes) (s : State) : State :=
    filter "tac" o.args s fun b =>
      ((markedPieces mark (o.has 'b') (b.length + 1) [] b).filter (!·.isEmpty)).reverse.flatten

/-- Prints the characters of lines from the last one to the first. -/
def reverseBytes (args : List Bytes) (s : State) : State :=
  withOptions "rev" (.of "hV" "help=h version=V") args s fun o =>
    forEach (inputs o.args) s fun s (arg : Bytes) =>
      if arg != ['-'] && (s.readFile arg.path).toOption.isNone && !s.isDir arg.path then
        s.failed 1 ("rev: cannot open ".toList ++ arg ++ ": ".toList ++ Fault.notFound.wording.toList)
      else
        match contentOf "rev" s arg with
        | (s, none) => s
        | (s, some b) =>
          s.say ((Bytes.lines b).flatMap fun line =>
            Wide.toBytes (Wide.ofBytes (bare line)).reverse ++
              (if line.getLast? == some '\n' then ['\n'] else []))

/-! ### Numbers of lines -/

/-- Which lines are numbered. -/
inductive Numbered where
  | all
  | filled
  | none
  | matching (m : Matcher)

def numberedOf? : Bytes → Option Numbered
  | ['a'] => some .all
  | ['t'] => some .filled
  | ['n'] => some .none
  | 'p' :: text =>
    match Regex.read .basic (Wide.ofBytes text) with
    | .ok r => some (.matching (Matcher.wide r false false))
    | .error _ => Option.none
  | _ => Option.none

/-- What numbering lines has come to. -/
structure Numbering where
  number : Int
  section_ : Char
  blank : Nat

/-- The marks of sections, by the two characters that they are made of. -/
def sectionOf? (mark : Bytes) (line : Bytes) : Option Char :=
  if mark.isEmpty then none
  else if line == mark ++ mark ++ mark then some 'h'
  else if line == mark ++ mark then some 'b'
  else if line == mark then some 'f'
  else none

/-- Prints lines with their numbers. -/
def numberLines (args : List Bytes) (s : State) : State :=
  let known : Known := .of "b:d:f:h:i:l:n:ps:v:w:"
    ("body-numbering=b section-delimiter=d footer-numbering=f header-numbering=h line-increment=i " ++
      "join-blank-lines=l number-format=n no-renumber=p number-separator=s starting-line-number=v " ++
      "number-width=w version=! help=!")
  withOptions "nl" known args s fun o =>
    let integer := fun (v : Bytes) => match v with
      | '-' :: d => (Bytes.natural? d).map fun n => -(n : Int)
      | d => (Bytes.natural? d).map fun n => (n : Int)
    let bad := o.given.findSome? fun (c, v) =>
      let style := fun (name : String) =>
        if (numberedOf? v).isSome then none
        else some ("invalid ".toList ++ name.toList ++ " numbering style: ".toList ++ cited v ++ advice "nl")
      let number := fun (what : String) (positive : Bool) =>
        match integer v with
        | none => some ("invalid ".toList ++ what.toList ++ ": ".toList ++ cited v)
        | some n => if positive && n ≤ 0 then
            some ("invalid ".toList ++ what.toList ++ ": ".toList ++ cited v ++
              ": Numerical result out of range".toList)
          else none
      match c with
      | 'b' => style "body"
      | 'h' => style "header"
      | 'f' => style "footer"
      | 'v' => number "starting line number" false
      | 'i' => number "line number increment" false
      | 'l' => number "line number of blank lines" true
      | 'w' => number "line number field width" true
      | 'n' => if ["ln", "rn", "rz"].contains (String.ofList v) then none
          else some ("invalid line numbering format: ".toList ++ cited v ++ advice "nl")
      | _ => none
    match bad with
    | some text => refused "nl" text s
    | none =>
      let value := fun (c : Char) (standard : Int) => ((o.value? c).bind integer).getD standard
      let style := fun (c : Char) (standard : Numbered) => ((o.value? c).bind numberedOf?).getD standard
      let width := (value 'w' 6).toNat
      let between := (o.value? 's').getD ['\t']
      let format := String.ofList ((o.value? 'n').getD "rn".toList)
      let join := (value 'l' 1).toNat
      let mark := match o.value? 'd' with
        | some [c] => [c, ':']
        | some v => v
        | none => ['\\', ':']
      let shown := fun (n : Int) =>
        let digits := Bytes.ofInt n
        let fill := width - digits.length
        match format with
        | "ln" => digits ++ List.replicate fill ' '
        | "rz" => if n < 0 then '-' :: List.replicate fill '0' ++ digits.drop 1
          else List.replicate fill '0' ++ digits
        | _ => List.replicate fill ' ' ++ digits
      let start := value 'v' 1
      filterAll "nl" o.args s fun b =>
        ((Bytes.lines b).foldl
          (fun (acc : Bytes × Numbering) line =>
            let (out, w) := acc
            let line := bare line
            match sectionOf? mark line with
            | some c =>
              (out ++ ['\n'], ⟨if o.has 'p' then w.number else start, c, 0⟩)
            | none =>
              let kind := match w.section_ with
                | 'h' => style 'h' .none
                | 'f' => style 'f' .none
                | _ => style 'b' .filled
              let blank := if line.isEmpty then w.blank + 1 else 0
              let isNumbered := match kind with
                | .all => !line.isEmpty || blank == join
                | .filled => !line.isEmpty
                | .none => false
                | .matching m => m.isFound (Wide.ofBytes line)
              let blank := if isNumbered then 0 else blank
              if isNumbered then
                (out ++ shown w.number ++ between ++ line ++ ['\n'],
                  { w with number := w.number + value 'i' 1, blank })
              else
                (out ++ List.replicate (width + between.length) ' ' ++ line ++ ['\n'], { w with blank }))
          ([], ⟨start, 'b', 0⟩)).1

/-! ### Counting -/

/-- The number of words. -/
def wordCount (b : Bytes) : Nat :=
  (b.foldl
    (fun (acc : Nat × Bool) c =>
      if Bytes.isSpace c then (acc.1, false)
      else if c.toNat < 32 || c.toNat == 127 then acc
      else (if acc.2 then acc.1 else acc.1 + 1, true)) (0, false)).1

/-- The number of characters. -/
def characterCount (b : Bytes) : Nat :=
  (Wide.ofBytes b).countP (!Wide.isStray ·)

/-- The width of the longest line. -/
def longestLine (b : Bytes) : Nat :=
  let (longest, column) := (Wide.ofBytes b).foldl
    (fun (acc : Nat × Nat) c =>
      let (longest, column) := acc
      match c with
      | '\n' | '\r' | '\x0c' => (max longest column, 0)
      | '\t' => (longest, column + 8 - column % 8)
      | c => (longest, if c.toNat < 32 || c.toNat == 127 || Wide.isStray c then column else column + 1))
    (0, 0)
  max longest column

/-- Numbers filled up to a width. -/
def columns (width : Nat) (ns : List Nat) : Bytes :=
  Bytes.joined (ns.map fun n =>
    let digits := Bytes.ofNat n
    List.replicate (width - digits.length) ' ' ++ digits)

/-- The width of the numbers, which is told by the sizes of the files that are there. -/
def countWidth (s : State) (args : List Bytes) (single : Bool) : Nat :=
  if single && args.length == 1 then 1
  else
    let sizes := args.map fun (arg : Bytes) =>
      if arg == ['-'] then if s.readsFile then (s.input.length, true) else (0, false)
      else if s.isDir arg.path then (0, false)
      else if (Device.at? ((s.locate true arg.path).toOption.getD [])).isSome then (0, false)
      else
        match s.readFile arg.path with
        | .ok b => (b.length, true)
        | .error _ => (0, true)
    let total := (sizes.map Prod.fst).foldl (· + ·) 0
    let least := if sizes.all Prod.snd then 1 else 7
    max least (Bytes.ofNat total).length

/-- Counts lines, words and bytes. -/
def countText (args : List Bytes) (s : State) : State :=
  let known : Known := .of "clmLw0:"
    ("bytes=c chars=m lines=l words=w files0-from=0 max-line-length=L version=! help=!")
  withOptions "wc" known args s fun o =>
    let wanted := fun c => o.has c || (o.given.isEmpty && ['l', 'w', 'c'].contains c)
    let counts := fun (b : Bytes) =>
      (if wanted 'l' then [b.count '\n'] else []) ++ (if wanted 'w' then [wordCount b] else []) ++
        (if wanted 'm' then [characterCount b] else []) ++ (if wanted 'c' then [b.length] else []) ++
        (if wanted 'L' then [longestLine b] else [])
    let files := inputs o.args
    let width := countWidth s files ((counts []).length == 1)
    let row := fun (b : Bytes) (arg : Bytes) =>
      columns width (counts b) ++ (if o.args.isEmpty then [] else ' ' :: arg) ++ ['\n']
    let (s, status, sums) := files.foldl
      (fun (acc : State × Nat × List Nat) arg =>
        let (s, status, sums) := acc
        match contentOf "wc" s arg with
        | (s', some b) =>
          let own := counts b
          let isLength := fun (i : Nat) => wanted 'L' && i + 1 == own.length
          (s'.say (row b arg), status, (sums.zip own).zipIdx.map fun ((a, b), i) =>
            if isLength i then max a b else a + b)
        | (s', none) =>
          let isDir := if arg == ['-'] then s.readsDirectory 0 else s.isDir arg.path
          (if isDir then s'.say (row [] arg) else s', 1, sums))
      (s.done 0, 0, (counts []).map fun _ => 0)
    let s := if 1 < files.length then s.say (columns width sums ++ " total\n".toList) else s
    s.done status

end ScriptDeps.Shell.Utility
