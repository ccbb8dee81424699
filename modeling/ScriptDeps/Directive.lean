/-
The directives of a script.

A directive is a line that starts with a hash sign, a keyword and a quoted body:

    #r "nuget: Newtonsoft.Json, 12.0.3"     a package
    #load "nuget: Some.Scripts, 1.0.0"      a package of scripts
    #load "helpers/common.csx"              another script
    #r "lib/Local.dll"                      an assembly
    #! "net8.0"                             the target framework

Spaces and tabs may stand before the hash sign, between the keyword and the body and
around the parts of a package; the case of keywords does not matter.  A line that is no
directive is passed over.  What a line contributes hangs on that line alone:
`Directives.parse` goes through the lines, and `Pragma.ofLine?` reads one.

A body that names a scheme, `nuget:` or `sdk:`, is no file, even when it is no package
either.
-/
import ScriptDeps.Reference

namespace ScriptDeps

/-- What a directive line begins with. -/
inductive Keyword where
  /-- `#r` -/
  | reference
  /-- `#load` -/
  | load
  /-- `#!` -/
  | framework
  deriving DecidableEq, Repr

/-- A line with a keyword and a quoted body. -/
structure Pragma where
  keyword : Keyword
  body : List Char
  deriving DecidableEq, Repr

namespace Pragma

/-- A space or a tab. -/
def isGap (c : Char) : Bool :=
  c == ' ' || c == '\t'

/-- The text after the spaces and tabs it starts with. -/
def skipGap (s : List Char) : List Char :=
  s.dropWhile isGap

/-- The keyword after the hash sign, and the text behind it. -/
def keyword? (s : List Char) : Option (Keyword × List Char) :=
  match Text.dropWord? ['r'] s with
  | some rest => some (.reference, rest)
  | none =>
    match Text.dropWord? ['l', 'o', 'a', 'd'] s with
    | some rest => some (.load, rest)
    | none =>
      match Text.dropWord? ['!'] s with
      | some rest => some (.framework, rest)
      | none => none

/-- The text between the quote that opens `s` and the next one; it holds no carriage return. -/
def quoted? : List Char → Option (List Char)
  | '"' :: s =>
    match Text.cutAt? '"' s with
    | some (body, _) => if body.contains '\r' then none else some body
    | none => none
  | _ => none

/-- The directive that a line is, if it is one. -/
def ofLine? (line : List Char) : Option Pragma :=
  match skipGap line with
  | '#' :: s => do
    let (keyword, rest) ← keyword? s
    let body ← quoted? (skipGap rest)
    some ⟨keyword, body⟩
  | _ => none

/-- A character of a package id. -/
def isIdChar (c : Char) : Bool :=
  !(c == ',' || c == '"' || Text.isBlank c)

/-- The package that a body names: `nuget`, a colon, an id, a comma and a version. -/
def packageOf? (body : List Char) : Option PackageReference := do
  let rest ← Text.dropWord? ['n', 'u', 'g', 'e', 't'] (skipGap body)
  let rest ← Text.dropStart? [':'] (skipGap rest)
  let s := skipGap rest
  let id := s.takeWhile isIdChar
  let version ← Text.dropStart? [','] (skipGap (s.dropWhile isIdChar))
  if id.isEmpty then none
  else some (.of (String.ofList id) (String.ofList version))

/-- The body, from its first character that is no blank, begins with a scheme and a colon. -/
def hasScheme (body : List Char) : Bool :=
  let startsWith := fun (scheme : List Char) =>
    match Text.dropWord? scheme (Text.trimStart body) with
    | some rest => (Text.trimStart rest).head? == some ':'
    | none => false
  startsWith ['n', 'u', 'g', 'e', 't'] || startsWith ['s', 'd', 'k']

/-- The text ends in `.dll`, whatever the case. -/
def namesLibrary (s : List Char) : Bool :=
  ['l', 'l', 'd', '.'].isPrefixOf (s.reverse.map Char.toLower)

/-- The package a directive asks for. -/
def package? (p : Pragma) : Option PackageReference :=
  match p.keyword with
  | .framework => none
  | _ => packageOf? p.body

/-- The file that a `#load` names. -/
def load? (p : Pragma) : Option String :=
  let path := Text.trimChars p.body
  if p.keyword == .load && !path.isEmpty && !hasScheme path then some (String.ofList path)
  else none

/-- The assembly that an `#r` names. -/
def assembly? (p : Pragma) : Option String :=
  let path := Text.trimChars p.body
  if p.keyword == .reference && !hasScheme path && namesLibrary path then
    some (String.ofList path)
  else none

/-- The quoted text of a `#!`, unless nothing stands between the quotes. -/
def framework? (p : Pragma) : Option (List Char) :=
  if p.keyword == .framework && !p.body.isEmpty then some p.body else none

end Pragma

/-- The directives of one script, each kind in the order of the lines. -/
structure Directives where
  packages : List PackageReference
  /-- The framework that the first `#!` names; a blank one names none. -/
  framework : Option String
  loads : List String
  assemblies : List String
  deriving DecidableEq, Repr

namespace Directives

/-- The directive lines of a script. -/
def pragmas (source : String) : List Pragma :=
  (Text.splitOn '\n' source.toList).filterMap Pragma.ofLine?

/-- The text without its blanks, unless nothing is left. -/
def frameworkName? (body : List Char) : Option String :=
  let name := Text.trimChars body
  if name.isEmpty then none else some (String.ofList name)

/-- What a script asks for. -/
def parse (source : String) : Directives :=
  let lines := pragmas source
  { packages := lines.filterMap Pragma.package?
    framework := (lines.findSome? Pragma.framework?).bind frameworkName?
    loads := lines.filterMap Pragma.load?
    assemblies := lines.filterMap Pragma.assembly? }

end Directives

end ScriptDeps
