import Populace.Log
import Populace.Pattern.Refusal

/-!
Which messages are shown. A filter is a list of levels for parts of the program,
separated by commas, such as `info,importer=debug`; a part is named by the beginning of
its name, and the longest name counts. Behind a slash may stand a pattern that must be
found in messages.
-/

namespace Populace.Command

/-- How much is shown: messages of fewer than so many levels that matter more. Zero is
nothing at all. -/
abbrev Verbosity := Nat

/-- Everything is shown. -/
def everything : Verbosity := Level.trace.rank + 1

/-- Shows messages of these parts up to a level; without a name, of all. -/
structure Directive where
  name : Option String
  verbosity : Verbosity
  deriving DecidableEq, Repr

/-- Which messages are shown. -/
structure LogFilter where
  directives : List Directive
  /-- What must be found in a message, if anything. -/
  pattern : Option Pattern

/-- The text without blanks at its ends. -/
def trimmed (text : String) : String :=
  String.ofList ((text.toList.dropWhile Text.isBlank).reverse.dropWhile Text.isBlank).reverse

/-- A level's name, in letters of either case. -/
def readVerbosity (text : String) : Option Verbosity :=
  let word := text.map Char.toUpper
  if word = "OFF" then some 0
  else [Level.error, .warn, .info, .debug, .trace].find? (·.name = word)
    |>.map fun level => level.rank + 1

/-- One item of a list: a directive, or the text that cannot be one. -/
def readDirective (item : String) : Except String Directive :=
  match item.splitOn "=" with
  | [part] =>
    match readVerbosity part with
    | some v => .ok ⟨none, v⟩
    | none => .ok ⟨some part, everything⟩
  | [part, level] =>
    let level := trimmed level
    if level.isEmpty then .ok ⟨some part, everything⟩
    else match readVerbosity level with
      | some v => .ok ⟨some part, v⟩
      | none => .error level
  | _ => .error item

/-- Adds a directive, instead of one for the same name if there is one. -/
def addDirective (ds : List Directive) (d : Directive) : List Directive :=
  if ds.any (·.name = d.name) then ds.map fun e => if e.name = d.name then d else e
  else ds ++ [d]

/-- What is said about a part of a filter that means nothing. -/
def filterWarning (part : String) : String :=
  "warning: invalid logging spec '" ++ part ++ "', ignoring it"

/-- Goes through the items of a list, and collects warnings about those that mean
nothing. -/
def readDirectives (items : List String) : List String × List Directive :=
  items.foldl (fun (warnings, ds) item =>
    let item := trimmed item
    if item.isEmpty then (warnings, ds)
    else match readDirective item with
      | .ok d => (warnings, addDirective ds d)
      | .error part => (warnings ++ [filterWarning part], ds)) ([], [])

namespace LogFilter

/-- Without any directive, errors alone are shown. -/
def ofDirectives (ds : List Directive) (pattern : Option Pattern) : LogFilter :=
  ⟨if ds.isEmpty then [⟨none, Level.error.rank + 1⟩] else ds, pattern⟩

/-- The pattern of a text, or a warning that it is none. -/
def readPattern (text : String) : List String × Option Pattern :=
  match Pattern.ofText text with
  | .ok p => ([], some p)
  | .error refusal => (["warning: invalid regex filter - " ++ refusal.message text], none)

/-- The filter of a text, and warnings about it. -/
def ofText (text : String) : List String × LogFilter :=
  match text.splitOn "/" with
  | [] => ([], ofDirectives [] none)
  | [list] =>
    let (warnings, ds) := readDirectives (list.splitOn ",")
    (warnings, ofDirectives ds none)
  | [list, pattern] =>
    let (warnings, ds) := readDirectives (list.splitOn ",")
    let (more, pattern) := readPattern pattern
    (warnings ++ more, ofDirectives ds pattern)
  | _ => ([filterWarning text ++ " (too many '/'s)"], ofDirectives [] none)

/-- What holds where nothing is said. -/
def standard : String := "info"

/-- The size of a directive's name; no name has none. -/
def nameSize (d : Directive) : Nat :=
  (d.name.map String.utf8ByteSize).getD 0

/-- The directive for a part of the program: of those whose name its own begins with,
the one with the longest name, and of several such the last. -/
def directiveFor? (f : LogFilter) (target : String) : Option Directive :=
  f.directives.foldl (fun best d =>
    let applies := (d.name.getD "").toList.isPrefixOf target.toList
    let better := match best with
      | none => true
      | some b => nameSize b ≤ nameSize d
    if applies && better then some d else best) none

/-- Is the message shown? -/
def shows (f : LogFilter) (r : Record) : Bool :=
  (match f.directiveFor? r.origin.target with
    | some d => r.level.rank < d.verbosity
    | none => false)
  && f.pattern.all (·.isIn r.text)

end LogFilter

end Populace.Command
