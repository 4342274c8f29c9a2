/-!
What can be wrong with the text of a pattern, and how it is shown: the text, marks under
the part that is meant, and what is wrong with it.
-/

namespace Populace.Pattern

/-- A part of a text: from the place before its first character to that behind its
last. -/
structure Span where
  start : Nat
  stop : Nat
  deriving DecidableEq, Repr

/-- What is wrong. -/
inductive Flaw where
  | groupUnclosed
  | groupUnopened
  | groupNameEmpty
  | groupNameInvalid
  | groupNameUnclosed
  | groupNameDuplicate (first : Span)
  | lookAround
  | backreference
  | flagUnrecognized
  | flagDuplicate (first : Span)
  | flagMissing
  | negationRepeated (first : Span)
  | negationDangling
  | repetitionMissing
  | countUnclosed
  | countMissing
  | countInvalid
  | decimalMissing
  | decimalInvalid
  | classUnclosed
  | classEscape
  | rangeBound
  | rangeInvalid
  | escapeUnrecognized
  | escapeCut
  | hexEmpty
  | hexDigit
  | hexInvalid
  | edgeUnclosed
  | edgeUnrecognized
  | edgeCut
  | propertyForm
  | nestedTooDeep
  | propertyUnknown
  | propertyValueUnknown
  | kindUnknown
  | caseUnknown
  | notInBytes
  | notText
  deriving DecidableEq, Repr

/-- How deep the parts of a pattern may stand in one another. -/
def depthLimit : Nat := 250

/-- The name of what is wrong. -/
def Flaw.message : Flaw → String
  | groupUnclosed => "unclosed group"
  | groupUnopened => "unopened group"
  | groupNameEmpty => "empty capture group name"
  | groupNameInvalid => "invalid capture group character"
  | groupNameUnclosed => "unclosed capture group name"
  | groupNameDuplicate _ => "duplicate capture group name"
  | lookAround => "look-around, including look-ahead and look-behind, is not supported"
  | backreference => "backreferences are not supported"
  | flagUnrecognized => "unrecognized flag"
  | flagDuplicate _ => "duplicate flag"
  | flagMissing => "expected flag but got end of regex"
  | negationRepeated _ => "flag negation operator repeated"
  | negationDangling => "dangling flag negation operator"
  | repetitionMissing => "repetition operator missing expression"
  | countUnclosed => "unclosed counted repetition"
  | countMissing => "repetition quantifier expects a valid decimal"
  | countInvalid => "invalid repetition count range, the start must be <= the end"
  | decimalMissing => "decimal literal empty"
  | decimalInvalid => "decimal literal invalid"
  | classUnclosed => "unclosed character class"
  | classEscape => "invalid escape sequence found in character class"
  | rangeBound => "invalid range boundary, must be a literal"
  | rangeInvalid => "invalid character class range, the start must be <= the end"
  | escapeUnrecognized => "unrecognized escape sequence"
  | escapeCut => "incomplete escape sequence, reached end of pattern prematurely"
  | hexEmpty => "hexadecimal literal empty"
  | hexDigit => "invalid hexadecimal digit"
  | hexInvalid => "hexadecimal literal is not a Unicode scalar value"
  | edgeUnclosed =>
    "special word boundary assertion is either unclosed or contains an invalid character"
  | edgeUnrecognized =>
    "unrecognized special word boundary assertion, valid choices are: start, end, "
      ++ "start-half or end-half"
  | edgeCut =>
    "found either the beginning of a special word boundary or a bounded repetition on a \\b "
      ++ "with an opening brace, but no closing brace"
  | propertyForm => "invalid Unicode character class"
  | nestedTooDeep =>
    "exceed the maximum number of nested parentheses/brackets (" ++ toString depthLimit ++ ")"
  | propertyUnknown => "Unicode property not found"
  | propertyValueUnknown => "Unicode property value not found"
  | kindUnknown =>
    "Unicode-aware Perl class not found (make sure the unicode-perl feature is enabled)"
  | caseUnknown =>
    "Unicode-aware case insensitivity matching is not available (make sure the unicode-case "
      ++ "feature is enabled)"
  | notInBytes => "Unicode not allowed here"
  | notText => "pattern can match invalid UTF-8"

/-- The part that is wrongly repeated, if that is what is wrong. -/
def Flaw.repeated? : Flaw → Option Span
  | groupNameDuplicate s | flagDuplicate s | negationRepeated s => some s
  | _ => none

/-- What is wrong, and where. -/
structure Fault where
  flaw : Flaw
  span : Span
  deriving DecidableEq, Repr

/-- A place by its line and its column, both counted from nought. -/
structure Spot where
  line : Nat
  column : Nat
  deriving DecidableEq, Repr

/-- The spot at a place in a text. -/
def Spot.ofPlace (text : List Char) (place : Nat) : Spot :=
  let before := text.take place
  { line := before.count '\n'
    column := (before.reverse.takeWhile (· ≠ '\n')).length }

/-- The lines of a text. What stands behind the last line feed is one if there is
something. -/
def linesOf (text : String) : List String :=
  let pieces := text.splitOn "\n"
  let ended := pieces.dropLast.map fun line =>
    if line.endsWith "\r" then String.ofList line.toList.dropLast else line
  ended ++ (pieces.getLast?.filter (· ≠ "")).toList

/-- Marks under the columns from the first spot to the second of each pair, one at
least, in a line that begins further right by a margin. -/
def marks (margin : Nat) (parts : List (Spot × Spot)) : String :=
  parts.foldl (fun line (a, b) =>
    let line := line.pushn ' ' (margin + a.column - line.length)
    line.pushn '^' (max 1 (b.column - a.column))) ("".pushn ' ' margin)

/-- The number of a line, with blanks before it up to a width. -/
def numberText (width n : Nat) : String :=
  let digits := toString n
  "".pushn ' ' (width - digits.length) ++ digits

/-- The parts of a text that are on one line, or those that are not. -/
def Fault.parts (f : Fault) (text : String) (onOneLine : Bool) : List (Spot × Spot) :=
  let spans := f.span :: f.flaw.repeated?.toList
  let spans := spans.mergeSort fun a b => a.start ≤ b.start
  (spans.map fun s => (Spot.ofPlace text.toList s.start, Spot.ofPlace text.toList s.stop))
    |>.filter fun (a, b) => (a.line == b.line) == onOneLine

/-- The lines of the text, with marks below those where something is wrong. If there are
several they are numbered. -/
def Fault.marked (f : Fault) (text : String) : List String :=
  let lines := linesOf text
  let count := lines.length + if text.endsWith "\n" then 1 else 0
  let width := (toString count).length
  let margin := if count ≤ 1 then 4 else width + 2
  let parts := f.parts text true
  lines.zipIdx.flatMap fun (line, i) =>
    let front := if count ≤ 1 then "    " else numberText width (i + 1) ++ ": "
    let here := parts.filter fun (a, _) => a.line == i
    (front ++ line) :: if here.isEmpty then [] else [marks margin here]

/-- A line between the text and what is said about it. -/
def divider : String :=
  "".pushn '~' 79

/-- What is said about a part that goes over several lines. -/
def spread (a b : Spot) : String :=
  "on line " ++ toString (a.line + 1) ++ " (column " ++ toString (a.column + 1)
    ++ ") through line " ++ toString (b.line + 1) ++ " (column " ++ toString b.column ++ ")"

/-- The fault in a pattern of this text, shown. A text of several lines stands between
dividers. -/
def Fault.report (f : Fault) (text : String) : String :=
  let body := f.marked text
  let body :=
    if text.contains '\n' then
      [divider] ++ body ++ [divider]
        ++ (f.parts text false).map fun (a, b) => spread a b
    else body
  "\n".intercalate (["regex parse error:"] ++ body ++ ["error: " ++ f.flaw.message])

end Populace.Pattern
