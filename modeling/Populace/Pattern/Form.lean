import Populace.Pattern.Basic
import Populace.Pattern.Fault

/-!
The form of a pattern: what is written, before it is known what it means. Each part knows
where it stands.
-/

namespace Populace.Pattern

/-- A character that is written; if it is given as a byte beyond the basic ones, that is
noted. -/
structure Literal where
  span : Span
  char : Char
  isHighByte : Bool
  deriving DecidableEq, Repr

/-- The kinds of characters that a letter behind a backslash stands for. -/
inductive Kind where
  | digit
  | blank
  | wordPart
  deriving DecidableEq, Repr

/-- The conditions on places that are written. -/
inductive PlaceSign where
  | textStart
  | textEnd
  /-- The start of the text or of a line. -/
  | start
  /-- The end of the text or of a line. -/
  | stop
  | word (side : WordSide)
  deriving DecidableEq, Repr

/-- The smallest part of a pattern. -/
inductive Atom where
  | char (l : Literal)
  /-- A character of a kind, or of none such. -/
  | kind (span : Span) (kind : Kind) (negated : Bool)
  /-- A character with a property. -/
  | property (span : Span) (name : List Char)
  /-- The point, which stands for most characters. -/
  | point (span : Span)
  | place (span : Span) (sign : PlaceSign)
  deriving DecidableEq, Repr

/-- Where it stands. -/
def Atom.span : Atom → Span
  | char l => l.span
  | kind span .. | property span _ | point span | place span _ => span

/-- What joins two sets. -/
inductive Operator where
  | inter
  | diff
  | symmDiff
  deriving DecidableEq, Repr

/-- A set in brackets, or a part of one. -/
inductive ClassForm where
  /-- An atom that is not a place. -/
  | atom (a : Atom)
  | range (span : Span) (first last : Literal)
  /-- A class of basic characters that has a name, or what is not in it. -/
  | named (span : Span) (members : Text.Runs) (negated : Bool)
  /-- Several parts or none, one behind the other. -/
  | union (span : Span) (items : List ClassForm)
  | operator (span : Span) (operator : Operator) (left right : ClassForm)
  | bracket (span : Span) (negated : Bool) (inner : ClassForm)

namespace ClassForm

/-- Where it stands. -/
def span : ClassForm → Span
  | atom a => a.span
  | range span .. | named span .. | union span _ | operator span .. | bracket span .. => span

/-- Does it name characters, by themselves or as the ends of a range, outside of brackets
and without an operator? -/
def namesChars : ClassForm → Bool
  | atom (.char _) | range .. => true
  | union _ items => items.any fun
    | atom (.char _) | range .. => true
    | _ => false
  | _ => false

/-- Is it of parts, so that it counts in how deep they stand? -/
def isNest : ClassForm → Bool
  | union _ items => 1 < items.length
  | operator .. | bracket .. => true
  | _ => false

/-- The first part that stands deeper than so many others. -/
def tooDeep? : Nat → ClassForm → Option Span
  | 0, f => if f.isNest then some f.span else none
  | n + 1, f => match f with
    | union _ items => items.findSome? (tooDeep? n)
    | operator _ _ left right => (tooDeep? n left).or (tooDeep? n right)
    | bracket _ _ inner => tooDeep? n inner
    | _ => none

end ClassForm

/-- What becomes of the mode of a letter: the modes of the letters before a hyphen are set,
and those of the letters behind it are lifted. -/
def flagState? (flags : List Char) (letter : Char) : Option Bool :=
  if letter ∈ flags.takeWhile (· ≠ '-') then some true
  else if letter ∈ flags then some false
  else none

/-- What a pair of parentheses is for. -/
inductive GroupMark where
  /-- For its own sake; such groups are numbered. -/
  | numbered (number : Nat)
  /-- For modes that hold inside, given by letters. -/
  | flagged (flags : List Char)
  deriving DecidableEq, Repr

/-- A part of a pattern. -/
inductive Form where
  | nothing
  /-- It sets modes for what comes behind. -/
  | directive (flags : List Char)
  | atom (a : Atom)
  /-- A set in brackets. -/
  | set (brackets : ClassForm)
  /-- Several of a kind; few rather than many if that is written. -/
  | several (span : Span) (kind : Form) (least : Nat) (most : Option Nat) (isLazy : Bool)
  | group (span : Span) (mark : GroupMark) (inner : Form)
  | either (span : Span) (arms : List Form)
  | next (span : Span) (parts : List Form)

namespace Form

/-- Where it stands; what means nothing by itself has no place of its own. -/
def span : Form → Span
  | nothing | directive _ => ⟨0, 0⟩
  | atom a => a.span
  | set brackets => brackets.span
  | several span .. | group span .. | either span _ | next span _ => span

/-- Parts that stand one behind the other in a part of the text. -/
def sequence (span : Span) : List Form → Form
  | [] => nothing
  | [f] => f
  | fs => next span fs

/-- The first part that stands deeper than so many others. -/
def tooDeep? : Nat → Form → Option Span
  | 0, f => match f with
    | nothing | directive _ | atom _ => none
    | f => some f.span
  | n + 1, f => match f with
    | nothing | directive _ | atom _ => none
    | set brackets => brackets.tooDeep? (n + 1)
    | several _ kind .. => tooDeep? n kind
    | group _ _ inner => tooDeep? n inner
    | either _ fs | next _ fs => fs.findSome? (tooDeep? n)

end Form

end Populace.Pattern
