import Populace.Pattern.Meaning
import Populace.Pattern.Reader
import Populace.Pattern.Room
import Populace.Pattern.Search

/-!
The pattern of a text, or why there is none. What is wrong with the form of a pattern comes
before what is wrong with its meaning, and that before what it would take to search for it.
-/

namespace Populace.Pattern

/-- Why a text is refused as a pattern. -/
inductive Refusal where
  | faulty (fault : Fault)
  | tooLarge
  /-- It asks about words of all scripts, for which there are no tables. -/
  | wideEdge
  deriving DecidableEq, Repr

/-- What is said about it. -/
def Refusal.message (text : String) : Refusal → String
  | faulty fault => fault.report text
  | tooLarge => "Compiled regex exceeds size limit of " ++ toString roomLimit ++ " bytes."
  | wideEdge => "error building NFA"

/-- Why a text with this meaning cannot be searched for. -/
def refusal? (p : Pattern) : Option Refusal :=
  if roomLimit < p.room .forward then some .tooLarge
  else if p.hasWideEdge then some .wideEdge
  else if roomLimit < p.room .backward then some .tooLarge
  else none

/-- The pattern of a text. -/
def ofText (text : String) : Except Refusal Pattern := do
  let form ← (Form.ofText text).mapError .faulty
  let (p, _) ← (form.meaning .standard).mapError .faulty
  match p.refusal? with
  | some refusal => throw refusal
  | none => return p

end Populace.Pattern
