import Populace.Text.Category.Blanks
import Populace.Text.Category.Cased
import Populace.Text.Category.Letters
import Populace.Text.Category.Marks
import Populace.Text.Category.Numbers
import Populace.Text.Category.Signs

/-!
The kinds that Unicode sorts characters into, as of version 17.
-/

namespace Populace.Text

/-- What kind of character it is. -/
inductive Category where
  | uppercaseLetter | lowercaseLetter | titlecaseLetter | modifierLetter | otherLetter
  | nonspacingMark | spacingMark | enclosingMark
  | decimalNumber | letterNumber | otherNumber
  | connector | dash | opening | closing | initialQuote | finalQuote | otherPunctuation
  | mathSymbol | currencySymbol | modifierSymbol | otherSymbol
  | space | lineSeparator | paragraphSeparator
  | control | format | privateUse | unassigned
  deriving DecidableEq, Repr

namespace Category

/-- The characters of each kind; what is in none of them is not assigned. -/
def members : List (Category × (Nat → Bool)) := [
  (.control, Runs.holds [(0x00, 0x1F), (0x7F, 0x9F)]),
  (.lowercaseLetter, fun n => lowerRuns.holds n || lowerSpaced.holdsSpaced n),
  (.uppercaseLetter, fun n => upperRuns.holds n || upperSpaced.holdsSpaced n),
  (.titlecaseLetter, titleRuns.holds),
  (.modifierLetter, modifierLetterRuns.holds),
  (.otherLetter, fun n => basicLetterRuns.holds n || furtherLetterRuns.holds n),
  (.nonspacingMark, nonspacingRuns.holds),
  (.spacingMark, spacingRuns.holds),
  (.enclosingMark, enclosingRuns.holds),
  (.decimalNumber, decimalRuns.holds),
  (.letterNumber, letterNumberRuns.holds),
  (.otherNumber, otherNumberRuns.holds),
  (.connector, connectorRuns.holds),
  (.dash, dashRuns.holds),
  (.opening, openRuns.holds),
  (.closing, closeRuns.holds),
  (.initialQuote, initialRuns.holds),
  (.finalQuote, finalRuns.holds),
  (.otherPunctuation, otherPunctuationRuns.holds),
  (.mathSymbol, mathRuns.holds),
  (.currencySymbol, currencyRuns.holds),
  (.modifierSymbol, modifierSymbolRuns.holds),
  (.otherSymbol, otherSymbolRuns.holds),
  (.space, spaceRuns.holds),
  (.lineSeparator, (· == 0x2028)),
  (.paragraphSeparator, (· == 0x2029)),
  (.format, formatRuns.holds),
  (.privateUse, privateRuns.holds)]

/-- The kind of a character. -/
def of (c : Char) : Category :=
  match members.find? fun (_, holds) => holds c.toNat with
  | some (category, _) => category
  | none => .unassigned

/-- Is it a letter? -/
def isLetter (k : Category) : Bool :=
  k ∈ [uppercaseLetter, lowercaseLetter, titlecaseLetter, modifierLetter, otherLetter]

/-- Is there nothing of it to be seen, on its own or at all? -/
def isHidden (k : Category) : Bool :=
  k ∈ [control, format, privateUse, unassigned, lineSeparator, paragraphSeparator, space,
    nonspacingMark, enclosingMark]

end Category

/-- Is it a blank? -/
def isBlank (c : Char) : Bool :=
  let n := c.toNat
  (0x09 ≤ n && n ≤ 0x0D) || n == 0x20 || n == 0x85
    || (0x80 ≤ n && Category.of c ∈ [.space, .lineSeparator, .paragraphSeparator])

end Populace.Text
