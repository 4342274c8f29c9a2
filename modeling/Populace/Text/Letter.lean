import Populace.Text.Category

/-!
Letters in a wide sense, with or without a case, and the digits of all scripts.
-/

namespace Populace.Text

/-- Letters in circles and squares. -/
def framedLetterRuns : Runs :=
  [(0x24B6, 0x24E9), (0x1F130, 0x1F149), (0x1F150, 0x1F169), (0x1F170, 0x1F189)]

/-- Is it a letter, a number that is one, or a mark that belongs to an alphabet? -/
def isAlphabetic (c : Char) : Bool :=
  let k := Category.of c
  k.isLetter || k = .letterNumber || framedLetterRuns.holds c.toNat
    || Category.alphabeticMarkRuns.holds c.toNat

/-- Is it one of these, or does it stand for a number? -/
def isAlphanumeric (c : Char) : Bool :=
  isAlphabetic c || Category.of c ∈ [.decimalNumber, .otherNumber]

end Populace.Text
