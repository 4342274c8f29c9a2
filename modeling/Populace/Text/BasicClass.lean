import Populace.Text.Runs

/-!
Classes of basic characters, which are those that take one byte: digits, letters, blanks
and what words are made of, and the names of classes.
-/

namespace Populace.Text.BasicClass

/-- Digits. -/
def digits : Runs := [(0x30, 0x39)]

/-- Capital letters. -/
def capitals : Runs := [(0x41, 0x5A)]

/-- Small letters. -/
def smalls : Runs := [(0x61, 0x7A)]

/-- Digits and letters. -/
def alphanumerics : Runs := digits ++ capitals ++ smalls

/-- Letters, digits and the underscore. -/
def wordParts : Runs := digits ++ capitals ++ [(0x5F, 0x5F)] ++ smalls

/-- Blanks. -/
def blanks : Runs := [(0x09, 0x0D), (0x20, 0x20)]

/-- Digits of hexadecimal numbers. -/
def hexDigits : Runs := digits ++ [(0x41, 0x46), (0x61, 0x66)]

/-- The classes that have a name. -/
def named : List (String × Runs) := [
  ("alnum", alphanumerics),
  ("alpha", capitals ++ smalls),
  ("ascii", [(0x00, 0x7F)]),
  ("blank", [(0x09, 0x09), (0x20, 0x20)]),
  ("cntrl", [(0x00, 0x1F), (0x7F, 0x7F)]),
  ("digit", digits),
  ("graph", [(0x21, 0x7E)]),
  ("lower", smalls),
  ("print", [(0x20, 0x7E)]),
  ("punct", [(0x21, 0x2F), (0x3A, 0x40), (0x5B, 0x60), (0x7B, 0x7E)]),
  ("space", blanks),
  ("upper", capitals),
  ("word", wordParts),
  ("xdigit", hexDigits)]

/-- The class of a name. -/
def ofName? (name : List Char) : Option Runs :=
  named.lookup (String.ofList name)

/-- With each basic letter, the one that differs from it in case only. -/
def anyCase (s : Runs) : Runs :=
  let lowered := (s.inter capitals).map fun (first, last) => (first + 0x20, last + 0x20)
  let raised := (s.inter smalls).map fun (first, last) => (first - 0x20, last - 0x20)
  Runs.ordered (s ++ lowered ++ raised)

end Populace.Text.BasicClass
