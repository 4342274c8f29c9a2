import Populace.Sources.Stream
import Populace.Table

/-!
Rank files: rank, country and a whole number, with tabs between them.
-/

namespace Populace.Sources

/-- `\t` -/
def tab : UInt8 := 0x09

/-- A whole number, in which commas do not count. -/
def readNumber (text : String) : Except Failure UInt64 :=
  match Decimal.readWhole (String.ofList (text.toList.filter (· ≠ ','))) with
  | .ok n => .ok n
  | .error e => .error ((Failure.of (.whole e)).within (.wholeNumber text))

/-- Gives the country of a row its number. -/
def readRank (t : Table UInt64) (row : Rows.Row) : Except Failure (Table UInt64) := do
  let country ← fieldText row 1
  let value ← readNumber (← fieldText row 2)
  return t.insert country value

/-- The numbers by country; of two rows for one country the later one counts. -/
def readRankFile (s : Stream) : Except Failure (Table UInt64) :=
  s.foldRows tab readRank Table.empty

/-- How many people of each country are on the internet. -/
def readUsers (s : Stream) : Except Failure (Table UInt64) :=
  readRankFile s

/-- The area of each country in square kilometers. -/
def readAreas (s : Stream) : Except Failure (Table Float) :=
  (readRankFile s).map (Table.map UInt64.toFloat)

end Populace.Sources
