import Populace.Sources.Stream
import Populace.Table

/-!
The country file: many fields with semicolons between them, comments, and a row with
the names of the fields.
-/

namespace Populace.Sources

/-- `;` -/
def semicolon : UInt8 := 0x3B

/-- Where in a row the country's name stands. -/
def nameField : Nat := 21

/-- Where in a row the latitude stands. -/
def latitudeField : Nat := 61

/-- Where in a row the longitude stands. -/
def longitudeField : Nat := 62

/-- Is this the first field of a comment? Byte order marks in front do not count. -/
def isComment (first : String) : Bool :=
  (first.toList.dropWhile (· = '\ufeff')).head? == some '#'

/-- A coordinate, or what is wrong with it. -/
def readCoordinate (context : String → Context) (text : String) : Except Failure Float :=
  match Decimal.readFloat text with
  | .ok x => .ok x
  | .error e => .error ((Failure.of (.decimal e)).within (context text))

/-- Gives the country of a row its location. Comments and the row of names are passed
over. -/
def readLocation (t : Table Geo.Position) (row : Rows.Row) :
    Except Failure (Table Geo.Position) := do
  if isComment (← fieldText row 0) then
    return t
  let latitude ← fieldText row latitudeField
  let longitude ← fieldText row longitudeField
  if latitude = "latitude" ∨ longitude = "longitude" then
    return t
  let latitude ← readCoordinate .latitude latitude
  let longitude ← readCoordinate .longitude longitude
  let country ← fieldText row nameField
  return t.insert country (Geo.Position.ofLatLon latitude longitude)

/-- The locations by country; of two rows for one country the later one counts. -/
def readLocations (s : Stream) : Except Failure (Table Geo.Position) :=
  s.foldRows semicolon readLocation Table.empty

end Populace.Sources
