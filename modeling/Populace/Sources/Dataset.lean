/-!
The reference tables that a population is made from.
-/

namespace Populace.Sources

/-- A reference table. -/
inductive Dataset where
  | internetUsers
  | areas
  | locations
  | firstNames
  | lastNames
  deriving DecidableEq, Repr

namespace Dataset

/-- All of them, in the order in which they are loaded. -/
def all : List Dataset :=
  [.internetUsers, .areas, .locations, .firstNames, .lastNames]

/-- What the table holds, in messages. -/
def description : Dataset → String
  | .internetUsers => "internet users by country"
  | .areas => "area by country"
  | .locations => "location by country"
  | .firstNames => "first names"
  | .lastNames => "last names"

/-- The table's name in settings and in the names of files. -/
def key : Dataset → String
  | .internetUsers => "internet_users"
  | .areas => "areas"
  | .locations => "locations"
  | .firstNames => "first_names"
  | .lastNames => "last_names"

end Dataset

end Populace.Sources
