import Populace.People.NamePool
import Populace.Table

/-!
What is known about the world.
-/

namespace Populace.Census

/-- Tables by the name of a country, and names to put together. -/
structure Reference where
  /-- How many people of each country are on the internet. -/
  users : Table UInt64
  /-- Square kilometers; some countries have none. -/
  areas : Table Float
  /-- The centers of countries; nobody lives in a country without one. -/
  locations : Table Geo.Position
  names : People.NamePool

end Populace.Census
