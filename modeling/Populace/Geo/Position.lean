import Populace.Decimal.Layout

/-!
Places on the Earth, in degrees.
-/

namespace Populace.Geo

/-- A place. Longitude is the horizontal axis, latitude the vertical one. -/
structure Position where
  longitude : Float
  latitude : Float

namespace Position

/-- Many tables give the latitude first. -/
def ofLatLon (latitude longitude : Float) : Position :=
  ⟨longitude, latitude⟩

/-- Moved by this much to the east and to the north. -/
def offset (p : Position) (east north : Float) : Position :=
  ⟨p.longitude + east, p.latitude + north⟩

/-- The same place, as numbers compare: no place without a number for each coordinate
is the same as any. -/
instance : BEq Position where
  beq p q := p.longitude == q.longitude && p.latitude == q.latitude

/-- The place in messages, longitude first. -/
def text (p : Position) : String :=
  "LonLat(" ++ Decimal.plain p.longitude ++ ", " ++ Decimal.plain p.latitude ++ ")"

end Position

end Populace.Geo
