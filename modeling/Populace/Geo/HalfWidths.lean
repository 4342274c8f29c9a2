import Populace.Geo.Position

/-!
How far from its center a country reaches, when all that is known is its area. The
country is taken to be a square; half its side is turned into degrees of latitude
with one constant, and into degrees of longitude as a `LongitudeModel` says.
-/

namespace Populace.Geo

/-- Kilometers in a degree of latitude, taken to be the same everywhere. -/
def kmPerDegreeLatitude : Float := 111.0

/-- The radius of the Earth at the equator. -/
def earthRadiusMeters : Float := 6378137.0

/-- The circle's constant, as a double. -/
def pi : Float := 3.141592653589793

/-- How half a side in kilometers becomes degrees of longitude. -/
inductive LongitudeModel where
  /-- The arc cosine of a ratio whose units do not match: about 1.57 degrees for nearly
  every country. It is kept so that older data sets can be made again. -/
  | legacy
  /-- Degrees shrink with the cosine of the latitude; there is no answer at the poles. -/
  | equirectangular
  deriving DecidableEq, Repr

namespace LongitudeModel

/-- The model of this name. -/
def ofName? (name : String) : Option LongitudeModel :=
  if name = "legacy" then some .legacy
  else if name = "equirectangular" then some .equirectangular
  else none

/-- What is said about a name that no model has. -/
def unknownMessage (name : String) : String :=
  "unknown longitude model " ++ name ++ "; must be legacy or equirectangular"

end LongitudeModel

/-- How far a country reaches from its center, in degrees. -/
structure HalfWidths where
  latitude : Float
  longitude : Float

/-- Why an area gives no half-widths. -/
inductive WidthFault where
  /-- The area is negative or not finite. -/
  | unusableArea (area : Float)
  /-- The ratio that half this side gives has no arc cosine. -/
  | beyondArcCosine (halfSide ratio : Float)
  /-- A degree of longitude has no length this close to a pole. -/
  | atPole (latitude : Float)

/-- What is said about it. -/
def WidthFault.message : WidthFault → String
  | .unusableArea area => "area " ++ Decimal.plain area ++ " km^2 isn't a usable area"
  | .beyondArcCosine halfSide ratio =>
    "half-side of " ++ Decimal.plain halfSide ++ " km puts acos(" ++ Decimal.plain ratio
      ++ ") outside its domain"
  | .atPole latitude =>
    "can't convert a longitude half-width at latitude " ++ Decimal.plain latitude

/-- Half the side of a square of this area. -/
def halfSide (area : Float) : Float :=
  area.sqrt / 2.0

/-- Degrees of longitude for half a side in kilometers, around a latitude. -/
def LongitudeModel.halfWidth (model : LongitudeModel) (latitude half : Float) :
    Except WidthFault Float :=
  match model with
  | .legacy =>
    let ratio := 180.0 * half / pi / earthRadiusMeters
    if -1.0 ≤ ratio ∧ ratio ≤ 1.0 then .ok ratio.acos
    else .error (.beyondArcCosine half ratio)
  | .equirectangular =>
    let shrink := (latitude * (pi / 180.0)).cos
    if shrink < 1e-7 then .error (.atPole latitude)
    else .ok (half / (kmPerDegreeLatitude * shrink))

/-- How far a country of this area in square kilometers reaches from its center. -/
def halfWidths (center : Position) (area : Float) (model : LongitudeModel) :
    Except WidthFault HalfWidths := do
  if !area.isFinite || area < 0.0 then
    throw (.unusableArea area)
  let half := halfSide area
  let longitude ← model.halfWidth center.latitude half
  return { latitude := half / kmPerDegreeLatitude, longitude }

end Populace.Geo
