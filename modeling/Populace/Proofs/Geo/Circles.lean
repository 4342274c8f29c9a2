import Populace.Geo.Scatter

/-!
# Half-widths by any cosine

Half-widths and places take the cosine and the arc cosine from the library, which says no more
of them than where their values lie. Here both are a parameter (`Circle`), so that half-widths
can be computed with functions that are known.
-/

namespace Populace.Geo

/-- A cosine and an arc cosine. -/
structure Circle where
  cos : Float → Float
  acos : Float → Float

namespace Circle

/-- Those of the library. -/
def library : Circle := ⟨Float.cos, Float.acos⟩

/-- Where the values of the arc cosine lie: from zero to half the circle, for every number
that is a cosine. -/
def InRange (circle : Circle) : Prop :=
  ∀ r : Float, -1.0 ≤ r → r ≤ 1.0 → 0.0 ≤ circle.acos r ∧ circle.acos r ≤ pi

end Circle

/-- Degrees of longitude for half a side in kilometers, around a latitude. -/
def LongitudeModel.halfWidthBy (circle : Circle) (model : LongitudeModel) (latitude half : Float) :
    Except WidthFault Float :=
  match model with
  | .legacy =>
    let ratio := 180.0 * half / pi / earthRadiusMeters
    if -1.0 ≤ ratio ∧ ratio ≤ 1.0 then .ok (circle.acos ratio)
    else .error (.beyondArcCosine half ratio)
  | .equirectangular =>
    let shrink := circle.cos (latitude * (pi / 180.0))
    if shrink < 1e-7 then .error (.atPole latitude)
    else .ok (half / (kmPerDegreeLatitude * shrink))

/-- How far a country of this area in square kilometers reaches from its center. -/
def halfWidthsBy (circle : Circle) (center : Position) (area : Float) (model : LongitudeModel) :
    Except WidthFault HalfWidths := do
  if !area.isFinite || area < 0.0 then
    throw (.unusableArea area)
  let half := halfSide area
  let longitude ← model.halfWidthBy circle center.latitude half
  return { latitude := half / kmPerDegreeLatitude, longitude }

/-- A place no farther from the center than the half-widths. -/
def scatterBy (circle : Circle) (center : Position) (area : Option Float)
    (model : LongitudeModel) : Drawing Position :=
  match area with
  | none => return center
  | some area =>
    match halfWidthsBy circle center area model with
    | .error fault => refuse (.width fault)
    | .ok widths => do
      let north ← within widths.latitude
      let east ← within widths.longitude
      return center.offset east north

theorem halfWidthsBy_library : halfWidthsBy .library = halfWidths := rfl

theorem scatterBy_library : scatterBy .library = scatter := rfl

end Populace.Geo
