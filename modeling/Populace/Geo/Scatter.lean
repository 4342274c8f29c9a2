import Populace.Failure
import Populace.Random.Uniform

/-!
A random place in a country that is known by its center and, perhaps, its area.
-/

namespace Populace

/-- What is drawn from a generator, but may fail on the way. -/
abbrev Drawing := EStateM Failure Random.Xorshift

/-- A draw that cannot fail. -/
def Random.Draw.sure (draw : Random.Draw α) : Drawing α :=
  fun g => let (a, g) := draw g; .ok a g

namespace Geo

/-- A float from `-bound` to `bound`. -/
def within (bound : Float) : Drawing Float :=
  match Random.scale? (-bound) bound with
  | none => throw (.crashed (.noInterval (-bound) bound))
  | some scale => (Random.Draw.scaled (-bound) scale).sure

/-- A place no farther from the center than the half-widths: latitude is drawn first. A
country without an area is its center alone, and nothing is drawn. -/
def scatter (center : Position) (area : Option Float) (model : LongitudeModel) :
    Drawing Position :=
  match area with
  | none => return center
  | some area =>
    match halfWidths center area model with
    | .error fault => refuse (.width fault)
    | .ok widths => do
      let north ← within widths.latitude
      let east ← within widths.longitude
      return center.offset east north

end Geo

end Populace
