import Populace.Geo.Scatter
import Populace.People.NamePool
import Populace.People.Options
import Populace.People.Uuid

/-!
People: who they are, and how one is made up.
-/

namespace Populace.People

/-- Somebody. -/
structure Person where
  id : Uuid
  name : String
  born : Calendar.Date
  position : Geo.Position

/-- Where people of one country live: without an area, all of them at the center. -/
structure Shape where
  center : Geo.Position
  area : Option Float

/-- The days of a year, leap days left out. -/
def daysPerYear : Int := 365

/-- The date so many years before another; `years` is not positive. -/
def bornOn (today : Calendar.Date) (years : Int) : Except Cause Calendar.Date :=
  match today.addDays? (years * daysPerYear) with
  | some date => .ok date
  | none => .error (.beforeCalendar (-years) today)

/-- Makes somebody up: an identifier, a name, an age and a place, drawn in this order. -/
def Person.draw (shape : Shape) (names : NamePool) (options : Options)
    (today : Calendar.Date) : Drawing Person := do
  orRefuse options.check
  let id ← Uuid.draw.sure
  let name ← names.draw.sure
  let years ← (Random.Draw.between (-options.greatestAge) (-options.leastAge)).sure
  let born ← orRefuse (bornOn today years)
  let position ← Geo.scatter shape.center shape.area options.model
  return { id, name, born, position }

end Populace.People
