import Populace.Census.Reference
import Populace.People.Person

/-!
Where the people of a country live. An area that gives no half-widths is left out once
and for all, with a warning, and everybody there lives at the center.
-/

namespace Populace.Census

open Populace.People

/-- What is told about an area that is of no use. -/
def unusableAreaWarning (country : String) (fault : Geo.WidthFault)
    (center : Geo.Position) : String :=
  country ++ " has an unusable area (" ++ fault.message
    ++ "), so everybody there will be placed at " ++ center.text

/-- The shape of a country that has a location, and a warning if its area is of no use
and left out. -/
def shape? (data : Reference) (country : String) (model : Geo.LongitudeModel) :
    Option (Shape × Option String) :=
  match data.locations.get? country with
  | none => none
  | some center =>
    match data.areas.get? country with
    | none => some (⟨center, none⟩, none)
    | some area =>
      match Geo.halfWidths center area model with
      | .ok _ => some (⟨center, some area⟩, none)
      | .error fault =>
        some (⟨center, none⟩, some (unusableAreaWarning country fault center))

end Populace.Census
