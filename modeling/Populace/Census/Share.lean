import Populace.Failure
import Populace.Table

/-!
Sharing a number of people out among countries, in proportion to how many of each
country are on the internet. A country without a location counts in the total, but its
share goes to nobody; each other share is rounded down.
-/

namespace Populace.Census

/-- The users of all countries. -/
def totalUsers (users : Table UInt64) : Nat :=
  (users.values.map UInt64.toNat).foldr (· + ·) 0

/-- The part of `people` that is due to `users` out of `total`, rounded down. -/
def share (people total users : Nat) : Nat :=
  users * people / total

/-- How many of `people` each country with a location gets. Without any users at all
there is nothing to go by. -/
def allocate (users : Table UInt64) (locations : Table α) (people : UInt64) :
    Except Cause (Table UInt64) :=
  let total := totalUsers users
  if total = 0 then .error (.nobodyOnline users.size)
  else .ok <| users.filterMap fun country n =>
    if locations.contains country then
      some (UInt64.ofNat (share people.toNat total n.toNat))
    else none

/-- The countries that get nobody because their location is unknown. -/
def unlocated (users : Table UInt64) (locations : Table α) : List String :=
  users.names.filter fun country => !locations.contains country

end Populace.Census
