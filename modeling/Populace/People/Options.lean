import Populace.Failure

/-!
What may be chosen about the people to make.
-/

namespace Populace.People

/-- Nobody gets older than this. -/
def greatestAgeAllowed : Int := 1000

/-- How many people to aim for, how old they are in years of 365 days, and how to spread
them from east to west. -/
structure Options where
  people : UInt64 := 10000000
  leastAge : Int := 18
  greatestAge : Int := 100
  model : Geo.LongitudeModel := .legacy
  deriving DecidableEq

namespace Options

/-- The ages form a range among those allowed. -/
def HasAges (o : Options) : Prop :=
  0 ≤ o.leastAge ∧ o.leastAge ≤ o.greatestAge ∧ o.greatestAge ≤ greatestAgeAllowed

instance (o : Options) : Decidable o.HasAges :=
  inferInstanceAs (Decidable (_ ∧ _ ∧ _))

/-- Refuses ages that are no range, or beyond the greatest age allowed. -/
def check (o : Options) : Except Cause Unit :=
  if o.HasAges then .ok () else .error (.ages o.leastAge o.greatestAge)

end Options

end Populace.People
