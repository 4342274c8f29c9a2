import Populace.Census.Reference
import Populace.Census.Share
import Populace.People.Person

/-!
Plans: how many people each country gets. Unusable ages and tables without users are
refused before there is a plan.
-/

namespace Populace.Census

open Populace.People

/-- How many people each country gets, and how many that is in total. -/
structure Plan where
  quotas : Table UInt64
  total : UInt64

/-- What is told about a plan. -/
def planMessage (users : Table UInt64) (quotas : Table UInt64) (total people : UInt64) :
    String :=
  Text.grouped quotas.size ++ " countries will have " ++ Text.grouped total.toNat
    ++ " people in total (" ++ Text.grouped people.toNat ++ " were requested). "
    ++ Text.grouped (users.size - quotas.size) ++ " countries have no location."

/-- What is told about a country without a location. -/
def skipMessage (country : String) : String :=
  "Skipping " ++ country ++ ", because its location is unknown"

/-- Tells which countries get nobody. -/
def logSkipped (countries : List String) (j : Journal) : Journal :=
  countries.foldl (fun j country => j.log .debug .sharing (skipMessage country)) j

/-- The span of planning. -/
def planningSpan : String := "allocate people to countries"

/-- Plans for some people. -/
def Plan.new (data : Reference) (options : Options) : EStateM Failure Journal Plan := do
  orRefuse options.check
  modify (·.start planningSpan)
  let quotas ← orRefuse (allocate data.users data.locations options.people)
  modify (logSkipped (unlocated data.users data.locations))
  let total := quotas.values.foldr (· + ·) 0
  modify (·.log .info .planning (planMessage data.users quotas total options.people))
  journaled (Journal.stop planningSpan)
  return { quotas, total }

end Populace.Census
