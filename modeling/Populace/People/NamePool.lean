import Populace.Failure
import Populace.Random.Uniform

/-!
First and last names to put together.
-/

namespace Populace.People

/-- Some first and some last names. -/
structure NamePool where
  first : Array String
  last : Array String
  first_pos : 0 < first.size
  last_pos : 0 < last.size

namespace NamePool

/-- The pool of these names, if there are any of both kinds. -/
def ofLists (first last : List String) : Except Cause NamePool :=
  if h : 0 < first.toArray.size ∧ 0 < last.toArray.size then
    .ok ⟨first.toArray, last.toArray, h.1, h.2⟩
  else .error (.tooFewNames first.length last.length)

/-- Where in the pool a first and a last name stand, drawn in that order and without
regard to each other. -/
def drawPlaces (pool : NamePool) : Random.Draw (Nat × Nat) := do
  let first ← Random.Draw.index pool.first.size
  let last ← Random.Draw.index pool.last.size
  return (first, last)

/-- The names at these places, with a space between them. -/
def nameAt (pool : NamePool) (places : Nat × Nat) : String :=
  pool.first.getD places.1 "" ++ " " ++ pool.last.getD places.2 ""

/-- A first and a last name. -/
def draw (pool : NamePool) : Random.Draw String := do
  return pool.nameAt (← pool.drawPlaces)

end NamePool

end Populace.People
