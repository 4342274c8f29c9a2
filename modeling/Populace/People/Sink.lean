import Populace.People.Person

/-!
Where people go as they are made.
-/

namespace Populace.People

/-- Something that takes people one by one, with a state of its own. After a failure the
state is what the failure left of it. -/
structure Sink (σ : Type) where
  emit : Person → EStateM Failure σ Unit
  /-- Called once, behind the last person. -/
  finish : EStateM Failure σ Unit

/-- Keeps everybody, the last one first. -/
def Sink.collect : Sink (List Person) where
  emit p := modify (p :: ·)
  finish := return

end Populace.People
