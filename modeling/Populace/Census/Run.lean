import Populace.Census.Plan
import Populace.Census.Shape
import Populace.People.Sink

/-!
Carrying out a plan: people are made one by one, country by country in the order of the
names, and each is handed to the sink at once.
-/

namespace Populace.Census

open Populace.People

/-- The span of carrying out a plan. -/
def generatingSpan : String := "generate people"

/-- The counter of a country. -/
def countryCounter (country : String) : String :=
  "people in " ++ country

/-- The state of a run: the generator, the journal, and the state of the sink. -/
structure Run (σ : Type) where
  generator : Random.Xorshift
  journal : Journal
  sink : σ

namespace Run

/-- Something done with the generator. -/
def drawing (action : Drawing α) : EStateM Failure (Run σ) α :=
  fun ⟨g, j, s⟩ => match action g with
    | .ok a g => .ok a ⟨g, j, s⟩
    | .error e g => .error e ⟨g, j, s⟩

/-- Something done to the journal. -/
def journaling (action : Journaling α) : EStateM Failure (Run σ) α :=
  fun ⟨g, j, s⟩ => match journaled action j with
    | .ok a j => .ok a ⟨g, j, s⟩
    | .error e j => .error e ⟨g, j, s⟩

/-- Something done with the sink. -/
def sinking (action : EStateM Failure σ α) : EStateM Failure (Run σ) α :=
  fun ⟨g, j, s⟩ => match action s with
    | .ok a s => .ok a ⟨g, j, s⟩
    | .error e s => .error e ⟨g, j, s⟩

end Run

/-- What stays the same while a plan is carried out. -/
structure Setting where
  data : Reference
  options : Options
  today : Calendar.Date

/-- Makes one person and hands it to the sink. -/
def emitPerson (w : Setting) (sink : Sink σ) (country : String) (shape : Shape) :
    EStateM Failure (Run σ) Unit := do
  Run.journaling Journal.next
  let person ← inContext (.making country) <|
    Run.drawing (Person.draw shape w.data.names w.options w.today)
  Run.sinking (sink.emit person)

/-- Makes so many people of a country. -/
def emitPeople (w : Setting) (sink : Sink σ) (country : String) (shape : Shape) :
    Nat → EStateM Failure (Run σ) Unit
  | 0 => return
  | n + 1 => do
    emitPerson w sink country shape
    emitPeople w sink country shape n

/-- Makes the people of one country. -/
def emitCountry (w : Setting) (sink : Sink σ) (country : String) (quota : UInt64) :
    EStateM Failure (Run σ) Unit := do
  match shape? w.data country w.options.model with
  | none => refuse (.noLocation country)
  | some (shape, warning?) =>
    if let some warning := warning? then
      Run.journaling (modify (·.warn warning))
    Run.journaling (Journal.startCounter (countryCounter country) quota.toNat)
    emitPeople w sink country shape quota.toNat

/-- Makes the people of some countries, one country after the other. -/
def emitCountries (w : Setting) (sink : Sink σ) :
    List (String × UInt64) → EStateM Failure (Run σ) Unit
  | [] => return
  | (country, quota) :: rest => do
    emitCountry w sink country quota
    emitCountries w sink rest

/-- Carries the plan out: everybody in it is made and handed to the sink at once, and the
sink is finished behind the last one. Returns how many there are. -/
def Plan.emit (plan : Plan) (w : Setting) (sink : Sink σ) :
    EStateM Failure (Run σ) UInt64 := do
  Run.journaling (modify (·.start generatingSpan))
  emitCountries w sink plan.quotas.entries
  Run.sinking sink.finish
  Run.journaling (Journal.stop generatingSpan)
  return plan.total

/-- Makes a plan as part of a run. -/
def Run.planning (action : EStateM Failure Journal α) : EStateM Failure (Run σ) α :=
  fun ⟨g, j, s⟩ => match action j with
    | .ok a j => .ok a ⟨g, j, s⟩
    | .error e j => .error e ⟨g, j, s⟩

/-- Plans and carries the plan out. -/
def generate (w : Setting) (sink : Sink σ) : EStateM Failure (Run σ) UInt64 := do
  let plan ← Run.planning (Plan.new w.data w.options)
  plan.emit w sink

end Populace.Census
