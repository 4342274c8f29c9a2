import Populace.Proofs.People.Mishaps

/-!
# What is drawn before a place

Who somebody is, and how old, is drawn before the place. A `Draft` is what is drawn: an
identifier, two places in the lists of names, and by how many years the age falls short of
the greatest one. It depends on nothing but how much there is to choose from (`Choices`):
not on the names themselves, not on the date, and not on where people live.
-/

namespace Populace.People

open Populace.Random

/-- How much there is to choose from. -/
structure Choices where
  first : Nat
  last : Nat
  /-- The years between the least and the greatest age. -/
  span : Int
  deriving DecidableEq, Repr

/-- What is drawn about somebody before the place. -/
structure Draft where
  id : Uuid
  /-- Where the first and the last name stand in their lists. -/
  places : Nat × Nat
  /-- How many years are missing to the greatest age. -/
  younger : Nat
  deriving DecidableEq, Repr

/-- Draws an identifier, a first and a last name, and an age. -/
def Draft.draw (c : Choices) : Draw Draft := do
  let id ← Uuid.draw
  let first ← Draw.index c.first
  let last ← Draw.index c.last
  let younger ← Draw.belowWithin 64 (c.span + 1).toNat (UInt64.toNat <$> Draw.longWord) stateCount
  return ⟨id, (first, last), younger⟩

/-- What there is to choose from in these lists of names and with these ages. -/
def choices (names : NamePool) (options : Options) : Choices :=
  ⟨names.first.size, names.last.size, options.greatestAge - options.leastAge⟩

/-- Somebody is who the draft says: both names stand where it says, and the age is so much
below the greatest one. -/
structure Draft.Describes (d : Draft) (names : NamePool) (options : Options)
    (today : Calendar.Date) (p : Person) : Prop where
  id : p.id = d.id
  first_lt : d.places.1 < names.first.size
  last_lt : d.places.2 < names.last.size
  name : p.name = names.nameAt d.places
  least_le : options.leastAge ≤ options.greatestAge - d.younger
  born : today.addDays? (-(options.greatestAge - d.younger) * daysPerYear) = some p.born

theorem addDays_of_bornOn {today born : Calendar.Date} {years : Int}
    (h : bornOn today years = .ok born) : today.addDays? (years * daysPerYear) = some born := by
  rw [bornOn] at h
  cases hdate : today.addDays? (years * daysPerYear) with
  | none =>
      rw [hdate] at h
      cases h
  | some date =>
      rw [hdate] at h
      cases h
      rfl

/-! ## The four draws -/

/-- The draws of a draft, one behind the other, with the generator between them. -/
structure Draft.Steps (c : Choices) (d : Draft) (g g₁ g₂ g₃ h : Xorshift) : Prop where
  id : Uuid.draw g = (d.id, g₁)
  first : Draw.index c.first g₁ = (d.places.1, g₂)
  last : Draw.index c.last g₂ = (d.places.2, g₃)
  younger : Draw.belowWithin 64 (c.span + 1).toNat (UInt64.toNat <$> Draw.longWord) stateCount g₃
    = (d.younger, h)

theorem Draft.exists_steps (c : Choices) (g : Xorshift) :
    ∃ d g₁ g₂ g₃ h, Draft.draw c g = (d, h) ∧ Draft.Steps c d g g₁ g₂ g₃ h := by
  obtain ⟨id, g₁, hid⟩ : ∃ id g₁, Uuid.draw g = (id, g₁) := ⟨_, _, (Prod.eta _).symm⟩
  obtain ⟨first, g₂, hfirst⟩ : ∃ first g₂, Draw.index c.first g₁ = (first, g₂) :=
    ⟨_, _, (Prod.eta _).symm⟩
  obtain ⟨last, g₃, hlast⟩ : ∃ last g₃, Draw.index c.last g₂ = (last, g₃) :=
    ⟨_, _, (Prod.eta _).symm⟩
  obtain ⟨younger, h, hyounger⟩ : ∃ younger h, Draw.belowWithin 64 (c.span + 1).toNat
      (UInt64.toNat <$> Draw.longWord) stateCount g₃ = (younger, h) :=
    ⟨_, _, (Prod.eta _).symm⟩
  refine ⟨⟨id, (first, last), younger⟩, g₁, g₂, g₃, h, ?_, hid, hfirst, hlast, hyounger⟩
  rw [Draft.draw, Draw.bind_of_eq hid, Draw.bind_of_eq hfirst, Draw.bind_of_eq hlast,
    Draw.bind_of_eq hyounger]
  rfl

section Making

variable {shape : Shape} {names : NamePool} {options : Options} {today : Calendar.Date}
  {g h g₁ g₂ g₃ m : Xorshift} {p : Person} {d : Draft}

theorem name_of_steps (hsteps : Draft.Steps (choices names options) d g g₁ g₂ g₃ m) :
    names.draw g₁ = (names.nameAt d.places, g₃) := by
  have hfirst : Draw.index names.first.size g₁ = (d.places.1, g₂) := hsteps.first
  have hlast : Draw.index names.last.size g₂ = (d.places.2, g₃) := hsteps.last
  have hplaces : names.drawPlaces g₁ = (d.places, g₃) := by
    rw [NamePool.drawPlaces, Draw.bind_of_eq hfirst, Draw.bind_of_eq hlast]
    rfl
  rw [NamePool.draw, Draw.bind_of_eq hplaces]
  rfl

theorem places_of_steps (hsteps : Draft.Steps (choices names options) d g g₁ g₂ g₃ m) :
    d.places.1 < names.first.size ∧ d.places.2 < names.last.size := by
  have hfirst := Draw.index_lt names.first_pos g₁
  have hlast := Draw.index_lt names.last_pos g₂
  rw [show Draw.index names.first.size g₁ = _ from hsteps.first] at hfirst
  rw [show Draw.index names.last.size g₂ = _ from hsteps.last] at hlast
  exact ⟨hfirst, hlast⟩

/-- An age is drawn as its distance to the greatest one. -/
theorem years_of_steps (hsteps : Draft.Steps (choices names options) d g g₁ g₂ g₃ m) :
    Draw.between (-options.greatestAge) (-options.leastAge) g₃
      = (-(options.greatestAge - d.younger), m) := by
  have hspan : -options.leastAge - -options.greatestAge + 1
      = options.greatestAge - options.leastAge + 1 := by omega
  have hyounger := hsteps.younger
  simp only [choices] at hyounger
  rw [← hspan] at hyounger
  have hage : -options.greatestAge + (d.younger : Int)
      = -(options.greatestAge - d.younger) := by omega
  rw [Draw.between, Draw.bind_of_eq hyounger, ← hage]
  rfl

theorem yearsDrawn_of_steps (hsteps : Draft.Steps (choices names options) d g g₁ g₂ g₃ m) :
    yearsDrawn names options g = .ok (-(options.greatestAge - d.younger)) m := by
  rw [yearsDrawn, bind_of_ok (run_sure _ g), hsteps.id, bind_of_ok (run_sure _ g₁),
    name_of_steps hsteps, run_sure, years_of_steps hsteps]

/-- With ages in order, whoever is made is who the draft says, born and placed with the
generator behind it. -/
theorem draw_of_steps (hages : options.HasAges)
    (hsteps : Draft.Steps (choices names options) d g g₁ g₂ g₃ m) :
    Person.draw shape names options today g = (do
      let born ← orRefuse (bornOn today (-(options.greatestAge - d.younger)))
      let position ← Geo.scatter shape.center shape.area options.model
      return { id := d.id, name := names.nameAt d.places, born, position } : Drawing Person) m := by
  rw [Person.draw, Options.check_eq_ok_iff.2 hages, bind_of_ok (orRefuse_ok () g),
    bind_of_ok (run_sure _ g), hsteps.id, bind_of_ok (run_sure _ g₁), name_of_steps hsteps,
    bind_of_ok (run_sure _ g₃), years_of_steps hsteps]

/-- Whoever is made is described by the draft that the generator gives, and is placed with
the generator behind it. -/
theorem describes_of_draw (hdraw : Person.draw shape names options today g = .ok p h) :
    (Draft.draw (choices names options) g).1.Describes names options today p
      ∧ Geo.scatter shape.center shape.area options.model
          (Draft.draw (choices names options) g).2 = .ok p.position h := by
  by_cases hages : options.HasAges
  · obtain ⟨d, g₁, g₂, g₃, m, hdraft, hsteps⟩ := Draft.exists_steps (choices names options) g
    rw [draw_of_steps hages hsteps] at hdraw
    rw [hdraft]
    cases hborn : bornOn today (-(options.greatestAge - d.younger)) with
    | error c =>
        rw [hborn, bind_of_error (orRefuse_error c m)] at hdraw
        cases hdraw
    | ok born =>
        rw [hborn, bind_of_ok (orRefuse_ok born m)] at hdraw
        obtain ⟨position, k, hplace, hdone⟩ := bind_eq_ok_iff.1 hdraw
        cases hdone
        obtain ⟨hfirst, hlast⟩ := places_of_steps hsteps
        have hyears := yearsDrawn_mem hages (yearsDrawn_of_steps hsteps)
        exact ⟨⟨rfl, hfirst, hlast, rfl, by dsimp only; omega, addDays_of_bornOn hborn⟩, hplace⟩
  · rw [draw_of_bad_ages hages] at hdraw
    cases hdraw

end Making

end Populace.People
