import Populace.Proofs.Calendar
import Populace.Proofs.Geo.Bounds
import Populace.Proofs.People.Drafts
import Populace.Proofs.People.RandomIdentifiers

/-!
# Making somebody

Ages that are no range are refused before anything is drawn. With ages in order there is
always an age drawn, and `Making` says what comes of it: the date of birth lies before the
calendar, or the area of the country gives no half-widths, or a half-width is no number, or
there is somebody new, who is all that was asked for (`Made`).
-/

namespace Populace.People

open Populace.Random
open Populace.Calendar (Civil Date civilOf)

/-- Somebody new, as old as `age` years of 365 days, made with the generator `g` and placed
with the generator `m`, which is `h` behind the placing. -/
structure Made (shape : Shape) (names : NamePool) (today : Date) (age : Int)
    (g m : Xorshift) (p : Person) (h : Xorshift) : Prop where
  id : p.id.IsRandom g
  name : ∃ first ∈ names.first, ∃ last ∈ names.last, p.name = first ++ " " ++ last
  number : p.born.number = today.number - 365 * age
  /-- As people count days, it is so many of them from the date of birth to today. -/
  days : Civil.next^[(365 * age).toNat] (civilOf p.born.number) = civilOf today.number
  center : shape.area = none → p.position = shape.center ∧ h = m

/-- What comes of making somebody of this age; `g` is the generator in front of the
identifier and `m` the one behind the age. -/
inductive Making (shape : Shape) (names : NamePool) (model : Geo.LongitudeModel) (today : Date)
    (age : Int) (g m : Xorshift) : EStateM.Result Failure Xorshift Person → Prop
  | unborn : today.number - 365 * age < Calendar.earliest →
      Making shape names model today age g m (.error (.of (.beforeCalendar age today)) m)
  | unscattered {area fault} : Calendar.earliest ≤ today.number - 365 * age →
      shape.area = some area → Geo.halfWidths shape.center area model = .error fault →
      Making shape names model today age g m (.error (.of (.width fault)) m)
  | crashed {b h} : Calendar.earliest ≤ today.number - 365 * age →
      shape.Unbounded model b → ((model = .legacy → Geo.ArcCosineInRange) → b.isNaN = true) →
      Making shape names model today age g m (.error (.crashed (.noInterval (-b) b)) h)
  | made {p h} : Made shape names today age g m p h →
      Making shape names model today age g m (.ok p h)

section

variable {shape : Shape} {names : NamePool} {model : Geo.LongitudeModel} {options : Options}
  {today born : Date} {age : Int} {d : Draft} {e : Failure} {g g₁ g₂ g₃ h k m : Xorshift}

/-! ## What is refused -/

/-- Placing somebody fails for an area without half-widths, before anything is drawn, or for a
half-width that is no number. -/
theorem scatter_error_cases (h : Geo.scatter shape.center shape.area model g = .error e k) :
    (∃ area fault, shape.area = some area
      ∧ Geo.halfWidths shape.center area model = .error fault ∧ e = .of (.width fault) ∧ k = g)
    ∨ ∃ b, shape.Unbounded model b ∧ ((model = .legacy → Geo.ArcCosineInRange) → b.isNaN = true)
      ∧ e = .crashed (.noInterval (-b) b) := by
  by_cases hsound : shape.Sound model
  · obtain ⟨b, hb, rfl⟩ := unbounded_of_scatter hsound h
    obtain ⟨area, widths, -, hwidths, hwidth⟩ := hb.halfWidth
    exact .inr ⟨b, hb, fun hacos => Geo.isNaN_of_noInterval hwidths hacos hwidth hb.noInterval, rfl⟩
  · rw [Shape.Sound] at hsound
    push Not at hsound
    obtain ⟨area, harea, hnone⟩ := hsound
    cases hwidths : Geo.halfWidths shape.center area model with
    | ok widths => exact absurd hwidths (hnone widths)
    | error fault =>
        rw [harea, Geo.scatter] at h
        simp only [hwidths] at h
        cases h
        exact .inl ⟨area, fault, harea, hwidths, rfl, rfl⟩

/-- No age reaches beyond the end of the calendar, so a date of birth can only be missing
before its beginning. -/
theorem bornOn_cases (today : Date) (hage : 0 ≤ age) :
    (today.number - 365 * age < Calendar.earliest ∧ bornOn today (-age) = .error (.beforeCalendar age today))
    ∨ (Calendar.earliest ≤ today.number - 365 * age
      ∧ ∃ born, bornOn today (-age) = .ok born ∧ born.number = today.number - 365 * age) := by
  have hlatest := today.in_range.2
  have hnumber : today.number + -age * daysPerYear = today.number - 365 * age := by
    rw [daysPerYear]
    omega
  rw [bornOn, Date.addDays?, hnumber, Date.ofNumber?, Int.neg_neg]
  by_cases hearly : today.number - 365 * age < Calendar.earliest
  · exact .inl ⟨hearly, by rw [dif_neg (by omega)]⟩
  · exact .inr ⟨by omega, _, by rw [dif_pos ⟨by omega, by omega⟩], rfl⟩

/-! ## Who is made -/

theorem getD_mem {names : Array String} {i : Nat} (hi : i < names.size) :
    names.getD i "" ∈ names := by
  rw [Array.getD_eq_getD_getElem?, Array.getElem?_eq_getElem hi, Option.getD_some]
  exact Array.getElem_mem hi

/-- The days from a date of birth to today, counted one by one. -/
theorem days_of_number (hage : 0 ≤ age) (hborn : born.number = today.number - 365 * age) :
    Civil.next^[(365 * age).toNat] (civilOf born.number) = civilOf today.number := by
  have htoday : today.number = born.number + (365 * age).toNat := by omega
  rw [htoday, Calendar.civilOf_add]

theorem center_of_scatter {position : Geo.Position} (harea : shape.area = none)
    (hplace : Geo.scatter shape.center shape.area model m = .ok position h) :
    position = shape.center ∧ h = m := by
  rw [harea, Geo.scatter] at hplace
  cases hplace
  exact ⟨rfl, rfl⟩

/-- What comes of a draft: nothing of it is refused but the date and the place. -/
theorem making_of_steps (hages : options.HasAges)
    (hsteps : Draft.Steps (choices names options) d g g₁ g₂ g₃ m)
    (hage : 0 ≤ options.greatestAge - d.younger) :
    Making shape names options.model today (options.greatestAge - d.younger) g m
      (Person.draw shape names options today g) := by
  rw [draw_of_steps hages hsteps]
  rcases bornOn_cases today hage with ⟨hearly, hborn⟩ | ⟨hlate, born, hborn, hnumber⟩
  · rw [hborn, bind_of_error (orRefuse_error _ m)]
    exact .unborn hearly
  · rw [hborn, bind_of_ok (orRefuse_ok born m)]
    cases hplace : Geo.scatter shape.center shape.area options.model m with
    | error e k =>
        rw [bind_of_error hplace]
        rcases scatter_error_cases hplace with
          ⟨area, fault, harea, hfault, rfl, rfl⟩ | ⟨b, hb, hnan, rfl⟩
        · exact .unscattered hlate harea hfault
        · exact .crashed hlate hb hnan
    | ok position k =>
        rw [bind_of_ok hplace]
        obtain ⟨hfirst, hlast⟩ := places_of_steps hsteps
        have hid : d.id.IsRandom g := by
          have hrandom := Uuid.isRandom_draw g
          rwa [hsteps.id] at hrandom
        exact .made {
          id := hid
          name := ⟨_, getD_mem hfirst, _, getD_mem hlast, rfl⟩
          number := hnumber
          days := days_of_number hage hnumber
          center := fun harea => center_of_scatter harea hplace }

end

/-- Ages that are no range are refused, and nothing is drawn; all other ages give an age
between them, and somebody of that age unless there is no such date or no place. -/
theorem draw_makes_or_refuses (shape : Shape) (names : NamePool) (options : Options) (today : Date)
    (g : Xorshift) :
    (Person.draw shape names options today g
        = .error (.of (.ages options.leastAge options.greatestAge)) g
      ↔ ¬ (0 ≤ options.leastAge ∧ options.leastAge ≤ options.greatestAge
        ∧ options.greatestAge ≤ 1000))
    ∧ (options.HasAges →
      ∃ age m, yearsDrawn names options g = .ok (-age) m
        ∧ options.leastAge ≤ age ∧ age ≤ options.greatestAge
        ∧ Making shape names options.model today age g m
          (Person.draw shape names options today g)) := by
  have hmaking : options.HasAges → ∃ age m, yearsDrawn names options g = .ok (-age) m
      ∧ options.leastAge ≤ age ∧ age ≤ options.greatestAge
      ∧ Making shape names options.model today age g m
        (Person.draw shape names options today g) := by
    intro hages
    obtain ⟨d, g₁, g₂, g₃, m, -, hsteps⟩ := Draft.exists_steps (choices names options) g
    have hdrawn := yearsDrawn_of_steps hsteps
    have hyears := yearsDrawn_mem hages hdrawn
    have hpositive := hages.1
    exact ⟨_, m, hdrawn, by omega, by omega, making_of_steps hages hsteps (by omega)⟩
  refine ⟨⟨fun hrefused hages => ?_, fun hages => draw_of_bad_ages hages g⟩, hmaking⟩
  -- with ages in order they are never what is refused
  obtain ⟨age, m, -, -, -, hmaking⟩ := hmaking hages
  rw [hrefused] at hmaking
  cases hmaking

end Populace.People
