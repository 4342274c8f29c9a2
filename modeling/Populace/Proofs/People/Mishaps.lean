import Populace.Proofs.Actions
import Populace.Proofs.Random.Bounds
import Populace.People.Person

/-!
# Why somebody cannot be made

With ages in order there are two ways in which making somebody can fail, and both depend
on more than the draw: the date of birth may lie before the calendar, and a half-width
may bound no interval to draw from, which ends the program (`Mishap`).
-/

namespace Populace

open Populace.Random

@[simp] theorem run_sure {α : Type} (draw : Draw α) (g : Xorshift) :
    draw.sure g = .ok (draw g).1 (draw g).2 := rfl

namespace Geo

theorem within_of_none {b : Float} (h : scale? (-b) b = none) (g : Xorshift) :
    within b g = .error (.crashed (.noInterval (-b) b)) g := by
  rw [within, h]
  rfl

theorem within_of_some {b scale : Float} (h : scale? (-b) b = some scale) (g : Xorshift) :
    ∃ x k, within b g = .ok x k := by
  rw [within, h]
  exact ⟨_, _, rfl⟩

end Geo

namespace People

theorem Options.check_eq_ok_iff {o : Options} : o.check = .ok () ↔ o.HasAges := by
  rw [check]
  split <;> simp_all

/-- A half-width of a shape bounds no interval, so nobody can be placed there. -/
structure Shape.Unbounded (shape : Shape) (model : Geo.LongitudeModel) (b : Float) : Prop where
  halfWidth : ∃ area widths, shape.area = some area
    ∧ Geo.halfWidths shape.center area model = .ok widths
    ∧ (b = widths.latitude ∨ b = widths.longitude)
  noInterval : scale? (-b) b = none

/-- The area of a shape, if there is one, gives half-widths. -/
def Shape.Sound (shape : Shape) (model : Geo.LongitudeModel) : Prop :=
  ∀ area, shape.area = some area →
    ∃ widths, Geo.halfWidths shape.center area model = .ok widths

/-- Why somebody cannot be made although the ages are in order. -/
inductive Mishap (shape : Shape) (options : Options) (today : Calendar.Date) :
    Failure → Prop where
  | unborn {years c} : -options.greatestAge ≤ years → years ≤ -options.leastAge →
      bornOn today years = .error c → Mishap shape options today (.of c)
  | unplaced {b} : shape.Unbounded options.model b →
      Mishap shape options today (.crashed (.noInterval (-b) b))

section Placing

variable {shape : Shape} {model : Geo.LongitudeModel}

/-- Placing somebody fails only for a half-width that bounds no interval. -/
theorem unbounded_of_scatter (hsound : shape.Sound model) {g k : Xorshift} {e : Failure}
    (h : Geo.scatter shape.center shape.area model g = .error e k) :
    ∃ b, shape.Unbounded model b ∧ e = .crashed (.noInterval (-b) b) := by
  cases harea : shape.area with
  | none =>
      rw [harea, Geo.scatter] at h
      cases h
  | some area =>
      obtain ⟨widths, hwidths⟩ := hsound area harea
      rw [harea, Geo.scatter] at h
      simp only [hwidths] at h
      cases hlat : scale? (-widths.latitude) widths.latitude with
      | none =>
          rw [bind_of_error (Geo.within_of_none hlat g)] at h
          cases h
          exact ⟨_, ⟨⟨area, widths, harea, hwidths, .inl rfl⟩, hlat⟩, rfl⟩
      | some _ =>
          obtain ⟨north, l, hnorth⟩ := Geo.within_of_some hlat g
          rw [bind_of_ok hnorth] at h
          cases hlon : scale? (-widths.longitude) widths.longitude with
          | none =>
              rw [bind_of_error (Geo.within_of_none hlon l)] at h
              cases h
              exact ⟨_, ⟨⟨area, widths, harea, hwidths, .inr rfl⟩, hlon⟩, rfl⟩
          | some _ =>
              obtain ⟨east, m, heast⟩ := Geo.within_of_some hlon l
              rw [bind_of_ok heast] at h
              cases h

/-- Where a half-width bounds no interval, nobody is ever placed. -/
theorem scatter_of_unbounded {b : Float} (h : shape.Unbounded model b) (g : Xorshift) :
    ∃ e k, Geo.scatter shape.center shape.area model g = .error e k := by
  obtain ⟨⟨area, widths, harea, hwidths, hb⟩, hnone⟩ := h
  rw [harea, Geo.scatter]
  simp only [hwidths]
  cases hlat : scale? (-widths.latitude) widths.latitude with
  | none => exact ⟨_, _, bind_of_error (Geo.within_of_none hlat g)⟩
  | some scale =>
      obtain ⟨north, l, hnorth⟩ := Geo.within_of_some hlat g
      rw [bind_of_ok hnorth]
      rcases hb with rfl | rfl
      · rw [hlat] at hnone
        cases hnone
      · exact ⟨_, _, bind_of_error (Geo.within_of_none hnone l)⟩

end Placing

section Making

variable {shape : Shape} {options : Options} {today : Calendar.Date} {names : NamePool}

/-- The years, not positive, that are drawn for the age of the next one made: behind an
identifier and a name. -/
def yearsDrawn (names : NamePool) (options : Options) : Drawing Int := do
  let _ ← Uuid.draw.sure
  let _ ← names.draw.sure
  (Draw.between (-options.greatestAge) (-options.leastAge)).sure

theorem yearsDrawn_mem {years : Int} {g k : Xorshift} (hages : options.HasAges)
    (h : yearsDrawn names options g = .ok years k) :
    -options.greatestAge ≤ years ∧ years ≤ -options.leastAge := by
  rw [yearsDrawn] at h
  obtain ⟨_, _, -, h⟩ := bind_eq_ok_iff.1 h
  obtain ⟨_, l, -, h⟩ := bind_eq_ok_iff.1 h
  cases h
  exact Draw.between_mem (Int.neg_le_neg hages.2.1) l

theorem bornOn_error {years : Int} {c : Cause} (h : bornOn today years = .error c) :
    today.addDays? (years * daysPerYear) = none ∧ c = .beforeCalendar (-years) today := by
  rw [bornOn] at h
  cases hdate : today.addDays? (years * daysPerYear) with
  | some date =>
      rw [hdate] at h
      cases h
  | none =>
      rw [hdate] at h
      cases h
      exact ⟨rfl, rfl⟩

/-- With ages in order there are two ways for making somebody to fail: the date of birth
cannot be represented, or nobody can be placed. -/
theorem draw_error_cases (hages : options.HasAges) (hsound : shape.Sound options.model)
    {g k : Xorshift} {e : Failure}
    (h : Person.draw shape names options today g = .error e k) :
    ∃ years m, yearsDrawn names options g = .ok years m
      ∧ ((∃ c, bornOn today years = .error c ∧ e = .of c ∧ k = m)
        ∨ ∃ b, shape.Unbounded options.model b ∧ e = .crashed (.noInterval (-b) b)) := by
  obtain ⟨id, l, hid⟩ : ∃ id l, Uuid.draw.sure g = .ok id l :=
    ⟨_, _, run_sure _ g⟩
  obtain ⟨name, m, hname⟩ : ∃ name m, names.draw.sure l = .ok name m :=
    ⟨_, _, run_sure _ l⟩
  obtain ⟨years, n, hyears⟩ : ∃ years n,
      (Draw.between (-options.greatestAge) (-options.leastAge)).sure m = .ok years n :=
    ⟨_, _, run_sure _ m⟩
  have hdrawn : yearsDrawn names options g = .ok years n := by
    rw [yearsDrawn, bind_of_ok hid, bind_of_ok hname, hyears]
  refine ⟨years, n, hdrawn, ?_⟩
  -- neither the identifier nor the name nor the age can fail
  rw [Person.draw, Options.check_eq_ok_iff.2 hages, bind_of_ok (orRefuse_ok () g),
    bind_of_ok hid, bind_of_ok hname, bind_of_ok hyears] at h
  cases hborn : bornOn today years with
  | error c =>
      rw [hborn, bind_of_error (orRefuse_error c _)] at h
      cases h
      exact .inl ⟨c, rfl, rfl, rfl⟩
  | ok born =>
      rw [hborn, bind_of_ok (orRefuse_ok born _)] at h
      cases hplace : Geo.scatter shape.center shape.area options.model n with
      | ok position o =>
          rw [bind_of_ok hplace] at h
          cases h
      | error e' o =>
          rw [bind_of_error hplace] at h
          cases h
          exact .inr (unbounded_of_scatter hsound hplace)

/-- With ages in order, a mishap is all that can come in the way of making somebody. -/
theorem mishap_of_draw (hages : options.HasAges) (hsound : shape.Sound options.model)
    {g k : Xorshift} {e : Failure}
    (h : Person.draw shape names options today g = .error e k) :
    Mishap shape options today e := by
  obtain ⟨years, m, hyears, ⟨c, hborn, rfl, -⟩ | ⟨b, hb, rfl⟩⟩ :=
    draw_error_cases hages hsound h
  · obtain ⟨hlow, hhigh⟩ := yearsDrawn_mem hages hyears
    exact .unborn hlow hhigh hborn
  · exact .unplaced hb

/-- With ages out of order nobody is made, and nothing is drawn. -/
theorem draw_of_bad_ages (hages : ¬ options.HasAges) (g : Xorshift) :
    Person.draw shape names options today g
      = .error (.of (.ages options.leastAge options.greatestAge)) g := by
  rw [Person.draw, Options.check, if_neg hages, bind_of_error (orRefuse_error _ g)]

/-- Where a half-width bounds no interval, nobody is ever made. -/
theorem draw_of_unbounded {b : Float} (hb : shape.Unbounded options.model b) (g : Xorshift) :
    ∃ e k, Person.draw shape names options today g = .error e k := by
  cases h : Person.draw shape names options today g with
  | error e k => exact ⟨e, k, rfl⟩
  | ok person k =>
      rw [Person.draw, bind_eq_ok_iff] at h
      obtain ⟨_, _, -, h⟩ := h
      obtain ⟨_, _, -, h⟩ := bind_eq_ok_iff.1 h
      obtain ⟨_, _, -, h⟩ := bind_eq_ok_iff.1 h
      obtain ⟨_, _, -, h⟩ := bind_eq_ok_iff.1 h
      obtain ⟨_, l, -, h⟩ := bind_eq_ok_iff.1 h
      obtain ⟨position, m, hplace, -⟩ := bind_eq_ok_iff.1 h
      obtain ⟨e, n, hnowhere⟩ := scatter_of_unbounded hb l
      rw [hnowhere] at hplace
      cases hplace

/-- Nobody is born before the calendar begins if the greatest age does not reach back
that far. -/
theorem bornOn_of_late {years : Int} (hages : options.HasAges)
    (hday : Calendar.earliest + options.greatestAge * daysPerYear ≤ today.number)
    (hlow : -options.greatestAge ≤ years) (hhigh : years ≤ -options.leastAge) :
    ∃ born, bornOn today years = .ok born := by
  have hrange : Calendar.earliest ≤ today.number + years * daysPerYear
      ∧ today.number + years * daysPerYear ≤ Calendar.latest := by
    have hlatest := today.in_range.2
    have hpositive : 0 ≤ options.leastAge := hages.1
    rw [daysPerYear] at hday ⊢
    omega
  exact ⟨⟨_, hrange⟩, by rw [bornOn, Calendar.Date.addDays?, Calendar.Date.ofNumber?, dif_pos hrange]⟩

end Making

end People

end Populace
