import Populace.Proofs.Geo.Bounds
import Populace.Proofs.Geo.Placing

/-!
# How far from the center

Nobody is placed farther from the center than the half-widths of the country, north or south,
east or west. Neither the scaling of the fraction nor the shift to the lower bound nor the
offset from the center rounds beyond a bound, so the bounds hold of the doubles as they are,
compared and computed like everything else (`scatter_stays_in_reach`).
-/

namespace Populace.Geo

open Populace.Random
open Populace.Rounding

variable {k : Int} {b c x : Float} {center : Position} {widths : HalfWidths} {g h : Xorshift}

/-- A float is drawn from a half-width that is not too large, and it lies within it. -/
theorem exists_within (hb : Below k b) (hk : 0 ≤ k) (hlarge : k ≤ 960) (g : Xorshift) :
    ∃ x, within b g = .ok x (Draw.longWord g).2 ∧ -b ≤ x ∧ x ≤ b := by
  obtain ⟨scale, hscale, hfits⟩ := scale_of_below hb hk hlarge
  have hfinite := isFinite_of_below hb
  have hbetween := scaled_between (isFinite_neg hfinite) hfinite hfits g
  refine ⟨(Draw.scaled (-b) scale g).1, ?_, hbetween⟩
  rw [within, hscale]
  rfl

/-- What is moved by no more than a half-width stays as near. -/
theorem offset_between (hc : c.isNaN = false) (hb : b.isFinite = true) (hlow : -b ≤ x)
    (hhigh : x ≤ b) : c - b ≤ c + x ∧ c + x ≤ c + b := by
  have hx := isFinite_of_between (isFinite_neg hb) hb hlow hhigh
  rw [difference_eq_sum hb]
  exact ⟨sum_le_sum_left hc (isFinite_neg hb) hx hlow, sum_le_sum_left hc hx hb hhigh⟩

/-- A place no farther from the center than the half-widths. -/
structure InReach (center : Position) (widths : HalfWidths) (p : Position) : Prop where
  south : center.latitude - widths.latitude ≤ p.latitude
  north : p.latitude ≤ center.latitude + widths.latitude
  west : center.longitude - widths.longitude ≤ p.longitude
  east : p.longitude ≤ center.longitude + widths.longitude

/-- Around a center with two coordinates, an area that gives two half-widths gives a place in
reach, whatever the generator is. All that is asked of the circle, and only for half-widths by
the arc cosine, is where the values of the arc cosine lie; with the circle of the library,
these are the half-widths and the places of people. -/
theorem scatter_stays_in_reach (circle : Circle) (center : Position) (area : Float)
    (model : LongitudeModel) (widths : HalfWidths) (g : Xorshift)
    (hcenter : center.latitude.isNaN = false ∧ center.longitude.isNaN = false)
    (hwidths : halfWidthsBy circle center area model = .ok widths)
    (hnumbers : widths.latitude.isNaN = false ∧ widths.longitude.isNaN = false)
    (hacos : model = .legacy → circle.InRange) :
    (∃ p h, scatterBy circle center (some area) model g = .ok p h ∧ InReach center widths p)
      ∧ halfWidthsBy .library = halfWidths ∧ scatterBy .library = scatter := by
  refine ⟨?_, halfWidthsBy_library, scatterBy_library⟩
  have hlatitude := latitude_below hwidths
  have hlongitude := (longitude_below hwidths hacos).resolve_left (Bool.eq_false_iff.1 hnumbers.2)
  obtain ⟨north, hnorth, hnorth_low, hnorth_high⟩ :=
    exists_within hlatitude (by omega) (by omega) g
  obtain ⟨east, heast, heast_low, heast_high⟩ :=
    exists_within hlongitude (by omega) (by omega) (Draw.longWord g).2
  have hplaced : scatterBy circle center (some area) model g
      = .ok (center.offset east north) (Draw.longWord (Draw.longWord g).2).2 := by
    rw [scatterBy]
    simp only [hwidths]
    rw [bind_of_ok hnorth, bind_of_ok heast]
    rfl
  obtain ⟨hsouth, hnorth⟩ :=
    offset_between hcenter.1 (isFinite_of_below hlatitude) hnorth_low hnorth_high
  obtain ⟨hwest, heast⟩ :=
    offset_between hcenter.2 (isFinite_of_below hlongitude) heast_low heast_high
  exact ⟨_, _, hplaced, hsouth, hnorth, hwest, heast⟩

/-- A circle that knows the cosine of 47 degrees, and the arc cosine of the ratio that half
the side of 10000 square kilometers gives. -/
def Circle.atOnePlace : Circle := ⟨fun _ => 0.6819983600624985, fun _ => 1.5703471691377344⟩

theorem halfWidthsBy_atOnePlace : halfWidthsBy .atOnePlace ⟨8.0, 47.0⟩ 10000.0 .legacy
    = .ok ⟨0.45045045045045046, 1.5703471691377344⟩ := by
  have husable : (!(10000.0 : Float).isFinite || (10000.0 : Float) < 0.0) = false := by
    decide +kernel
  have hratio : -1.0 ≤ 180.0 * halfSide 10000.0 / pi / earthRadiusMeters
      ∧ 180.0 * halfSide 10000.0 / pi / earthRadiusMeters ≤ 1.0 := by decide +kernel
  have hlatitude : halfSide 10000.0 / kmPerDegreeLatitude = 0.45045045045045046 := by decide +kernel
  have hlongitude : LongitudeModel.legacy.halfWidthBy .atOnePlace 47.0 (halfSide 10000.0)
      = .ok 1.5703471691377344 := if_pos hratio
  rw [halfWidthsBy, husable]
  simp only [hlongitude, hlatitude]
  rfl

/-- People of a country of 10000 square kilometers in reach of its center. -/
theorem scatter_stays_in_reach_at_one_place :
    ∃ p h, scatterBy .atOnePlace ⟨8.0, 47.0⟩ (some 10000.0) .legacy ⟨1, 2, 3, 4⟩ = .ok p h
      ∧ InReach ⟨8.0, 47.0⟩ ⟨0.45045045045045046, 1.5703471691377344⟩ p := by
  have hvalue : (0.0 : Float) ≤ 1.5703471691377344 ∧ 1.5703471691377344 ≤ pi := by decide +kernel
  have hacos : Circle.atOnePlace.InRange := fun _ _ _ => hvalue
  exact (scatter_stays_in_reach .atOnePlace ⟨8.0, 47.0⟩ 10000.0 .legacy
    ⟨0.45045045045045046, 1.5703471691377344⟩ ⟨1, 2, 3, 4⟩ ⟨rfl, rfl⟩ halfWidthsBy_atOnePlace
    ⟨rfl, rfl⟩ fun _ => hacos).1

end Populace.Geo
