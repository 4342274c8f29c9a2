import Populace.Proofs.People.Mishaps

/-!
# Placing somebody

Without half-widths everybody is at the center, and nothing is drawn. With half-widths one
word of 64 bits is drawn for the latitude and then one for the longitude, whatever the
words and the widths are (`Placed`).
-/

namespace Populace.Geo

open Populace.Random

/-- Where somebody is placed around a center with these half-widths, if there are any, and
what that leaves of the generator. -/
inductive Placed (center : Position) : Option HalfWidths → Xorshift → Position → Xorshift → Prop
  | atCenter {g} : Placed center none g center g
  | offset {widths g north east} :
    within widths.latitude g = .ok north (Draw.longWord g).2 →
      within widths.longitude (Draw.longWord g).2
        = .ok east (Draw.longWord (Draw.longWord g).2).2 →
      Placed center (some widths) g (center.offset east north)
        (Draw.longWord (Draw.longWord g).2).2

/-- The generator behind the placing of somebody, with or without half-widths. -/
def behindPlacing (scattered : Bool) (g : Xorshift) : Xorshift :=
  if scattered then (Draw.longWord (Draw.longWord g).2).2 else g

theorem Placed.behind {center p : Position} {widths? : Option HalfWidths} {g h : Xorshift}
    (hp : Placed center widths? g p h) : h = behindPlacing widths?.isSome g := by
  cases hp with
  | atCenter => rfl
  | offset _ _ => rfl

/-- A float between two bounds takes one word, whatever the bounds. -/
theorem behind_within {b x : Float} {g k : Xorshift} (h : within b g = .ok x k) :
    k = (Draw.longWord g).2 := by
  rw [within] at h
  cases hscale : scale? (-b) b with
  | none =>
      rw [hscale] at h
      cases h
  | some scale =>
      rw [hscale] at h
      cases h
      rfl

variable {center p : Position} {model : LongitudeModel} {g h : Xorshift}

/-- Scattering around a center places somebody by the half-widths of the area. -/
theorem placed_of_scatter {area : Option Float}
    (hp : scatter center area model g = .ok p h) :
    Placed center (area.bind fun a => (halfWidths center a model).toOption) g p h := by
  cases area with
  | none =>
      cases hp
      exact .atCenter
  | some a =>
      rw [scatter] at hp
      cases hwidths : halfWidths center a model with
      | error fault =>
          rw [hwidths] at hp
          cases hp
      | ok widths =>
          rw [hwidths] at hp
          obtain ⟨north, k, hnorth, hp⟩ := bind_eq_ok_iff.1 hp
          obtain ⟨east, l, heast, hp⟩ := bind_eq_ok_iff.1 hp
          cases hp
          obtain rfl := behind_within hnorth
          obtain rfl := behind_within heast
          have hsome : ((some a).bind fun a => (halfWidths center a model).toOption)
              = some widths := by
            rw [Option.bind_some, hwidths]
            rfl
          rw [hsome]
          exact .offset hnorth heast

end Populace.Geo
