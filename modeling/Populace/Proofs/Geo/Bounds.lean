import Populace.Proofs.Geo.Circles
import Populace.Proofs.Random.Scaling

/-!
# Half-widths to draw from

A half-width that comes out of a usable area is a number that is neither negative nor
large, and then it bounds an interval to draw from; or it is no number at all, which
happens if the cosine of the latitude is none. So only what is no number stops a draw.

The arc cosine is that of the library, which says where its values lie
(`ArcCosineInRange`).
-/

namespace Populace.Geo

open Float.Model (UnpackedFloat totalExponent)
open Populace.Magnitude (IsBelow IsAtLeast)
open Populace.Rounding (le_iff lt_iff)

/-- Neither negative nor infinite, with the leading bit at this place at most. -/
def Below (k : Int) (x : Float) : Prop := IsBelow k .positive x.toModel.unpack

/-- Positive, perhaps infinite, with the leading bit at this place at least. -/
def AtLeast (k : Int) (x : Float) : Prop := IsAtLeast k x.toModel.unpack

variable {k l : Int} {x y : Float}

/-! ## What a double can be -/

theorem isFinite_of_below (h : Below k x) : x.isFinite = true := by
  show x.toModel.unpack.isFinite = true
  rw [Below] at h
  cases hx : x.toModel.unpack with
  | infinity s => rw [hx] at h; exact h.elim
  | notANumber => rw [hx] at h; exact h.elim
  | zero s => rfl
  | finite s m e hm => rfl

theorem spreads_of_below (h : Below k x) : Random.Spreads x := by
  refine ⟨isFinite_of_below h, le_iff.2 ?_⟩
  have hzero : (0.0 : Float).toModel.unpack = .zero .positive := by rfl
  rw [Below] at h
  rw [hzero]
  cases hx : x.toModel.unpack with
  | infinity s => rw [hx] at h; exact h.elim
  | notANumber => rw [hx] at h; exact h.elim
  | zero s => rfl
  | finite s m e hm =>
      rw [hx] at h
      obtain ⟨rfl, -⟩ := h
      rfl

/-- A number that is not negative is within the limits of the format. -/
theorem below_of_isFinite (h : x.isFinite = true) (hneg : ¬ x < 0.0) : Below 1024 x := by
  have hzero : (0.0 : Float).toModel.unpack = .zero .positive := by rfl
  have hfinite : x.toModel.unpack.isFinite = true := h
  rw [lt_iff, hzero] at hneg
  rw [Below]
  cases hx : x.toModel.unpack with
  | infinity s => rw [hx] at hfinite; cases hfinite
  | notANumber => rw [hx] at hfinite; cases hfinite
  | zero s => trivial
  | finite s m e hm =>
      obtain ⟨hmantissa, he, -⟩ := Magnitude.unpack_bounds hx
      cases s with
      | negative =>
          rw [hx] at hneg
          exact absurd rfl hneg
      | positive =>
          refine ⟨rfl, ?_⟩
          have hlog : m.log2 < 53 := (Nat.log2_lt (by omega)).2 hmantissa
          show (m.log2 : Int) + 1 + e ≤ 1024
          omega

/-! ## Arithmetic -/

theorem sqrt_below (h : Below (2 * k - 1) x) (hk : 0 ≤ k) (hlarge : k ≤ 971) :
    Below (k + 1) x.sqrt :=
  Magnitude.isBelow_pack (Magnitude.sqrt_isBelow h hk) (by omega) (by omega)

theorem div_below (hx : Below k x) (hy : AtLeast l y) (hk : 0 ≤ k - l + 1)
    (hlarge : k - l + 1 ≤ 971) : Below (k - l + 1 + 1) (x / y) :=
  Magnitude.isBelow_pack (Magnitude.div_isBelow hx hy hk) (by omega) (by omega)

theorem neg_below (h : Below k x) (hk : 0 ≤ k) (hlarge : k ≤ 972) :
    IsBelow k .negative (-x).toModel.unpack :=
  Magnitude.isBelow_pack (Magnitude.neg_isBelow h) hk hlarge

theorem atLeast_of_unpack {m : Nat} {e : Int} {hm : 0 < m}
    (h : x.toModel.unpack = .finite .positive m e hm) (hl : l ≤ totalExponent m e) :
    AtLeast l x := by
  rw [AtLeast, h]
  exact ⟨rfl, hl⟩

theorem two_unpack :
    (2.0 : Float).toModel.unpack = .finite .positive (2 ^ 52) (-51) (by decide) := by rfl

theorem kmPerDegreeLatitude_unpack : kmPerDegreeLatitude.toModel.unpack
    = .finite .positive (111 * 2 ^ 46) (-46) (by decide) := by rfl

theorem largestFraction_unpack : Random.largestFraction.toModel.unpack
    = .finite .positive (2 ^ 53 - 2) (-53) (by decide) := by rfl

/-! ## What stops a draw -/

/-- Numbers that are not too large bound an interval, and the scale for it fits. -/
theorem scale_of_below {b : Float} (h : Below k b) (hk : 0 ≤ k) (hlarge : k ≤ 960) :
    ∃ scale, Random.scale? (-b) b = some scale ∧ Random.Fits (-b) b scale := by
  have hneg := neg_below h hk (by omega)
  have hle : -b ≤ b := le_iff.2 (Magnitude.le_of_isBelow hneg h)
  have hwidth : Below (k + 1 + 1) (b - -b) :=
    Magnitude.isBelow_pack (Magnitude.sub_isBelow h hneg hk) (by omega) (by omega)
  have hfraction : AtLeast 0 Random.largestFraction :=
    atLeast_of_unpack largestFraction_unpack (by decide)
  have hscale : Below (k + 1 + 1 - 0 + 1 + 1) ((b - -b) / Random.largestFraction) :=
    div_below hwidth hfraction (by omega) (by omega)
  have hfinite := isFinite_of_below h
  exact ⟨_, if_pos ⟨hle, isFinite_of_below hscale⟩,
    Random.fits_of_scale (Rounding.isFinite_neg hfinite) hfinite hle (spreads_of_below hscale)⟩

/-! ## Half-widths -/

/-- Where the values of the arc cosine lie, as the library has it: from zero to half the
circle, for every number that is a cosine. -/
def ArcCosineInRange : Prop :=
  ∀ r : Float, -1.0 ≤ r → r ≤ 1.0 → 0.0 ≤ r.acos ∧ r.acos ≤ pi

variable {circle : Circle} {center : Position} {area : Float} {model : LongitudeModel}
  {widths : HalfWidths}

/-- What is known of an area that gives half-widths. -/
theorem halfWidthsBy_eq_ok (h : halfWidthsBy circle center area model = .ok widths) :
    area.isFinite = true ∧ ¬ area < 0.0
      ∧ model.halfWidthBy circle center.latitude (halfSide area) = .ok widths.longitude
      ∧ widths.latitude = halfSide area / kmPerDegreeLatitude := by
  rw [halfWidthsBy] at h
  by_cases hunusable : (!area.isFinite || decide (area < 0.0)) = true
  · rw [if_pos hunusable] at h
    cases h
  · rw [if_neg hunusable] at h
    simp only [Bool.or_eq_true, Bool.not_eq_true', decide_eq_true_eq, not_or,
      Bool.not_eq_false] at hunusable
    cases hlongitude : model.halfWidthBy circle center.latitude (halfSide area) with
    | error fault =>
        simp only [hlongitude] at h
        cases h
    | ok longitude =>
        simp only [hlongitude] at h
        cases h
        exact ⟨hunusable.1, hunusable.2, rfl, rfl⟩

/-- Half a side is far from the limits of the format. -/
theorem halfSide_below (hfinite : area.isFinite = true) (hneg : ¬ area < 0.0) :
    Below 514 (halfSide area) := by
  have harea : Below (2 * 513 - 1) area :=
    (below_of_isFinite hfinite hneg).mono (by omega)
  have hroot : Below (513 + 1) area.sqrt := sqrt_below harea (by omega) (by omega)
  exact div_below hroot (atLeast_of_unpack two_unpack (l := 2) (by decide)) (by omega) (by omega)

theorem latitude_below (h : halfWidthsBy circle center area model = .ok widths) :
    Below 509 widths.latitude := by
  obtain ⟨hfinite, hneg, -, hlatitude⟩ := halfWidthsBy_eq_ok h
  rw [hlatitude]
  exact div_below (halfSide_below hfinite hneg)
    (atLeast_of_unpack kmPerDegreeLatitude_unpack (l := 7) (by decide)) (by omega) (by omega)

/-- Numbers from zero to half a circle. -/
theorem below_of_le_pi (hzero : 0.0 ≤ x) (hpi : x ≤ pi) : Below 2 x := by
  have hunpack₀ : (0.0 : Float).toModel.unpack = .zero .positive := by rfl
  have hunpack : pi.toModel.unpack
      = .finite .positive 7074237752028440 (-51) (by decide) := by rfl
  rw [le_iff, hunpack₀] at hzero
  rw [le_iff, hunpack] at hpi
  rw [Below]
  cases hx : x.toModel.unpack with
  | notANumber => rw [hx] at hzero; cases hzero
  | zero s => trivial
  | infinity s =>
      rw [hx] at hzero hpi
      cases s
      · cases hzero
      · cases hpi
  | finite s m e hm =>
      rw [hx] at hzero hpi
      cases s with
      | negative => cases hzero
      | positive =>
          have hlog : m.log2 < 53 := (Nat.log2_lt (by omega)).2 (Magnitude.unpack_bounds hx).1
          -- the exponents are compared before the mantissas
          have he : e ≤ -51 := by
            have hle : ((compare e (-51)).then (compare m 7074237752028440)).isLE = true := hpi
            refine Int.not_lt.1 fun hgt => ?_
            rw [Int.compare_eq_gt.2 hgt] at hle
            cases hle
          refine ⟨rfl, ?_⟩
          show (m.log2 : Int) + 1 + e ≤ 2
          omega

/-- A cosine that is not too small for a degree of longitude is no number, or it is not
small. -/
theorem atLeast_of_not_lt (h : ¬ x < 1e-7) (hnan : x.isNaN = false) : AtLeast (-75) x := by
  have hunpack : (1e-7 : Float).toModel.unpack
      = .finite .positive 7555786372591432 (-76) (by decide) := by rfl
  have hnan : x.toModel.unpack.isNaN = false := hnan
  rw [lt_iff, hunpack] at h
  rw [AtLeast]
  cases hx : x.toModel.unpack with
  | notANumber => rw [hx] at hnan; cases hnan
  | zero s => rw [hx] at h; exact absurd rfl h
  | infinity s =>
      rw [hx] at h
      cases s
      · exact absurd rfl h
      · rfl
  | finite s m e hm =>
      rw [hx] at h
      cases s with
      | negative => exact absurd rfl h
      | positive =>
          have he : -76 ≤ e := by
            refine Int.not_lt.1 fun hlt => h ?_
            show (some ((compare e (-76)).then (compare m 7555786372591432)) == some .lt) = true
            rw [Int.compare_eq_lt.2 hlt]
            rfl
          refine ⟨rfl, ?_⟩
          show -75 ≤ (m.log2 : Int) + 1 + e
          omega

theorem isNaN_pack_notANumber :
    (UnpackedFloat.unpack .binary64 (UnpackedFloat.pack .binary64 .notANumber)).isNaN = true := by
  rfl

theorem isNaN_mul (x : Float) (h : y.isNaN = true) : (x * y).isNaN = true := by
  have hnan : y.toModel.unpack.isNaN = true := h
  have hmul : UnpackedFloat.mul .binary64 x.toModel.unpack y.toModel.unpack = .notANumber := by
    cases hy : y.toModel.unpack with
    | notANumber => cases x.toModel.unpack <;> rfl
    | _ => rw [hy] at hnan; cases hnan
  show (UnpackedFloat.unpack .binary64 (UnpackedFloat.pack .binary64
    (UnpackedFloat.mul .binary64 x.toModel.unpack y.toModel.unpack))).isNaN = true
  rw [hmul]
  exact isNaN_pack_notANumber

theorem isNaN_div (x : Float) (h : y.isNaN = true) : (x / y).isNaN = true := by
  have hnan : y.toModel.unpack.isNaN = true := h
  have hdiv : UnpackedFloat.div .binary64 x.toModel.unpack y.toModel.unpack = .notANumber := by
    cases hy : y.toModel.unpack with
    | notANumber => cases x.toModel.unpack <;> rfl
    | _ => rw [hy] at hnan; cases hnan
  show (UnpackedFloat.unpack .binary64 (UnpackedFloat.pack .binary64
    (UnpackedFloat.div .binary64 x.toModel.unpack y.toModel.unpack))).isNaN = true
  rw [hdiv]
  exact isNaN_pack_notANumber

/-- A degree of longitude is not short where the cosine is not small. -/
theorem degree_atLeast {shrink : Float} (h : AtLeast (-75) shrink) :
    AtLeast (-69) (kmPerDegreeLatitude * shrink) := by
  have hlog : (111 * 2 ^ 46).log2 = 52 := by decide +kernel
  have hmul := Magnitude.mul_isAtLeast (m := 111 * 2 ^ 46) (e := -46) (by decide) hlog h
    (by decide)
  rw [← kmPerDegreeLatitude_unpack] at hmul
  exact hmul

/-- A half-width in longitude is no number, or one that is not large. -/
theorem longitude_below (h : halfWidthsBy circle center area model = .ok widths)
    (hacos : model = .legacy → circle.InRange) :
    widths.longitude.isNaN = true ∨ Below 585 widths.longitude := by
  obtain ⟨hfinite, hneg, hlongitude, -⟩ := halfWidthsBy_eq_ok h
  have hside := halfSide_below hfinite hneg
  cases model with
  | legacy =>
      simp only [LongitudeModel.halfWidthBy] at hlongitude
      split at hlongitude
      · rename_i hratio
        rw [← Except.ok.inj hlongitude]
        obtain ⟨hzero, hpi⟩ := hacos rfl _ hratio.1 hratio.2
        exact .inr ((below_of_le_pi hzero hpi).mono (by omega))
      · cases hlongitude
  | equirectangular =>
      simp only [LongitudeModel.halfWidthBy] at hlongitude
      split at hlongitude
      · cases hlongitude
      · rename_i hshrink
        rw [← Except.ok.inj hlongitude]
        generalize circle.cos (center.latitude * (pi / 180.0)) = shrink at hshrink ⊢
        cases hnan : shrink.isNaN with
        | true => exact .inl (isNaN_div _ (isNaN_mul _ hnan))
        | false =>
            have hdegree := degree_atLeast (atLeast_of_not_lt hshrink hnan)
            exact .inr (div_below hside hdegree (by omega) (by omega))

/-- Only a half-width that is no number bounds no interval. -/
theorem isNaN_of_noInterval {b : Float} (h : halfWidths center area model = .ok widths)
    (hacos : model = .legacy → ArcCosineInRange) (hb : b = widths.latitude ∨ b = widths.longitude)
    (hnone : Random.scale? (-b) b = none) : b.isNaN = true := by
  rw [← halfWidthsBy_library] at h
  have hlarge : ∀ k, 0 ≤ k → k ≤ 960 → ¬ Below k b := by
    intro k hk hk' hbelow
    obtain ⟨scale, hscale, -⟩ := scale_of_below hbelow hk hk'
    rw [hscale] at hnone
    cases hnone
  rcases hb with rfl | rfl
  · exact absurd (latitude_below h) (hlarge 509 (by omega) (by omega))
  · rcases longitude_below h hacos with hnan | hbelow
    · exact hnan
    · exact absurd hbelow (hlarge 585 (by omega) (by omega))

end Populace.Geo
