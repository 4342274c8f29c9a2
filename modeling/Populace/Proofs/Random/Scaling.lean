import Populace.Proofs.Floats.Monotone
import Populace.Proofs.Random.Bounds

/-!
# Floats between two bounds

A float between two bounds is a fraction times a scale, and the lower bound added to it. The
scale is not just the width: it is made smaller, double by double, until the largest fraction
does not lead beyond the upper bound (`fits_fittingScale`). All other fractions are smaller
than that one, and rounding keeps the order, so whatever the word is the bounds are kept
(`scaled_between`).
-/

namespace Populace.Random

open Float.Model (Format UnpackedFloat)
open Float.Model.UnpackedFloat
open Populace.Rounding

/-! ## Bits -/

theorem toNat_unpackExponent (b : BitVec 64) :
    (@unpackExponent .binary64 b).toNat = b.toNat / 2 ^ 52 % 2 ^ 11 := by
  simp [unpackExponent, Nat.shiftRight_eq_div_pow]

theorem toNat_unpackMantissa (b : BitVec 64) :
    (@unpackMantissa .binary64 b).toNat = b.toNat % 2 ^ 52 := by
  simp [unpackMantissa]

theorem toNat_unpackSign (b : BitVec 64) :
    (@unpackSign .binary64 b).toNat = b.toNat / 2 ^ 63 % 2 := by
  simp [unpackSign, Nat.shiftRight_eq_div_pow]

/-- The bits of infinity; all fewer bits are those of doubles that are not negative. -/
def infinityBits : Nat := 2047 * 2 ^ 52

/-- A finite double that is not negative. -/
structure Spreads (scale : Float) : Prop where
  finite : scale.isFinite = true
  nonneg : 0.0 ≤ scale

theorem exponent_ne_ones {b : BitVec 64} (h : b.toNat < infinityBits) :
    @unpackExponent .binary64 b ≠ -1#_ := by
  intro hones
  have hfield := toNat_unpackExponent b
  have htop : (@unpackExponent .binary64 b).toNat = 2047 := by
    rw [hones]
    rfl
  have hlimit : infinityBits = 2047 * 2 ^ 52 := rfl
  omega

theorem unpack_of_bits {b : BitVec 64} (h : b.toNat < infinityBits) :
    unpack .binary64 b = .zero .positive
      ∨ ∃ m e hm, unpack .binary64 b = .finite .positive m e hm := by
  have hsign : Sign.ofBitVec (@unpackSign .binary64 b) = .positive := by
    refine if_pos (BitVec.eq_of_toNat_eq ?_)
    have hlimit : infinityBits = 2047 * 2 ^ 52 := rfl
    rw [toNat_unpackSign]
    show b.toNat / 2 ^ 63 % 2 = 0
    omega
  rw [unpack, hsign]
  simp only [if_neg (exponent_ne_ones h)]
  by_cases hleast : @unpackExponent .binary64 b = 0#_
  · rw [if_pos hleast]
    by_cases hnone : @unpackMantissa .binary64 b = 0#_
    · exact .inl (dif_pos hnone)
    · have hpos : 0 < (@unpackMantissa .binary64 b).toNat :=
        Nat.pos_of_ne_zero fun hzero => hnone (BitVec.eq_of_toNat_eq hzero)
      exact .inr ⟨_, _, hpos, dif_neg hnone⟩
  · have hpos : 0 < (1#1 ++ @unpackMantissa .binary64 b).toNat := by
      rw [Magnitude.toNat_one_append]
      omega
    exact .inr ⟨_, _, hpos, if_neg hleast⟩

theorem spreads_of_bits {bits : Nat} (h : bits < infinityBits) :
    Spreads (Float.ofBits (UInt64.ofNat bits)) := by
  have hbits : (UInt64.ofNat bits).toBitVec.toNat = bits := by
    have hlimit : infinityBits = 2047 * 2 ^ 52 := rfl
    show bits % 2 ^ 64 = bits
    omega
  have hunpack : (Float.ofBits (UInt64.ofNat bits)).toModel.unpack
      = unpack .binary64 (pack .binary64 (unpack .binary64 (UInt64.ofNat bits).toBitVec)) := rfl
  rcases unpack_of_bits (hbits.symm ▸ h) with hzero | ⟨m, e, hm, hfinite⟩
  · have hsame : (Float.ofBits (UInt64.ofNat bits)).toModel.unpack = .zero .positive := by
      rw [hunpack, hzero]
      rfl
    constructor
    · show (Float.ofBits (UInt64.ofNat bits)).toModel.unpack.isFinite = true
      rw [hsame]
      rfl
    · rw [le_iff, hsame]
      rfl
  · obtain ⟨hlow, hhigh, hleast, hfull⟩ := Magnitude.unpack_bounds hfinite
    have hsame : (Float.ofBits (UInt64.ofNat bits)).toModel.unpack = .finite .positive m e hm := by
      rw [hunpack, hfinite, Magnitude.unpack_pack_of_fits hlow hleast hfull hhigh]
    constructor
    · show (Float.ofBits (UInt64.ofNat bits)).toModel.unpack.isFinite = true
      rw [hsame]
      rfl
    · rw [le_iff, hsame]
      rfl

/-- The sign of a double is in the bits. -/
theorem sign_of_unpack {b : BitVec 64} {s : Sign} {m : Nat} {e : Int} {hm : 0 < m}
    (h : unpack .binary64 b = .finite s m e hm) : s = Sign.ofBitVec (@unpackSign .binary64 b) := by
  rw [unpack] at h
  split at h
  · split at h <;> cases h
  · split at h
    · split at h
      · cases h
      · cases h
        rfl
    · cases h
      rfl

theorem fields_of_zero {b : BitVec 64} {s : Sign} (h : unpack .binary64 b = .zero s) :
    (@unpackExponent .binary64 b).toNat = 0 ∧ (@unpackMantissa .binary64 b).toNat = 0 := by
  rw [unpack] at h
  split at h
  · split at h <;> cases h
  · split at h
    · rename_i hexponent
      split at h
      · rename_i hmantissa
        rw [hexponent, hmantissa]
        exact ⟨rfl, rfl⟩
      · cases h
    · cases h

theorem ones_of_finite {b : BitVec 64} (h : (unpack .binary64 b).isFinite = true) :
    @unpackExponent .binary64 b ≠ -1#_ := by
  intro hones
  rw [unpack] at h
  simp only [if_pos hones] at h
  split at h <;> cases h

/-- Doubles that are not negative have fewer bits than infinity, but for the zero with a
sign. -/
theorem bits_of_spreads {scale : Float} (h : Spreads scale) :
    scale.toBits.toNat < infinityBits ∨ scale.toBits.toNat = 2 ^ 63 := by
  have hlimit : infinityBits = 2047 * 2 ^ 52 := rfl
  have hfinite : (unpack .binary64 scale.toBits.toBitVec).isFinite = true := h.finite
  have hnonneg := le_iff.1 h.nonneg
  have hsmall : scale.toBits.toBitVec.toNat < 2 ^ 64 := BitVec.isLt _
  have hexponent := toNat_unpackExponent scale.toBits.toBitVec
  have hmantissa := toNat_unpackMantissa scale.toBits.toBitVec
  have hsign := toNat_unpackSign scale.toBits.toBitVec
  show scale.toBits.toBitVec.toNat < infinityBits ∨ scale.toBits.toBitVec.toNat = 2 ^ 63
  have hunpack : scale.toModel.unpack = unpack .binary64 scale.toBits.toBitVec := rfl
  rw [hunpack] at hnonneg
  generalize scale.toBits.toBitVec = b at *
  by_cases hpositive : b.toNat < 2 ^ 63
  · have htop : (@unpackExponent .binary64 b).toNat ≠ 2047 := fun htop =>
      ones_of_finite hfinite (BitVec.eq_of_toNat_eq htop)
    exact .inl (by omega)
  · cases hb : unpack .binary64 b with
    | infinity s => rw [hb] at hfinite; cases hfinite
    | notANumber => rw [hb] at hfinite; cases hfinite
    | zero s =>
        obtain ⟨hleast, hnone⟩ := fields_of_zero hb
        exact .inr (by omega)
    | finite s m e hm =>
        have hnegative : s = .negative := by
          rw [sign_of_unpack hb]
          refine if_neg fun hzero => ?_
          rw [hzero] at hsign
          have hsign : 0 = b.toNat / 2 ^ 63 % 2 := hsign
          omega
        rw [hb, hnegative] at hnonneg
        cases hnonneg

/-! ## The scale -/

/-- A scale with which no fraction leads from `low` beyond `high`. -/
structure Fits (low high scale : Float) : Prop extends Spreads scale where
  le : scale * largestFraction + low ≤ high

theorem isFinite_largestFraction : largestFraction.isFinite = true := by rfl

section Scale

variable {low high scale : Float}

/-- A scale that is not made smaller fits. -/
theorem fits_of_not_gt (hlow : low.isFinite = true) (hhigh : high.isFinite = true)
    (hscale : Spreads scale) (h : ¬ scale * largestFraction + low > high) : Fits low high scale := by
  have hsum := isNaN_sum (isNaN_product hscale.finite isFinite_largestFraction) hlow
  exact ⟨hscale, le_of_not_lt hsum (isNaN_of_isFinite hhigh) h⟩

/-- Zero fits into any interval. -/
theorem fits_of_zero {t : Sign} (hlow : low.isFinite = true) (hhigh : high.isFinite = true)
    (h : low ≤ high) (hscale : Spreads scale)
    (hzero : (scale * largestFraction).toModel.unpack = .zero t) : Fits low high scale :=
  ⟨hscale, zero_sum_le hzero hlow hhigh h⟩

/-- Double by double, the scale is made smaller until it fits. -/
theorem fits_fittingScale (hlow : low.isFinite = true) (hhigh : high.isFinite = true)
    (h : low ≤ high) {bits : Nat} (hbits : bits < infinityBits) :
    Fits low high (fittingScale low high bits) := by
  induction bits with
  | zero =>
      have hzero : Spreads 0.0 := ⟨rfl, by decide⟩
      have hfits : Fits low high 0.0 := fits_of_zero (t := .positive) hlow hhigh h hzero rfl
      exact hfits
  | succ bits ih =>
      rw [fittingScale]
      split
      · exact ih (by omega)
      · rename_i hfits
        exact fits_of_not_gt hlow hhigh (spreads_of_bits hbits) hfits

/-- The zero with a sign fits as it is. -/
theorem fits_of_signed_zero (hlow : low.isFinite = true) (hhigh : high.isFinite = true)
    (h : low ≤ high) : Fits low high (fittingScale low high (2 ^ 63)) := by
  have hsigned : Fits low high (Float.ofBits (UInt64.ofNat (2 ^ 63 - 1 + 1))) :=
    fits_of_zero (t := .negative) hlow hhigh h ⟨rfl, by decide⟩ rfl
  rw [show 2 ^ 63 = 2 ^ 63 - 1 + 1 by decide, fittingScale]
  simp only [if_neg (not_lt_of_le hsigned.le)]
  exact hsigned

/-- The scale between two bounds fits, if there is one that is not negative. -/
theorem fits_of_scale (hlow : low.isFinite = true) (hhigh : high.isFinite = true) (h : low ≤ high)
    (hscale : Spreads scale) : Fits low high (fittingScale low high scale.toBits.toNat) := by
  rcases bits_of_spreads hscale with hbits | hbits
  · exact fits_fittingScale hlow hhigh h hbits
  · rw [hbits]
    exact fits_of_signed_zero hlow hhigh h

end Scale

/-! ## The fraction -/

/-- A fraction lies between zero and the largest one. -/
theorem fraction_between (g : Xorshift) :
    Spreads (Draw.fraction g).1 ∧ (Draw.fraction g).1 ≤ largestFraction := by
  have hmost : (Draw.longWord g).1 >>> 12 ≤ 4503599627370495 := by
    rw [UInt64.le_iff_toNat_le, UInt64.toNat_shiftRight]
    have hword := (Draw.longWord g).1.toNat_lt
    show (Draw.longWord g).1.toNat >>> 12 ≤ 4503599627370495
    rw [Nat.shiftRight_eq_div_pow]
    omega
  have hlargest : (4503599627370495 : UInt64).toFloat * 2.220446049250313e-16 = largestFraction := by
    decide +kernel
  have hstep : Spreads 2.220446049250313e-16 := ⟨rfl, by decide⟩
  have hwhole : Spreads (4503599627370495 : UInt64).toFloat := ⟨by decide +kernel, by decide +kernel⟩
  have hhigh := toFloat_le_toFloat hmost
  have hzero : (0 : UInt64).toFloat = 0.0 := by decide +kernel
  have hlow := toFloat_le_toFloat (UInt64.zero_le (a := (Draw.longWord g).1 >>> 12))
  rw [hzero] at hlow
  have hfinite := isFinite_of_between rfl hwhole.finite hlow hhigh
  have hle := product_le_product hstep.finite hstep.nonneg hfinite hwhole.finite hhigh
  rw [hlargest] at hle
  have hnonneg := product_nonneg hfinite hstep.finite hlow hstep.nonneg
  exact ⟨⟨isFinite_of_between rfl isFinite_largestFraction hnonneg hle, hnonneg⟩, hle⟩

/-- Whatever the word is, the float lies between the bounds. -/
theorem scaled_between {low high scale : Float} (hlow : low.isFinite = true)
    (hhigh : high.isFinite = true) (hscale : Fits low high scale) (g : Xorshift) :
    low ≤ (Draw.scaled low scale g).1 ∧ (Draw.scaled low scale g).1 ≤ high := by
  obtain ⟨⟨hfinite, hnonneg⟩, hlargest⟩ := fraction_between g
  have hshift : (Draw.scaled low scale g).1 = (Draw.fraction g).1 * scale + low := rfl
  have hle := product_le_product hscale.finite hscale.nonneg hfinite isFinite_largestFraction hlargest
  rw [product_comm largestFraction scale] at hle
  have hpositive := product_nonneg hfinite hscale.finite hnonneg hscale.nonneg
  have hmost := isFinite_of_sum (le_of_le_of_le hpositive hle) hlow hhigh hscale.le
  have hpart := isFinite_of_between rfl hmost hpositive hle
  rw [hshift]
  exact ⟨le_sum_of_nonneg hpart hlow hpositive,
    le_of_le_of_le (sum_le_sum_right hlow hpart hmost hle) hscale.le⟩

end Populace.Random
