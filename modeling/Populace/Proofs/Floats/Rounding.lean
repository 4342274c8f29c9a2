import Populace.Proofs.Floats.Magnitude

/-!
# Rounding to the nearest number

A finite double stands for a rational number (`value`). Sums and products are rounded to a
number of the format that is as near as any other (`Nearest`), and from that alone comes all
that is used of rounding: it keeps the order of what is rounded (`Nearest.mono`), it leaves
alone what needs no rounding (`Nearest.eq`), and so it never goes below a number of the
format that was not above it (`Nearest.ge_of_ge`).

Exponents are not bounded from above here; a number that is too large becomes infinity only
as it is packed.
-/

namespace Populace.Rounding

open Float.Model (Format UnpackedFloat totalExponent)
open Float.Model.UnpackedFloat
open Populace.Magnitude

/-- The number that a finite double stands for. -/
def value : UnpackedFloat → ℚ
  | .finite s m e _ => s.apply m * 2 ^ e
  | _ => 0

/-- Zero, or a number as the format writes it: with all the bits of the format, or with the
least exponent. -/
inductive IsNumber : UnpackedFloat → Prop
  | zero (s : Sign) : IsNumber (.zero s)
  | finite {s : Sign} {m : ℕ} {e : ℤ} {hm : 0 < m} (bits : m < 2 ^ 53) (least : -1074 ≤ e)
      (full : 2 ^ 52 ≤ m ∨ e = -1074) : IsNumber (.finite s m e hm)

/-- A number of the format from which no other one is nearer to `v`. -/
structure Nearest (v : ℚ) (r : UnpackedFloat) : Prop where
  isNumber : IsNumber r
  le : ∀ y, IsNumber y → |v - value r| ≤ |v - value y|

section Nearest

variable {v w : ℚ} {q r y : UnpackedFloat}

theorem nearest_self (hr : IsNumber r) : Nearest (value r) r :=
  ⟨hr, fun y _ => by rw [sub_self, abs_zero]; exact abs_nonneg _⟩

/-- Rounding keeps the order. -/
theorem Nearest.mono (hr : Nearest v r) (hq : Nearest w q) (h : v < w) :
    value r ≤ value q := by
  refine not_lt.1 fun hlt => ?_
  have hv := hr.le q hq.isNumber
  have hw := hq.le r hr.isNumber
  -- both are at least as near to the other's result as to their own
  rcases abs_cases (v - value r) with hvr | hvr <;> rcases abs_cases (v - value q) with hvq | hvq <;>
    rcases abs_cases (w - value r) with hwr | hwr <;> rcases abs_cases (w - value q) with hwq | hwq <;>
    linarith

/-- A number of the format is rounded to itself. -/
theorem Nearest.eq (hr : Nearest (value y) r) (hy : IsNumber y) : value r = value y := by
  have hle := hr.le y hy
  rw [sub_self, abs_zero] at hle
  have hzero := abs_eq_zero.1 (le_antisymm hle (abs_nonneg _))
  linarith

theorem Nearest.ge_of_ge (hr : Nearest v r) (hy : IsNumber y) (h : value y ≤ v) :
    value y ≤ value r := by
  rcases h.lt_or_eq with hlt | rfl
  · exact (nearest_self hy).mono hr hlt
  · exact (hr.eq hy).ge

end Nearest

/-! ## Grids -/

section Grid

variable {u v : ℚ} {k : ℤ}

/-- On a grid, the point at most half a step away is the nearest one. -/
theorem near_grid (h : 2 * |v - k * u| ≤ u) (j : ℤ) : |v - k * u| ≤ |v - j * u| := by
  by_cases hjk : j = k
  · rw [hjk]
  · have hu : 0 ≤ u := le_trans (mul_nonneg zero_le_two (abs_nonneg _)) h
    have hone : (1 : ℚ) ≤ |((j - k : ℤ) : ℚ)| := by
      rw [← Int.cast_abs]
      exact_mod_cast Int.one_le_abs (sub_ne_zero.2 hjk)
    have hstep : u ≤ |(v - k * u) - (v - j * u)| := by
      have hdiff : (v - k * u) - (v - j * u) = ((j - k : ℤ) : ℚ) * u := by
        push_cast
        ring
      rw [hdiff, abs_mul, abs_of_nonneg hu]
      exact le_mul_of_one_le_left hu hone
    have htriangle := abs_sub (v - k * u) (v - j * u)
    linarith

/-- The same for a point between zero and `v`. -/
theorem near_grid_between (h : 2 * |v - k * u| ≤ u) {n : ℕ} (hn : n * u ≤ |v|) :
    |v - k * u| ≤ |v| - n * u := by
  rcases abs_cases v with ⟨habs, -⟩ | ⟨habs, -⟩
  · have hright := near_grid h n
    rw [Int.cast_natCast, abs_of_nonneg (show 0 ≤ v - n * u by linarith)] at hright
    linarith
  · have hleft := near_grid h (-n)
    rw [Int.cast_neg, Int.cast_natCast, abs_of_nonpos (show v - -n * u ≤ 0 by linarith)] at hleft
    linarith

theorem two_zpow_pos (e : ℤ) : (0 : ℚ) < 2 ^ e := zpow_pos zero_lt_two e

theorem zpow_add_natCast (e : ℤ) (n : ℕ) : (2 : ℚ) ^ (e + n) = 2 ^ n * 2 ^ e := by
  rw [zpow_add₀ two_ne_zero, zpow_natCast, mul_comm]

theorem abs_apply (s : Sign) (m : ℕ) : |((s.apply m : ℤ) : ℚ)| = m := by
  cases s with
  | positive => exact abs_of_nonneg (Nat.cast_nonneg m)
  | negative =>
      show |((-(m : ℤ) : ℤ) : ℚ)| = m
      rw [Int.cast_neg, abs_neg, Int.cast_natCast]
      exact abs_of_nonneg (Nat.cast_nonneg m)

theorem abs_value (s : Sign) {m : ℕ} (e : ℤ) (hm : 0 < m) :
    |value (.finite s m e hm)| = m * 2 ^ e := by
  rw [value, abs_mul, abs_apply, abs_of_pos (two_zpow_pos e)]

theorem abs_apply_sub (s : Sign) (m n : ℕ) :
    |((s.apply m : ℤ) : ℚ) - (s.apply n : ℤ)| = |(m : ℚ) - n| := by
  cases s with
  | positive => rfl
  | negative =>
      show |((-(m : ℤ) : ℤ) : ℚ) - ((-(n : ℤ) : ℤ) : ℚ)| = |(m : ℚ) - n|
      rw [← abs_neg]
      push_cast
      ring_nf

theorem apply_mul (s : Sign) (m n : ℕ) : s.apply (m * n : ℕ) = s.apply m * n := by
  cases s with
  | positive => exact Int.natCast_mul m n
  | negative =>
      show -((m * n : ℕ) : ℤ) = -(m : ℤ) * n
      rw [Int.natCast_mul, Int.neg_mul]

/-- A number with a larger exponent than the grid lies on it. -/
theorem value_on_grid (s : Sign) {m : ℕ} {e t : ℤ} (hm : 0 < m) (h : t ≤ e) :
    value (.finite s m e hm) = (s.apply (m * 2 ^ (e - t).toNat : ℕ) : ℤ) * 2 ^ t := by
  have he : e = t + (e - t).toNat := by omega
  rw [value, apply_mul]
  conv_lhs => rw [he, zpow_add_natCast]
  push_cast
  ring

/-- A point of a grid that is at most half a step away is the nearest number of the format,
provided that the format has nothing between the points. -/
theorem nearest_of_grid {r : UnpackedFloat} {t : ℤ} (hr : IsNumber r)
    (hvalue : value r = k * 2 ^ t) (hnear : 2 * |v - k * 2 ^ t| ≤ 2 ^ t)
    (hfull : t = -1074 ∨ (2 ^ 52 : ℕ) * 2 ^ t ≤ |v|) : Nearest v r := by
  refine ⟨hr, fun y hy => ?_⟩
  rw [hvalue]
  cases hy with
  | zero s =>
      have hzero := near_grid hnear 0
      rwa [Int.cast_zero, zero_mul] at hzero
  | @finite s m e hm bits least _ =>
      by_cases hte : t ≤ e
      · rw [value_on_grid s hm hte]
        exact near_grid hnear _
      · -- the number is smaller than `v`, and a point of the grid lies between them
        have hfull := hfull.resolve_left (by omega)
        have hsmall : |value (.finite s m e hm)| ≤ (2 ^ 52 : ℕ) * 2 ^ t := by
          have hm' : (m : ℚ) ≤ 2 * (2 ^ 52 : ℕ) := by exact_mod_cast bits.le
          have he : (2 : ℚ) ^ e * 2 ≤ 2 ^ t := by
            rw [← zpow_add_one₀ two_ne_zero]
            exact zpow_le_zpow_right₀ one_le_two (by omega)
          rw [abs_value]
          calc (m : ℚ) * 2 ^ e ≤ 2 * (2 ^ 52 : ℕ) * 2 ^ e :=
                mul_le_mul_of_nonneg_right hm' (two_zpow_pos e).le
            _ = (2 ^ 52 : ℕ) * (2 ^ e * 2) := by ring
            _ ≤ (2 ^ 52 : ℕ) * 2 ^ t := mul_le_mul_of_nonneg_left he (Nat.cast_nonneg _)
        calc |v - k * 2 ^ t| ≤ |v| - (2 ^ 52 : ℕ) * 2 ^ t := near_grid_between hnear hfull
          _ ≤ |v| - |value (.finite s m e hm)| := by linarith
          _ ≤ |v - value (.finite s m e hm)| := abs_sub_abs_le_abs_sub _ _

end Grid

/-! ## Bits that are cut off -/

/-- The rest that is cut off is known as a part of the last bit that stays; one bit more is
cut off. -/
theorem shiftRightOne_ofFraction {q rest p : ℕ} (h : rest < p) :
    (ExtendedMantissa.ofMantissaAndAccuracy q (accuracyOfFraction rest p)).shiftRightOne
      = .ofMantissaAndAccuracy (q / 2) (accuracyOfFraction (q % 2 * p + rest) (2 * p)) := by
  rcases Nat.mod_two_eq_zero_or_one q with hq | hq
  · by_cases hrest : rest = 0
    · subst hrest
      simp [accuracyOfFraction, ExtendedMantissa.ofMantissaAndAccuracy,
        ExtendedMantissa.shiftRightOne, hq]
    · have hless : compare (2 * rest) (2 * p) = .lt := Nat.compare_eq_lt.2 (by omega)
      cases hpart : compare (2 * rest) p <;>
        simp [accuracyOfFraction, ExtendedMantissa.ofMantissaAndAccuracy,
          ExtendedMantissa.shiftRightOne, hq, hrest, hless, hpart]
  · by_cases hrest : rest = 0
    · subst hrest
      simp [accuracyOfFraction, ExtendedMantissa.ofMantissaAndAccuracy,
        ExtendedMantissa.shiftRightOne, hq, show p ≠ 0 by omega]
    · have hmore : compare (2 * (p + rest)) (2 * p) = .gt := Nat.compare_eq_gt.2 (by omega)
      cases hpart : compare (2 * rest) p <;>
        simp [accuracyOfFraction, ExtendedMantissa.ofMantissaAndAccuracy,
          ExtendedMantissa.shiftRightOne, hq, hrest, hmore, hpart]

theorem shiftRight_exact (m n : ℕ) :
    ExtendedMantissa.ofMantissaAndAccuracy m .exact >>> n
      = .ofMantissaAndAccuracy (m / 2 ^ n) (accuracyOfFraction (m % 2 ^ n) (2 ^ n)) := by
  induction n with
  | zero =>
      show ExtendedMantissa.ofMantissaAndAccuracy m .exact = _
      simp [accuracyOfFraction, Nat.mod_one]
  | succ n ih =>
      show (ExtendedMantissa.ofMantissaAndAccuracy m .exact >>> n).shiftRightOne = _
      rw [ih, shiftRightOne_ofFraction (Nat.mod_lt _ (Nat.two_pow_pos n)), Nat.div_div_eq_div_mul,
        ← Nat.pow_succ, ← Nat.pow_succ', Nat.pow_succ, Nat.mod_mul]
      congr 2
      ring

theorem roundedMantissa_ofMantissaAndAccuracy (m : ℕ) (acc : Accuracy) :
    (ExtendedMantissa.ofMantissaAndAccuracy m acc).roundedMantissa = acc.roundToNearestEven m := by
  rcases acc with _ | o
  · rfl
  · cases o <;> rfl

/-- A mantissa is rounded by half of its last bit at most. -/
theorem roundToNearestEven_near {q rest p : ℕ} (h : rest < p) :
    2 * ((accuracyOfFraction rest p).roundToNearestEven q * p) ≤ 2 * (q * p + rest) + p
      ∧ 2 * (q * p + rest) ≤ 2 * ((accuracyOfFraction rest p).roundToNearestEven q * p) + p := by
  rw [accuracyOfFraction]
  by_cases hrest : rest = 0
  · rw [if_pos hrest]
    show 2 * (q * p) ≤ 2 * (q * p + rest) + p ∧ 2 * (q * p + rest) ≤ 2 * (q * p) + p
    omega
  · rw [if_neg hrest]
    have hone : (q + 1) * p = q * p + p := Nat.succ_mul q p
    cases hpart : compare (2 * rest) p with
    | lt =>
        have hless := Nat.compare_eq_lt.1 hpart
        show 2 * (q * p) ≤ 2 * (q * p + rest) + p ∧ 2 * (q * p + rest) ≤ 2 * (q * p) + p
        omega
    | gt =>
        have hmore := Nat.compare_eq_gt.1 hpart
        show 2 * ((q + 1) * p) ≤ 2 * (q * p + rest) + p
          ∧ 2 * (q * p + rest) ≤ 2 * ((q + 1) * p) + p
        omega
    | eq =>
        have hhalf := Nat.compare_eq_eq.1 hpart
        show 2 * ((q + q % 2) * p) ≤ 2 * (q * p + rest) + p
          ∧ 2 * (q * p + rest) ≤ 2 * ((q + q % 2) * p) + p
        rcases Nat.mod_two_eq_zero_or_one q with hq | hq
        · rw [hq, Nat.add_zero]
          omega
        · rw [hq]
          omega

/-! ## Rounding -/

/-- A mantissa that is not too long is cut no more. -/
theorem cut_of_lt {r : ℕ} {t : ℤ} (h : r < 2 ^ 53) (ht : -1074 ≤ t) : cut r t = 0 := by
  have hlog := log2_lt_of_lt h
  show (max ((r.log2 : ℤ) + 1 + t - 53) (-1074) - t).toNat = 0
  omega

theorem cut_two_pow {t : ℤ} (ht : -1074 ≤ t) : cut (2 ^ 53) t = 1 := by
  show (max (((2 ^ 53 : ℕ).log2 : ℤ) + 1 + t - 53) (-1074) - t).toNat = 1
  rw [Nat.log2_two_pow]
  omega

section Rounding

variable {s : Sign} {m r : ℕ} {e t : ℤ}

/-- What is cut off leaves a mantissa that is not too long. -/
theorem div_cut_lt (m : ℕ) (e : ℤ) : m / 2 ^ cut m e < 2 ^ 53 := by
  have hcut : cut m e = (max ((m.log2 : ℤ) + 1 + e - 53) (-1074) - e).toNat := rfl
  rw [Nat.div_lt_iff_lt_mul (Nat.two_pow_pos _), ← Nat.pow_add]
  exact Nat.lt_log2_self.trans_le (Nat.pow_le_pow_right Nat.two_pos (by omega))

/-- And one that is not too short, unless the number is one of the smallest. -/
theorem le_div_cut (hm : 0 < m) (he : e ≤ max (totalExponent m e - 53) (-1074))
    (hsmall : e + cut m e ≠ -1074) : 2 ^ 52 ≤ m / 2 ^ cut m e := by
  have he : e ≤ max ((m.log2 : ℤ) + 1 + e - 53) (-1074) := he
  have hcut : cut m e = (max ((m.log2 : ℤ) + 1 + e - 53) (-1074) - e).toNat := rfl
  rw [Nat.le_div_iff_mul_le (Nat.two_pow_pos _), ← Nat.pow_add]
  refine le_trans (Nat.pow_le_pow_right Nat.two_pos ?_) (Nat.log2_self_le hm.ne')
  omega

/-- A rounded mantissa is too long by one bit at most, and then it ends in a zero. -/
theorem recut_number (s : Sign) (hr : r ≤ 2 ^ 53) (ht : -1074 ≤ t)
    (hbits : 2 ^ 52 ≤ r ∨ t = -1074) :
    IsNumber (recut s r t) ∧ value (recut s r t) = (s.apply r : ℤ) * 2 ^ t := by
  rw [recut]
  rcases hr.lt_or_eq with hlt | rfl
  · simp only [cut_of_lt hlt ht, pow_zero, Nat.div_one, Int.natCast_zero, add_zero]
    by_cases hzero : r = 0
    · subst hzero
      rw [dif_pos rfl]
      refine ⟨.zero s, ?_⟩
      cases s <;> simp [value, Sign.apply]
    · rw [dif_neg hzero]
      exact ⟨.finite hlt ht hbits, rfl⟩
  · have hhalf : (2 : ℕ) ^ 53 / 2 ^ 1 = 2 ^ 52 := by decide
    simp only [cut_two_pow ht, hhalf]
    rw [dif_neg (by decide)]
    refine ⟨.finite (by decide) (by omega) (.inl le_rfl), ?_⟩
    rw [value, zpow_add_natCast, show (2 : ℕ) ^ 53 = 2 ^ 52 * 2 by decide, apply_mul]
    push_cast
    ring

/-- An exact mantissa is rounded by half of the last bit that is left, at most. -/
theorem exists_roundedMantissa (m : ℕ) (e : ℤ) :
    ∃ r, (ExtendedMantissa.ofMantissaAndAccuracy m .exact >>> cut m e).roundedMantissa = r
      ∧ m / 2 ^ cut m e ≤ r ∧ r ≤ m / 2 ^ cut m e + 1
      ∧ 2 * (r * 2 ^ cut m e) ≤ 2 * m + 2 ^ cut m e
      ∧ 2 * m ≤ 2 * (r * 2 ^ cut m e) + 2 ^ cut m e := by
  have hbounds :=
    roundedMantissa_bounds (ExtendedMantissa.ofMantissaAndAccuracy m .exact >>> cut m e)
  have hrounded := congrArg ExtendedMantissa.roundedMantissa (shiftRight_exact m (cut m e))
  have hnear := roundToNearestEven_near (q := m / 2 ^ cut m e)
    (Nat.mod_lt m (Nat.two_pow_pos (cut m e)))
  rw [mantissa_shiftRight, mantissa_ofMantissaAndAccuracy] at hbounds
  rw [roundedMantissa_ofMantissaAndAccuracy] at hrounded
  rw [Nat.div_add_mod', ← hrounded] at hnear
  exact ⟨_, rfl, hbounds.1, hbounds.2, hnear.1, hnear.2⟩

theorem half_step (s : Sign) (e : ℤ) {c : ℕ} (hlow : 2 * (r * 2 ^ c) ≤ 2 * m + 2 ^ c)
    (hhigh : 2 * m ≤ 2 * (r * 2 ^ c) + 2 ^ c) :
    2 * |((s.apply m : ℤ) : ℚ) * 2 ^ e - (s.apply r : ℤ) * 2 ^ (e + c)| ≤ 2 ^ (e + c) := by
  have hhalf : 2 * |(m : ℚ) - (r * 2 ^ c : ℕ)| ≤ (2 ^ c : ℕ) := by
    have hlow : (2 * (r * 2 ^ c : ℕ) : ℚ) ≤ 2 * m + (2 ^ c : ℕ) := by exact_mod_cast hlow
    have hhigh : (2 * m : ℚ) ≤ 2 * (r * 2 ^ c : ℕ) + (2 ^ c : ℕ) := by exact_mod_cast hhigh
    rcases abs_cases ((m : ℚ) - (r * 2 ^ c : ℕ)) with habs | habs <;> linarith
  have hdiff : ((s.apply m : ℤ) : ℚ) * 2 ^ e - (s.apply r : ℤ) * 2 ^ (e + c)
      = ((s.apply m : ℤ) - (s.apply (r * 2 ^ c : ℕ) : ℤ)) * 2 ^ e := by
    rw [zpow_add_natCast, apply_mul]
    push_cast
    ring
  rw [hdiff, abs_mul, abs_apply_sub, abs_of_pos (two_zpow_pos e), zpow_add_natCast, ← mul_assoc]
  refine mul_le_mul_of_nonneg_right ?_ (two_zpow_pos e).le
  exact_mod_cast hhalf

/-- Exact numbers with bits enough are rounded to the nearest number. -/
theorem nearest_roundWithAccuracy (s : Sign) (hm : 0 < m)
    (he : e ≤ max (totalExponent m e - 53) (-1074)) :
    Nearest (s.apply m * 2 ^ e) (roundWithAccuracy .binary64 s m e .exact) := by
  have ht : -1074 ≤ e + cut m e := by
    show -1074 ≤ e + (max ((m.log2 : ℤ) + 1 + e - 53) (-1074) - e).toNat
    omega
  obtain ⟨r, hrounded, hfloor, hceil, hlow, hhigh⟩ := exists_roundedMantissa m e
  have hshort := div_cut_lt m e
  have hbits : 2 ^ 52 ≤ m / 2 ^ cut m e ∨ e + cut m e = -1074 := by
    by_cases hsmall : e + cut m e = -1074
    · exact .inr hsmall
    · exact .inl (le_div_cut hm he hsmall)
  obtain ⟨hnumber, hvalue⟩ := recut_number s (show r ≤ 2 ^ 53 by omega) ht
    (hbits.imp_left fun hfull => hfull.trans hfloor)
  rw [roundWithAccuracy_of_rounded s e hrounded]
  refine nearest_of_grid hnumber hvalue (half_step s e hlow hhigh) ?_
  rcases hbits with hfull | hsmall
  · have hfull : 2 ^ 52 * 2 ^ cut m e ≤ m := (Nat.le_div_iff_mul_le (Nat.two_pow_pos _)).1 hfull
    refine .inr ?_
    rw [abs_mul, abs_apply, abs_of_pos (two_zpow_pos e), zpow_add_natCast, ← mul_assoc]
    refine mul_le_mul_of_nonneg_right ?_ (two_zpow_pos e).le
    exact_mod_cast hfull
  · exact .inl hsmall

/-- Bits that are put behind a mantissa count as the exponent says. -/
theorem apply_shiftLeft (s : Sign) (m : ℕ) (h : t ≤ e) :
    ((s.apply (m <<< (e - t).toNat : ℕ) : ℤ) : ℚ) * 2 ^ t = (s.apply m : ℤ) * 2 ^ e := by
  have he : e = t + (e - t).toNat := by omega
  rw [Nat.shiftLeft_eq, apply_mul]
  conv_rhs => rw [he, zpow_add_natCast]
  push_cast
  ring

/-- Exact numbers are rounded to the nearest number. -/
theorem nearest_round (s : Sign) (hm : 0 < m) (e : ℤ) :
    Nearest (s.apply m * 2 ^ e) (round .binary64 s m e) := by
  have hsame := totalExponent_decreaseExponent hm e
    (Format.binary64.targetExponent (totalExponent m e))
  have htarget : Format.binary64.targetExponent (totalExponent m e)
    = max (totalExponent m e - 53) (-1074) := rfl
  rw [htarget] at hsame
  have hvalue : ((s.apply (decreaseExponent m e (max (totalExponent m e - 53) (-1074))).1 : ℤ) : ℚ)
      * 2 ^ (decreaseExponent m e (max (totalExponent m e - 53) (-1074))).2
      = (s.apply m : ℤ) * 2 ^ e := by
    by_cases hlong : e ≤ max (totalExponent m e - 53) (-1074)
    · have hnone : (e - max (totalExponent m e - 53) (-1074)).toNat = 0 := by omega
      rw [decreaseExponent, hnone, Nat.shiftLeft_zero, Int.natCast_zero, sub_zero]
    · have hle := (not_le.1 hlong).le
      rw [decreaseExponent_of_le hle]
      exact apply_shiftLeft s m hle
  rw [← hvalue]
  refine nearest_roundWithAccuracy s (shiftLeft_pos hm _) ?_
  rw [hsame]
  show e - ((e - max (totalExponent m e - 53) (-1074)).toNat : ℤ) ≤ _
  omega

theorem nearest_normalize (m e : ℤ) (zeroSign : Sign) :
    Nearest (m * 2 ^ e) (UnpackedFloat.normalize .binary64 m e zeroSign) := by
  rw [UnpackedFloat.normalize]
  cases hsign : compare m 0 with
  | lt =>
      have hlt := Int.compare_eq_lt.1 hsign
      have hm : m = Sign.negative.apply (-m).toNat := by
        show m = -((-m).toNat : ℤ)
        omega
      conv in (m : ℚ) => rw [hm]
      exact nearest_round .negative (by omega) e
  | gt =>
      have hgt := Int.compare_eq_gt.1 hsign
      have hm : m = Sign.positive.apply m.toNat := by
        show m = (m.toNat : ℤ)
        omega
      conv in (m : ℚ) => rw [hm]
      exact nearest_round .positive (by omega) e
  | eq =>
      have heq := Int.compare_eq_eq.1 hsign
      subst heq
      rw [Int.cast_zero, zero_mul]
      exact nearest_self (.zero zeroSign)

end Rounding

/-! ## Sums, products and whole numbers -/

variable {x y : UnpackedFloat}

theorem nearest_add (hx : IsNumber x) (hy : IsNumber y) :
    Nearest (value x + value y) (add .binary64 x y) := by
  cases hx with
  | zero s =>
      rw [show value (.zero s) = 0 from rfl, zero_add]
      cases hy with
      | zero t =>
          rw [show value (.zero t) = 0 from rfl]
          cases s <;> cases t <;> exact nearest_self (.zero _)
      | finite bits least full => exact nearest_self (.finite bits least full)
  | @finite s m e hm bits least full =>
      cases hy with
      | zero t =>
          rw [show value (.zero t) = 0 from rfl, add_zero]
          exact nearest_self (.finite bits least full)
      | @finite t n f hn _ _ _ =>
          simp only [add, decreaseExponent_of_le (min_le_left e f),
            decreaseExponent_of_le (min_le_right e f)]
          have hsum : value (.finite s m e hm) + value (.finite t n f hn)
              = ((s.apply (m <<< (e - min e f).toNat : ℕ)
                + t.apply (n <<< (f - min e f).toNat : ℕ) : ℤ) : ℚ) * 2 ^ min e f := by
            rw [Int.cast_add, add_mul, apply_shiftLeft s m (min_le_left e f),
              apply_shiftLeft t n (min_le_right e f)]
            rfl
          rw [hsum]
          exact nearest_normalize _ _ _

theorem apply_mul_apply (s t : Sign) (m n : ℕ) :
    (s * t).apply (m * n : ℕ) = s.apply m * t.apply n := by
  rw [apply_mul]
  cases s <;> cases t
  · exact (neg_mul_neg (m : ℤ) n).symm
  · rfl
  · exact neg_mul_comm (m : ℤ) n
  · rfl

/-- A product has bits enough, or it is one of the smallest. -/
theorem exponent_of_mul {m n : ℕ} {e f : ℤ} (hm : 0 < m) (hn : 0 < n)
    (hfull : 2 ^ 52 ≤ m ∨ e = -1074) (hfull' : 2 ^ 52 ≤ n ∨ f = -1074) (_ : -1074 ≤ e)
    (_ : -1074 ≤ f) : e + f ≤ max (totalExponent (m * n) (e + f) - 53) (-1074) := by
  have hlog := log2_add_log2_le hm.ne' hn.ne'
  show e + f ≤ max (((m * n).log2 : ℤ) + 1 + (e + f) - 53) (-1074)
  rcases hfull with hfull | he
  · have := (Nat.le_log2 hm.ne').2 hfull
    omega
  · rcases hfull' with hfull | hf
    · have := (Nat.le_log2 hn.ne').2 hfull
      omega
    · omega

theorem nearest_mul (hx : IsNumber x) (hy : IsNumber y) :
    Nearest (value x * value y) (mul .binary64 x y) := by
  cases hx with
  | zero s =>
      rw [show value (.zero s) = 0 from rfl, zero_mul]
      cases hy with
      | zero t => exact nearest_self (.zero (s * t))
      | @finite t n f hn _ _ _ => exact nearest_self (.zero (s * t))
  | @finite s m e hm _ least full =>
      cases hy with
      | zero t =>
          rw [show value (.zero t) = 0 from rfl, mul_zero]
          exact nearest_self (.zero (s * t))
      | @finite t n f hn _ least' full' =>
          have hproduct : value (.finite s m e hm) * value (.finite t n f hn)
              = ((s * t).apply (m * n : ℕ) : ℤ) * 2 ^ (e + f) := by
            rw [value, value, apply_mul_apply, zpow_add₀ two_ne_zero]
            push_cast
            ring
          rw [hproduct]
          exact nearest_roundWithAccuracy (s * t) (Nat.mul_pos hm hn)
            (exponent_of_mul hm hn full full' least least')

theorem nearest_ofNat (n : ℕ) : Nearest n (ofNat .binary64 n) := by
  have h := nearest_normalize n 0 .positive
  rwa [zpow_zero, mul_one, Int.cast_natCast] at h

end Populace.Rounding
