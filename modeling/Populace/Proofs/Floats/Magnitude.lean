import Mathlib

/-!
# How large the result of float arithmetic is

Doubles are known here by the place of their leading bit only: a finite number is below a
power of two (`IsBelow`) or not below one (`IsAtLeast`). Rounding moves the leading bit by
one place at most, which is enough to see that a quotient or a root of numbers that are far
from the limits of the format is finite.
-/

namespace Populace.Magnitude

open Float.Model (Format UnpackedFloat totalExponent)
open Float.Model.UnpackedFloat

/-! ## Leading bits -/

theorem log2_shiftLeft {m : Nat} (hm : 0 < m) (n : Nat) : (m <<< n).log2 = m.log2 + n := by
  rw [Nat.shiftLeft_eq]
  have hlow : 2 ^ m.log2 ≤ m := Nat.log2_self_le (by omega)
  have hhigh : m < 2 ^ (m.log2 + 1) := Nat.lt_log2_self
  have hpos : 0 < m * 2 ^ n := Nat.mul_pos hm (Nat.two_pow_pos n)
  refine (Nat.log2_eq_iff (by omega)).2 ⟨?_, ?_⟩
  · rw [Nat.pow_add]
    exact Nat.mul_le_mul_right _ hlow
  · rw [show m.log2 + n + 1 = m.log2 + 1 + n by omega, Nat.pow_add 2 (m.log2 + 1)]
    exact Nat.mul_lt_mul_of_pos_right hhigh (Nat.two_pow_pos n)

/-- Bits that are dropped behind the leading one do not change how far it is from them. -/
theorem log2_div_two_pow {m n : Nat} (hm : 0 < m) (h : n ≤ m.log2) :
    (m / 2 ^ n).log2 = m.log2 - n := by
  have hlow : 2 ^ m.log2 ≤ m := Nat.log2_self_le (by omega)
  have hhigh : m < 2 ^ (m.log2 + 1) := Nat.lt_log2_self
  have hle : 2 ^ (m.log2 - n) ≤ m / 2 ^ n := by
    rw [Nat.le_div_iff_mul_le (Nat.two_pow_pos n), ← Nat.pow_add,
      show m.log2 - n + n = m.log2 by omega]
    exact hlow
  have hlt : m / 2 ^ n < 2 ^ (m.log2 - n + 1) := by
    rw [Nat.div_lt_iff_lt_mul (Nat.two_pow_pos n), ← Nat.pow_add,
      show m.log2 - n + 1 + n = m.log2 + 1 by omega]
    exact hhigh
  have hpos : 0 < 2 ^ (m.log2 - n) := Nat.two_pow_pos _
  exact (Nat.log2_eq_iff (by omega)).2 ⟨hle, hlt⟩

theorem pos_of_log2_pos {m : Nat} (h : 0 < m.log2) : 0 < m := by
  rcases Nat.eq_zero_or_pos m with rfl | hm
  · simp at h
  · exact hm

theorem log2_mono {a b : Nat} (h : a ≤ b) : a.log2 ≤ b.log2 := by
  by_cases ha : a = 0
  · subst ha
    simp
  · rw [Nat.le_log2 (by omega)]
    exact Nat.le_trans (Nat.log2_self_le ha) h

/-- What has no more bits than the format has its leading bit in them. -/
theorem log2_lt_of_lt {m : Nat} (h : m < 2 ^ 53) : m.log2 < 53 := by
  by_cases hm : m = 0
  · rw [hm]
    decide
  · exact (Nat.log2_lt hm).2 h

/-- One more moves the leading bit by one place at most. -/
theorem log2_succ_le (m : Nat) : (m + 1).log2 ≤ m.log2 + 1 := by
  have hhigh : m < 2 ^ (m.log2 + 1) := Nat.lt_log2_self
  have hlt : (m + 1).log2 < m.log2 + 2 := by
    rw [Nat.log2_lt (by omega), Nat.pow_succ]
    omega
  omega

theorem log2_add_le {a b n : Nat} (ha : a.log2 ≤ n) (hb : b.log2 ≤ n) :
    (a + b).log2 ≤ n + 1 := by
  have hlow : a < 2 ^ (n + 1) := Nat.lt_of_lt_of_le Nat.lt_log2_self
    (Nat.pow_le_pow_right (by omega) (by omega))
  have hhigh : b < 2 ^ (n + 1) := Nat.lt_of_lt_of_le Nat.lt_log2_self
    (Nat.pow_le_pow_right (by omega) (by omega))
  by_cases h : a + b = 0
  · simp [h]
  · have hlt : (a + b).log2 < n + 2 := by
      rw [Nat.log2_lt h, Nat.pow_succ]
      omega
    omega

theorem log2_add_log2_le {a b : Nat} (ha : a ≠ 0) (hb : b ≠ 0) :
    a.log2 + b.log2 ≤ (a * b).log2 := by
  rw [Nat.le_log2 (Nat.mul_ne_zero ha hb), Nat.pow_add]
  exact Nat.mul_le_mul (Nat.log2_self_le ha) (Nat.log2_self_le hb)

/-! ## Rounding -/

theorem mantissa_shiftRight (em : ExtendedMantissa) (n : Nat) :
    (em >>> n).mantissa = em.mantissa / 2 ^ n := by
  induction n with
  | zero =>
      show em.mantissa = em.mantissa / 2 ^ 0
      simp
  | succ n ih =>
      show (em >>> n).mantissa / 2 = em.mantissa / 2 ^ (n + 1)
      rw [ih, Nat.div_div_eq_div_mul, Nat.pow_succ]

theorem roundedMantissa_bounds (em : ExtendedMantissa) :
    em.mantissa ≤ em.roundedMantissa ∧ em.roundedMantissa ≤ em.mantissa + 1 := by
  obtain ⟨m, r, s⟩ := em
  cases r <;> cases s <;>
    simp only [ExtendedMantissa.roundedMantissa, ExtendedMantissa.accuracy,
      Accuracy.roundToNearestEven] <;> omega

theorem mantissa_ofMantissaAndAccuracy (m : Nat) (acc : Accuracy) :
    (ExtendedMantissa.ofMantissaAndAccuracy m acc).mantissa = m := by
  rcases acc with _ | o
  · rfl
  · cases o <;> rfl

/-- How many bits rounding cuts off. -/
def cut (m : Nat) (e : Int) : Nat :=
  (max (totalExponent m e - 53) (-1074) - e).toNat

/-- A rounded mantissa as a number, cut again if it has become too long. -/
def recut (s : Sign) (r : Nat) (e : Int) : UnpackedFloat :=
  if h : r / 2 ^ cut r e = 0 then .zero s
  else .finite s (r / 2 ^ cut r e) (e + cut r e) (Nat.pos_of_ne_zero h)

/-- Rounding cuts bits off, rounds what is left, and cuts again. -/
theorem roundWithAccuracy_of_rounded (s : Sign) {m r : Nat} (e : Int) {acc : Accuracy}
    (hr : (ExtendedMantissa.ofMantissaAndAccuracy m acc >>> cut m e).roundedMantissa = r) :
    roundWithAccuracy .binary64 s m e acc = recut s r (e + cut m e) := by
  have hfinal := mantissa_shiftRight (ExtendedMantissa.ofMantissaAndAccuracy r .exact)
    (cut r (e + cut m e))
  rw [mantissa_ofMantissaAndAccuracy] at hfinal
  simp only [recut, ← hfinal]
  subst hr
  rfl

/-- What is left is rounded to itself or to one more. -/
theorem roundWithAccuracy_eq (s : Sign) (m : Nat) (e : Int) (acc : Accuracy) :
    ∃ r, m / 2 ^ cut m e ≤ r ∧ r ≤ m / 2 ^ cut m e + 1
      ∧ roundWithAccuracy .binary64 s m e acc = recut s r (e + cut m e) := by
  have hbounds :=
    roundedMantissa_bounds (ExtendedMantissa.ofMantissaAndAccuracy m acc >>> cut m e)
  rw [mantissa_shiftRight, mantissa_ofMantissaAndAccuracy] at hbounds
  exact ⟨_, hbounds.1, hbounds.2, roundWithAccuracy_of_rounded s e rfl⟩

/-! ## Numbers below a power of two, and not below one -/

/-- Zero, or a finite number of this sign with its leading bit at this place at most. -/
def IsBelow (k : Int) (s : Sign) : UnpackedFloat → Prop
  | .zero _ => True
  | .finite t m e _ => t = s ∧ totalExponent m e ≤ k
  | _ => False

/-- A positive number with its leading bit at this place at least, or infinity. -/
def IsAtLeast (k : Int) : UnpackedFloat → Prop
  | .infinity t => t = .positive
  | .finite t m e _ => t = .positive ∧ k ≤ totalExponent m e
  | _ => False

variable {k l : Int} {s : Sign} {m : Nat} {e : Int} {acc : Accuracy}

theorem IsBelow.mono {x : UnpackedFloat} (h : IsBelow k s x) (hkl : k ≤ l) : IsBelow l s x := by
  cases x with
  | zero t => trivial
  | finite t m e hm => exact ⟨h.1, by have := h.2; omega⟩
  | infinity t => exact h
  | notANumber => exact h

/-- Rounding moves the leading bit up by one place at most. -/
theorem round_isBelow (hk : 0 ≤ k) (h : totalExponent m e ≤ k) :
    IsBelow (k + 1) s (roundWithAccuracy .binary64 s m e acc) := by
  obtain ⟨r, hlow, hhigh, hround⟩ := roundWithAccuracy_eq s m e acc
  rw [hround, recut]
  generalize hc : cut m e = c at *
  by_cases hzero : r / 2 ^ cut r (e + c) = 0
  · rw [dif_pos hzero]
    trivial
  · rw [dif_neg hzero]
    refine ⟨rfl, ?_⟩
    generalize hd : cut r (e + c) = d at *
    have hr : 0 < r := by
      rcases Nat.eq_zero_or_pos r with rfl | hr
      · simp at hzero
      · exact hr
    -- the second cut leaves the leading bit where it is
    have hdr : d ≤ r.log2 := by
      rw [Nat.le_log2 (by omega)]
      exact Nat.le_of_not_lt fun hlt => hzero (Nat.div_eq_of_lt hlt)
    have hfinal : (r / 2 ^ d).log2 = r.log2 - d := log2_div_two_pow hr hdr
    have hrle : r.log2 ≤ (m / 2 ^ c).log2 + 1 :=
      Nat.le_trans (log2_mono hhigh) (log2_succ_le _)
    have hcut : c = (max ((m.log2 : Int) + 1 + e - 53) (-1074) - e).toNat := by
      rw [← hc]
      rfl
    have hexp : (m.log2 : Int) + 1 + e ≤ k := h
    show ((r / 2 ^ d).log2 : Int) + 1 + (e + c + d) ≤ k + 1
    by_cases hcm : c ≤ m.log2
    · by_cases hm : m = 0
      · subst hm
        simp only [Nat.zero_div, Nat.log2_zero] at *
        omega
      · have hq : (m / 2 ^ c).log2 = m.log2 - c := log2_div_two_pow (by omega) hcm
        omega
    · -- nothing of the number is left, so it is a tiny one
      have hq : m / 2 ^ c = 0 := Nat.div_eq_of_lt <|
        Nat.lt_of_lt_of_le Nat.lt_log2_self (Nat.pow_le_pow_right (by omega) (by omega))
      have hrone : r.log2 = 0 := by
        have hle : r ≤ 1 := by omega
        have : r = 1 := by omega
        subst this
        rfl
      omega

/-- A number with bits enough keeps its leading bit, or it moves up by one place, and the
result has exactly the bits of the format. -/
theorem round_isAtLeast (s : Sign) (acc : Accuracy) (hm : 52 ≤ m.log2) (hk : -1021 ≤ totalExponent m e) :
    ∃ n f hn, roundWithAccuracy .binary64 s m e acc = .finite s n f hn ∧ n.log2 = 52
      ∧ totalExponent m e ≤ totalExponent n f := by
  obtain ⟨r, hlow, hhigh, hround⟩ := roundWithAccuracy_eq s m e acc
  have hcut : cut m e = (max ((m.log2 : Int) + 1 + e - 53) (-1074) - e).toNat := rfl
  have hexp : -1021 ≤ (m.log2 : Int) + 1 + e := hk
  have hc : cut m e = m.log2 - 52 := by omega
  have hmpos : 0 < m := pos_of_log2_pos (by omega)
  have hq : (m / 2 ^ cut m e).log2 = 52 := by
    rw [log2_div_two_pow hmpos (by omega)]
    omega
  have hrlow : 52 ≤ r.log2 := by
    rw [← hq]
    exact log2_mono hlow
  have hrhigh : r.log2 ≤ 53 := by
    have hle := Nat.le_trans (log2_mono hhigh) (log2_succ_le (m / 2 ^ cut m e))
    omega
  have hrpos : 0 < r := pos_of_log2_pos (by omega)
  have hd : cut r (e + cut m e) = r.log2 - 52 := by
    have hcut' : cut r (e + cut m e)
      = (max ((r.log2 : Int) + 1 + (e + cut m e) - 53) (-1074) - (e + cut m e)).toNat := rfl
    omega
  have hfinal : (r / 2 ^ cut r (e + cut m e)).log2 = 52 := by
    rw [log2_div_two_pow hrpos (by omega)]
    omega
  have hne : r / 2 ^ cut r (e + cut m e) ≠ 0 := by
    intro hzero
    rw [hzero] at hfinal
    simp at hfinal
  refine ⟨_, _, Nat.pos_of_ne_zero hne, by rw [hround, recut, dif_neg hne], hfinal, ?_⟩
  show (m.log2 : Int) + 1 + e
    ≤ ((r / 2 ^ cut r (e + cut m e)).log2 : Int) + 1 + (e + cut m e + cut r (e + cut m e))
  omega

/-! ## Packing -/

theorem unpackSign_packComponents (s : Sign) (E : BitVec 11) (M : BitVec 52) :
    Sign.ofBitVec (unpackSign (packComponents .binary64 s E M)) = s := by
  simp only [unpackSign, packComponents, BitVec.extractLsb]
  rw [BitVec.extractLsb'_append_eq_of_le (by omega), BitVec.extractLsb'_append_eq_of_le (by omega)]
  cases s <;> rfl

/-- The leading bit, which is not packed, is put in front again. -/
theorem toNat_one_append (M : BitVec 52) : (1#1 ++ M).toNat = 2 ^ 52 + M.toNat := by
  rw [BitVec.toNat_append, ← Nat.shiftLeft_add_eq_or_of_lt M.isLt]
  rfl

/-- The limits of the format. A number has all the bits of the format, or the least exponent. -/
theorem unpack_bounds {b : BitVec 64} {hm : 0 < m}
    (h : unpack .binary64 b = .finite s m e hm) :
    m < 2 ^ 53 ∧ e ≤ 971 ∧ -1074 ≤ e ∧ (2 ^ 52 ≤ m ∨ e = -1074) := by
  have hE : (@unpackExponent .binary64 b).toNat < 2 ^ 11 := BitVec.isLt _
  have hM : (@unpackMantissa .binary64 b).toNat < 2 ^ 52 := BitVec.isLt _
  have hbias : ((Format.binary64.exponentBias : Nat) : Int) = 1023 := rfl
  have hbits : ((Format.binary64.mantissaBitsWithoutImplicit : Nat) : Int) = 52 := rfl
  rw [unpack] at h
  by_cases hones : @unpackExponent .binary64 b = -1#_
  · rw [if_pos hones] at h
    split at h <;> cases h
  · have htop : (@unpackExponent .binary64 b).toNat ≠ 2047 :=
      fun heq => hones (BitVec.eq_of_toNat_eq heq)
    rw [if_neg hones] at h
    by_cases hzero : @unpackExponent .binary64 b = 0#_
    · have hbottom : (@unpackExponent .binary64 b).toNat = 0 := by
        rw [hzero]
        rfl
      rw [if_pos hzero] at h
      split at h
      · cases h
      · cases h
        exact ⟨by omega, by omega, by omega, .inr (by omega)⟩
    · have hbottom : (@unpackExponent .binary64 b).toNat ≠ 0 :=
        fun heq => hzero (BitVec.eq_of_toNat_eq heq)
      rw [if_neg hzero] at h
      cases h
      refine ⟨(1#1 ++ @unpackMantissa .binary64 b).isLt, by omega, by omega, .inl ?_⟩
      rw [toNat_one_append]
      exact Nat.le_add_right _ _

/-- What the fields of a double stand for. -/
theorem unpack_packComponents_isBelow (s : Sign) (E : BitVec 11) (M : BitVec 52)
    (hE : E.toNat < 2047) (hk : -1022 ≤ k) (h : E ≠ 0 → (E.toNat : Int) - 1022 ≤ k) :
    IsBelow k s (unpack .binary64 (packComponents .binary64 s E M)) := by
  have hones : E ≠ -1#_ := by
    rintro rfl
    exact absurd hE (by decide)
  have hM : M.toNat < 2 ^ 52 := M.isLt
  simp only [unpack, unpackMantissa_packComponents, unpackExponent_packComponents,
    unpackSign_packComponents]
  rw [if_neg hones]
  by_cases hzero : E = 0#_
  · rw [if_pos hzero]
    by_cases hnone : M = 0#_
    · rw [dif_pos hnone]
      trivial
    · rw [dif_neg hnone]
      refine ⟨rfl, ?_⟩
      have hlog : M.toNat.log2 < 52 := by
        rw [Nat.log2_lt fun hz => hnone (BitVec.eq_of_toNat_eq hz)]
        exact hM
      subst hzero
      show (M.toNat.log2 : Int) + 1 + ((0 : Nat) - (1023 + 52 : Int) + 1) ≤ k
      omega
  · rw [if_neg hzero]
    refine ⟨rfl, ?_⟩
    have hlog := log2_lt_of_lt (1#1 ++ M).isLt
    have hEk := h hzero
    show ((1#1 ++ M).toNat.log2 : Int) + 1 + (E.toNat - (1023 + 52 : Int)) ≤ k
    omega

/-- The exponent as it is packed. -/
theorem biasedExponent_eq (e : Int) :
    (e + Format.binary64.exponentBias + (52 : Nat)).toNat = (e + 1075).toNat := by
  show (e + (1023 : Nat) + (52 : Nat)).toNat = (e + 1075).toNat
  omega

theorem toNat_exponentField (h : e ≤ 972) :
    (BitVec.ofNat 11 (e + 1075).toNat).toNat = (e + 1075).toNat := by
  rw [BitVec.toNat_ofNat]
  exact Nat.mod_eq_of_lt (by omega)

/-- It is neither the one of infinity nor the one of the smallest numbers. -/
theorem exponentField_ne (hlow : -1074 ≤ e) (hhigh : e ≤ 971) :
    BitVec.ofNat 11 (e + 1075).toNat ≠ -1#_ ∧ BitVec.ofNat 11 (e + 1075).toNat ≠ 0#_ := by
  have hfield := toNat_exponentField (show e ≤ 972 by omega)
  constructor
  · intro h
    have htop : (e + 1075).toNat = 2047 := by
      rw [← hfield, h]
      rfl
    omega
  · intro h
    have hbottom : (e + 1075).toNat = 0 := by
      rw [← hfield, h]
      rfl
    omega

/-- Numbers that are not too large for the format stay what they are. -/
theorem isBelow_pack {x : UnpackedFloat} (h : IsBelow k s x) (hk : 0 ≤ k) (hlarge : k ≤ 972) :
    IsBelow k s (unpack .binary64 (pack .binary64 x)) := by
  cases x with
  | infinity t => exact h.elim
  | notANumber => exact h.elim
  | zero t => cases t <;> trivial
  | finite t m e hm =>
      obtain ⟨rfl, hexp⟩ := h
      have hexp : (m.log2 : Int) + 1 + e ≤ k := hexp
      have hfits : ¬ 2 ^ Format.binary64.exponentBits ≤ (e + 1075).toNat + 1 := by
        show ¬ 2048 ≤ (e + 1075).toNat + 1
        omega
      simp only [pack, biasedExponent_eq]
      rw [if_neg hfits]
      have hfield := toNat_exponentField (show e ≤ 972 by omega)
      by_cases hbits : m.log2 + 1 = Format.binary64.mantissaBits
      · rw [if_pos hbits]
        have hlog : m.log2 = 52 := by
          have : m.log2 + 1 = 53 := hbits
          omega
        refine unpack_packComponents_isBelow _ _ _ (by rw [hfield]; omega) (by omega) fun hE => ?_
        have hpos : (e + 1075).toNat ≠ 0 := by
          rw [← hfield]
          exact fun hz => hE (BitVec.eq_of_toNat_eq hz)
        rw [hfield]
        omega
      · rw [if_neg hbits]
        exact unpack_packComponents_isBelow _ _ _ (by decide) (by omega) fun hE => absurd rfl hE

/-- Numbers of the format that are not too large stay what they are. -/
theorem unpack_pack_of_fits {hm : 0 < m} (hbits : m < 2 ^ 53) (hleast : -1074 ≤ e)
    (hfull : 2 ^ 52 ≤ m ∨ e = -1074) (he : e ≤ 971) :
    unpack .binary64 (pack .binary64 (.finite s m e hm)) = .finite s m e hm := by
  have hfits : ¬ 2 ^ Format.binary64.exponentBits ≤ (e + 1075).toNat + 1 := by
    show ¬ 2048 ≤ (e + 1075).toNat + 1
    omega
  simp only [pack, biasedExponent_eq]
  rw [if_neg hfits]
  by_cases hnormal : m.log2 + 1 = Format.binary64.mantissaBits
  · have hlow : 2 ^ 52 ≤ m := by
      have hlog : m.log2 + 1 = 53 := hnormal
      rw [← Nat.le_log2 hm.ne']
      omega
    have hfield := toNat_exponentField (show e ≤ 972 by omega)
    obtain ⟨hones, hzero⟩ := exponentField_ne hleast he
    rw [if_pos hnormal]
    simp only [unpack, unpackMantissa_packComponents, unpackExponent_packComponents,
      unpackSign_packComponents]
    rw [if_neg hones, if_neg hzero]
    have hmantissa : (1#1 ++ BitVec.ofNat 52 m).toNat = m := by
      rw [toNat_one_append, BitVec.toNat_ofNat]
      omega
    have hexponent : ((BitVec.ofNat 11 (e + 1075).toNat).toNat : Int) - (1023 + 52) = e := by
      rw [hfield]
      omega
    congr 1
  · have hlow : m < 2 ^ 52 := by
      have hbelow : m.log2 < 53 := log2_lt_of_lt hbits
      have hlog : m.log2 + 1 ≠ 53 := hnormal
      rw [← Nat.log2_lt hm.ne']
      omega
    have hmantissa : (BitVec.ofNat 52 m).toNat = m := by
      rw [BitVec.toNat_ofNat]
      omega
    have hzero : BitVec.ofNat 52 m ≠ 0#_ := by
      intro h
      rw [h] at hmantissa
      exact hm.ne hmantissa
    have hexponent : e = -1074 := hfull.resolve_left (by omega)
    rw [if_neg hnormal]
    simp only [unpack, unpackMantissa_packComponents, unpackExponent_packComponents,
      unpackSign_packComponents]
    rw [if_neg (by decide), if_pos trivial, dif_neg hzero]
    congr 1
    exact hexponent.symm

/-- All others become infinity. -/
theorem unpack_pack_of_large {hm : 0 < m} (he : 971 < e) :
    unpack .binary64 (pack .binary64 (.finite s m e hm)) = .infinity s := by
  have hlarge : 2 ^ Format.binary64.exponentBits ≤ (e + 1075).toNat + 1 := by
    show 2048 ≤ (e + 1075).toNat + 1
    omega
  simp only [pack, biasedExponent_eq]
  rw [if_pos hlarge]
  cases s <;> rfl

/-- A number with exactly the bits of the format keeps its leading bit, unless it is so
large that it becomes infinity. -/
theorem isAtLeast_pack (hm : 0 < m) (hlog : m.log2 = 52) (he : -1074 ≤ e)
    (hk : k ≤ totalExponent m e) :
    IsAtLeast k (unpack .binary64 (pack .binary64 (.finite .positive m e hm))) := by
  obtain ⟨hlow, hhigh⟩ := (Nat.log2_eq_iff hm.ne').1 hlog
  by_cases hlarge : e ≤ 971
  · rw [unpack_pack_of_fits hhigh he (.inl hlow) hlarge]
    exact ⟨rfl, hk⟩
  · rw [unpack_pack_of_large (Int.not_le.1 hlarge)]
    rfl

/-! ## Operations -/

/-- Twice the place of a root's leading bit is about that of the number. -/
theorem totalExponent_sqrtCore (hm : 0 < m) (h : totalExponent m e ≤ 2 * k - 1) :
    totalExponent (sqrtCore .binary64 m e).1 (sqrtCore .binary64 m e).2.1 ≤ k := by
  have hexp : (m.log2 : Int) + 1 + e ≤ 2 * k - 1 := h
  have htotal : totalExponent m e = (m.log2 : Int) + 1 + e := rfl
  obtain ⟨t, ht⟩ : ∃ t : Int,
      t = min (e / 2) (max ((totalExponent m e + 1) / 2 - 53) (-1074)) := ⟨_, rfl⟩
  show ((Nat.sqrt (m <<< (e - 2 * min (e / 2)
      (max ((totalExponent m e + 1) / 2 - 53) (-1074))).toNat)).log2 : Int) + 1
    + min (e / 2) (max ((totalExponent m e + 1) / 2 - 53) (-1074)) ≤ k
  rw [← ht]
  rw [htotal] at ht
  generalize hroot : Nat.sqrt (m <<< (e - 2 * t).toNat) = root
  by_cases hzero : root = 0
  · subst hzero
    rw [Nat.log2_zero]
    omega
  · have hsq : root * root ≤ m <<< (e - 2 * t).toNat := by
      rw [← hroot]
      exact Nat.sqrt_le _
    have hlog : root.log2 + root.log2 ≤ m.log2 + (e - 2 * t).toNat := by
      rw [← log2_shiftLeft hm]
      exact Nat.le_trans (log2_add_log2_le hzero hzero) (log2_mono hsq)
    omega

/-- The leading bit of a quotient. -/
theorem totalExponent_divCore {m₁ m₂ : Nat} {e₁ e₂ : Int} (hm₁ : 0 < m₁) (hm₂ : 0 < m₂)
    (hk : 0 ≤ k - l + 1) (h₁ : totalExponent m₁ e₁ ≤ k) (h₂ : l ≤ totalExponent m₂ e₂) :
    totalExponent (divCore .binary64 m₁ e₁ m₂ e₂).1 (divCore .binary64 m₁ e₁ m₂ e₂).2.1
      ≤ k - l + 1 := by
  have hexp₁ : (m₁.log2 : Int) + 1 + e₁ ≤ k := h₁
  have hexp₂ : l ≤ (m₂.log2 : Int) + 1 + e₂ := h₂
  obtain ⟨t, ht⟩ : ∃ t : Int, t = min (e₁ - e₂)
      (max (totalExponent m₁ e₁ - totalExponent m₂ e₂ - 53) (-1074)) := ⟨_, rfl⟩
  show (((m₁ <<< (e₁ - e₂ - min (e₁ - e₂)
      (max (totalExponent m₁ e₁ - totalExponent m₂ e₂ - 53) (-1074))).toNat) / m₂).log2 : Int) + 1
    + min (e₁ - e₂) (max (totalExponent m₁ e₁ - totalExponent m₂ e₂ - 53) (-1074)) ≤ k - l + 1
  rw [← ht]
  generalize hq : m₁ <<< (e₁ - e₂ - t).toNat / m₂ = q
  by_cases hzero : q = 0
  · subst hzero
    rw [Nat.log2_zero]
    omega
  · have hmul : q * m₂ ≤ m₁ <<< (e₁ - e₂ - t).toNat := by
      rw [← hq]
      exact Nat.div_mul_le_self _ _
    have hlog : q.log2 + m₂.log2 ≤ m₁.log2 + (e₁ - e₂ - t).toNat := by
      rw [← log2_shiftLeft hm₁]
      exact Nat.le_trans (log2_add_log2_le hzero (by omega)) (log2_mono hmul)
    omega

theorem sqrt_isBelow {x : UnpackedFloat} (h : IsBelow (2 * k - 1) .positive x) (hk : 0 ≤ k) :
    IsBelow (k + 1) .positive (sqrt .binary64 x) := by
  cases x with
  | infinity t => exact h.elim
  | notANumber => exact h.elim
  | zero t => trivial
  | finite t m e hm =>
      obtain ⟨rfl, hexp⟩ := h
      exact round_isBelow hk (totalExponent_sqrtCore hm hexp)

theorem div_isBelow {x y : UnpackedFloat} (hx : IsBelow k .positive x) (hy : IsAtLeast l y)
    (hk : 0 ≤ k - l + 1) : IsBelow (k - l + 1 + 1) .positive (div .binary64 x y) := by
  cases x with
  | infinity t => exact hx.elim
  | notANumber => exact hx.elim
  | zero t =>
      cases y with
      | zero u => exact hy.elim
      | notANumber => exact hy.elim
      | _ => trivial
  | finite t m₁ e₁ hm₁ =>
      obtain ⟨rfl, hx⟩ := hx
      cases y with
      | zero u => exact hy.elim
      | notANumber => exact hy.elim
      | infinity u => trivial
      | finite u m₂ e₂ hm₂ =>
          obtain ⟨rfl, hy⟩ := hy
          exact round_isBelow hk (totalExponent_divCore hm₁ hm₂ hk hx hy)

/-- The product with a number that has all the bits of the format, packed. -/
theorem mul_isAtLeast {y : UnpackedFloat} (hm : 0 < m) (hlog : m.log2 = 52)
    (hy : IsAtLeast l y) (hk : -1021 ≤ totalExponent m e + l - 1) :
    IsAtLeast (totalExponent m e + l - 1)
      (unpack .binary64 (pack .binary64 (mul .binary64 (.finite .positive m e hm) y))) := by
  cases y with
  | zero u => exact hy.elim
  | notANumber => exact hy.elim
  | infinity u =>
      cases hy
      have hpacked : unpack .binary64 (pack .binary64 (.infinity .positive))
          = .infinity .positive := by rfl
      show IsAtLeast _ (unpack .binary64 (pack .binary64 (.infinity .positive)))
      rw [hpacked]
      trivial
  | finite u n f hn =>
      obtain ⟨rfl, hy⟩ := hy
      have hbits : m.log2 + n.log2 ≤ (m * n).log2 := log2_add_log2_le (by omega) (by omega)
      have hexp : totalExponent m e + l - 1 ≤ totalExponent (m * n) (e + f) := by
        have hy : l ≤ (n.log2 : Int) + 1 + f := hy
        show (m.log2 : Int) + 1 + e + l - 1 ≤ ((m * n).log2 : Int) + 1 + (e + f)
        omega
      obtain ⟨p, g, hp, hround, hfull, hle⟩ :=
        round_isAtLeast .positive .exact (by omega) (Int.le_trans hk hexp)
      have hmul : mul .binary64 (.finite .positive m e hm) (.finite .positive n f hn)
          = .finite .positive p g hp := hround
      rw [hmul]
      refine isAtLeast_pack hp hfull ?_ (Int.le_trans hexp hle)
      have hg : totalExponent p g = (p.log2 : Int) + 1 + g := rfl
      omega

theorem neg_isBelow {x : UnpackedFloat} (h : IsBelow k .positive x) :
    IsBelow k .negative x.neg := by
  cases x with
  | infinity t => exact h.elim
  | notANumber => exact h.elim
  | zero t => trivial
  | finite t m e hm =>
      obtain ⟨rfl, hexp⟩ := h
      exact ⟨rfl, hexp⟩

/-- Shifting bits in leaves the leading one at its place. -/
theorem totalExponent_decreaseExponent (hm : 0 < m) (e t : Int) :
    totalExponent (decreaseExponent m e t).1 (decreaseExponent m e t).2 = totalExponent m e := by
  show ((m <<< (e - t).toNat).log2 : Int) + 1 + (e - (e - t).toNat) = (m.log2 : Int) + 1 + e
  rw [log2_shiftLeft hm]
  omega

theorem decreaseExponent_of_le {t : Int} (h : t ≤ e) :
    decreaseExponent m e t = (m <<< (e - t).toNat, t) := by
  have ht : e - ((e - t).toNat : Int) = t := by omega
  rw [decreaseExponent, ht]

/-- The same for rounding a number that may have too few bits. -/
theorem round_isBelow_of_exact (hm : 0 < m) (hk : 0 ≤ k) (h : totalExponent m e ≤ k) :
    IsBelow (k + 1) s (round .binary64 s m e) := by
  have hsame := totalExponent_decreaseExponent hm e
    (Format.binary64.targetExponent (totalExponent m e))
  exact round_isBelow hk (Int.le_trans (Int.le_of_eq hsame) h)

theorem shiftLeft_pos (hm : 0 < m) (n : Nat) : 0 < m <<< n := by
  rw [Nat.shiftLeft_eq]
  exact Nat.mul_pos hm (Nat.two_pow_pos n)

/-- Numbers of different signs are subtracted by adding what they are without the signs. -/
theorem sub_opposite {n : Nat} {f : Int} (hm : 0 < m) (hn : 0 < n) :
    sub .binary64 (.finite .positive m e hm) (.finite .negative n f hn)
      = round .binary64 .positive (m <<< (e - min e f).toNat + n <<< (f - min e f).toNat)
        (min e f) := by
  have hpos := shiftLeft_pos hm (e - min e f).toNat
  simp only [sub, decreaseExponent_of_le (show min e f ≤ e by omega),
    decreaseExponent_of_le (show min e f ≤ f by omega), Sign.apply]
  generalize m <<< (e - min e f).toNat = m' at hpos ⊢
  generalize n <<< (f - min e f).toNat = n'
  have hgt : compare ((m' : Int) - -(n' : Int)) 0 = .gt := Int.compare_eq_gt.2 (by omega)
  have hsum : ((m' : Int) - -(n' : Int)).toNat = m' + n' := by omega
  simp only [UnpackedFloat.normalize, hgt, hsum]

/-- A number less one of the other sign has the sum of their sizes. -/
theorem sub_isBelow {x y : UnpackedFloat} (hx : IsBelow k .positive x)
    (hy : IsBelow k .negative y) (hk : 0 ≤ k) :
    IsBelow (k + 1 + 1) .positive (sub .binary64 x y) := by
  cases x with
  | infinity t => exact hx.elim
  | notANumber => exact hx.elim
  | zero t =>
      cases y with
      | infinity u => exact hy.elim
      | notANumber => exact hy.elim
      | zero u => cases t <;> cases u <;> trivial
      | finite u n f hn =>
          obtain ⟨rfl, hy⟩ := hy
          exact ⟨rfl, by omega⟩
  | finite t m e hm =>
      cases y with
      | infinity u => exact hy.elim
      | notANumber => exact hy.elim
      | zero u => exact hx.mono (by omega)
      | finite u n f hn =>
          obtain ⟨rfl, hx⟩ := hx
          obtain ⟨rfl, hy⟩ := hy
          have hx : (m.log2 : Int) + 1 + e ≤ k := hx
          have hy : (n.log2 : Int) + 1 + f ≤ k := hy
          rw [sub_opposite]
          have hlog : ((m <<< (e - min e f).toNat + n <<< (f - min e f).toNat).log2 : Int)
              ≤ k - 1 - min e f + 1 := by
            have hle := log2_add_le (n := (k - 1 - min e f).toNat)
              (a := m <<< (e - min e f).toNat) (b := n <<< (f - min e f).toNat)
              (by rw [log2_shiftLeft hm]; omega) (by rw [log2_shiftLeft hn]; omega)
            omega
          have hpos := shiftLeft_pos hm (e - min e f).toNat
          refine round_isBelow_of_exact (Nat.add_pos_left hpos _) (by omega) ?_
          show ((m <<< (e - min e f).toNat + n <<< (f - min e f).toNat).log2 : Int) + 1 + min e f
            ≤ k + 1
          omega

theorem le_of_isBelow {x y : UnpackedFloat} (hx : IsBelow k .negative x)
    (hy : IsBelow l .positive y) : x.le y = true := by
  cases x with
  | infinity t => exact hx.elim
  | notANumber => exact hx.elim
  | zero t =>
      cases y with
      | infinity u => exact hy.elim
      | notANumber => exact hy.elim
      | zero u => rfl
      | finite u n f hn =>
          obtain ⟨rfl, -⟩ := hy
          rfl
  | finite t m e hm =>
      obtain ⟨rfl, -⟩ := hx
      cases y with
      | infinity u => exact hy.elim
      | notANumber => exact hy.elim
      | zero u => rfl
      | finite u n f hn =>
          obtain ⟨rfl, -⟩ := hy
          rfl

end Populace.Magnitude
