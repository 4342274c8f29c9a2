import Populace.Proofs.Floats.Rounding

/-!
# Where doubles stand

Doubles that are numbers stand in a row (`extent`): the finite ones where the rational numbers
are that they stand for, with the infinities around them. Comparing two of them, exponents
first and then bits, tells which one comes first (`le_iff_extent`). Packing a number leaves it
at its place, unless it is too large for the format and becomes infinity (`clip`), so that the
order is kept (`pack_le_pack`).
-/

namespace Populace.Rounding

open Float.Model (Format UnpackedFloat totalExponent)
open Float.Model.UnpackedFloat
open Populace.Magnitude

/-! ## Comparing -/

/-- Where a double stands among all that are numbers. -/
def extent : UnpackedFloat → WithBot (WithTop ℚ)
  | .infinity .positive => ⊤
  | .infinity .negative => ⊥
  | x => ((value x : ℚ) : WithTop ℚ)

/-- Numbers are compared by their exponents first, and then by their bits. -/
theorem mul_zpow_lt {m n : ℕ} {e f : ℤ} (hm : m < 2 ^ 53) (he : -1074 ≤ e)
    (hn : 2 ^ 52 ≤ n ∨ f = -1074) (h : e < f) : (m : ℚ) * 2 ^ e < n * 2 ^ f := by
  have hn : 2 ^ 52 ≤ n := hn.resolve_right (by omega)
  have hm' : (m : ℚ) < 2 * n := by exact_mod_cast (by omega : m < 2 * n)
  have hstep : (2 : ℚ) ^ e * 2 ≤ 2 ^ f := by
    rw [← zpow_add_one₀ two_ne_zero]
    exact zpow_le_zpow_right₀ one_le_two (by omega)
  calc (m : ℚ) * 2 ^ e < 2 * n * 2 ^ e := mul_lt_mul_of_pos_right hm' (two_zpow_pos e)
    _ = n * (2 ^ e * 2) := by ring
    _ ≤ n * 2 ^ f := mul_le_mul_of_nonneg_left hstep (Nat.cast_nonneg n)

theorem compare_sizes {m n : ℕ} {e f : ℤ} (hm : m < 2 ^ 53) (he : -1074 ≤ e)
    (hm' : 2 ^ 52 ≤ m ∨ e = -1074) (hn : n < 2 ^ 53) (hf : -1074 ≤ f)
    (hn' : 2 ^ 52 ≤ n ∨ f = -1074) :
    (compare e f).then (compare m n) = cmp ((m : ℚ) * 2 ^ e) (n * 2 ^ f) := by
  rcases lt_trichotomy e f with hlt | rfl | hgt
  · rw [Int.compare_eq_lt.2 hlt, (cmp_eq_lt_iff _ _).2 (mul_zpow_lt hm he hn' hlt)]
    rfl
  · rw [Int.compare_eq_eq.2 rfl, cmp_mul_pos_right (two_zpow_pos e)]
    show compare m n = cmp (m : ℚ) n
    rcases lt_trichotomy m n with hlt | rfl | hgt
    · rw [Nat.compare_eq_lt.2 hlt, (cmp_eq_lt_iff _ _).2 (by exact_mod_cast hlt)]
    · rw [Nat.compare_eq_eq.2 rfl, cmp_self_eq_eq]
    · rw [Nat.compare_eq_gt.2 hgt, (cmp_eq_gt_iff _ _).2 (by exact_mod_cast hgt)]
  · rw [Int.compare_eq_gt.2 hgt, (cmp_eq_gt_iff _ _).2 (mul_zpow_lt hn hf hm' hgt)]
    rfl

theorem value_positive {m : ℕ} {e : ℤ} (hm : 0 < m) :
    value (.finite .positive m e hm) = m * 2 ^ e := rfl

theorem value_negative {m : ℕ} {e : ℤ} (hm : 0 < m) :
    value (.finite .negative m e hm) = -(m * 2 ^ e) := by
  show ((-(m : ℤ) : ℤ) : ℚ) * 2 ^ e = -(m * 2 ^ e)
  rw [Int.cast_neg, Int.cast_natCast, neg_mul]

theorem mul_zpow_pos {m : ℕ} {e : ℤ} (hm : 0 < m) : (0 : ℚ) < m * 2 ^ e :=
  mul_pos (Nat.cast_pos.2 hm) (two_zpow_pos e)

variable {x y z : UnpackedFloat}

theorem compare_numbers (hx : IsNumber x) (hy : IsNumber y) :
    x.compare y = some (cmp (value x) (value y)) := by
  cases hx with
  | zero s =>
      have hzero : value (.zero s) = 0 := rfl
      cases hy with
      | zero t => rw [hzero, show value (.zero t) = 0 from rfl, cmp_self_eq_eq]; rfl
      | @finite t n f hn _ _ _ =>
          have hpos := mul_zpow_pos (e := f) hn
          cases t with
          | positive => rw [hzero, value_positive, (cmp_eq_lt_iff _ _).2 hpos]; rfl
          | negative => rw [hzero, value_negative, (cmp_eq_gt_iff _ _).2 (neg_neg_of_pos hpos)]; rfl
  | @finite s m e hm bits least full =>
      have hpos := mul_zpow_pos (e := e) hm
      cases hy with
      | zero t =>
          have hzero : value (.zero t) = 0 := rfl
          cases s with
          | positive => rw [hzero, value_positive, (cmp_eq_gt_iff _ _).2 hpos]; rfl
          | negative => rw [hzero, value_negative, (cmp_eq_lt_iff _ _).2 (neg_neg_of_pos hpos)]; rfl
      | @finite t n f hn bits' least' full' =>
          have hpos' := mul_zpow_pos (e := f) hn
          have hsizes := compare_sizes bits least full bits' least' full'
          cases s <;> cases t
          · show some ((compare e f).then (compare m n)).swap = _
            rw [hsizes, value_negative, value_negative, cmp_swap]
            exact congrArg some (StrictAnti.cmp_map_eq (fun _ _ => neg_lt_neg) _ _).symm
          · rw [value_negative, value_positive, (cmp_eq_lt_iff _ _).2 (by linarith)]; rfl
          · rw [value_negative, value_positive, (cmp_eq_gt_iff _ _).2 (by linarith)]; rfl
          · exact congrArg some hsizes

/-- Numbers with the same value are the same one, but for the sign of zero. -/
theorem eq_or_zero (hx : IsNumber x) (hy : IsNumber y) (h : value x = value y) :
    x = y ∨ value x = 0 := by
  have hcompare := compare_numbers hx hy
  rw [h, cmp_self_eq_eq] at hcompare
  cases hx with
  | zero s => exact .inr rfl
  | @finite s m e hm _ _ _ =>
      cases hy with
      | zero t => exact .inr h
      | @finite t n f hn _ _ _ =>
          have hsame : (compare e f).then (compare m n) = .eq → s = t →
              (UnpackedFloat.finite s m e hm) = .finite t n f hn := by
            intro hthen hsign
            obtain ⟨he, hm⟩ := Ordering.then_eq_eq.1 hthen
            obtain rfl := Int.compare_eq_eq.1 he
            obtain rfl := Nat.compare_eq_eq.1 hm
            rw [hsign]
          cases s <;> cases t
          · refine .inl (hsame ?_ rfl)
            have hswap : ((compare e f).then (compare m n)).swap = .eq := Option.some.inj hcompare
            exact Ordering.swap_eq_eq.1 hswap
          · cases hcompare
          · cases hcompare
          · exact .inl (hsame (Option.some.inj hcompare) rfl)

/-- A number, or one of the infinities. -/
inductive IsOrdered : UnpackedFloat → Prop
  | infinity (s : Sign) : IsOrdered (.infinity s)
  | number {r : UnpackedFloat} (h : IsNumber r) : IsOrdered r

theorem extent_of_isNumber (hx : IsNumber x) : extent x = ((value x : ℚ) : WithTop ℚ) := by
  cases hx <;> rfl

theorem bot_lt_extent (hx : IsNumber x) : ⊥ < extent x := by
  rw [extent_of_isNumber hx]
  exact WithBot.bot_lt_coe _

theorem extent_lt_top (hx : IsNumber x) : extent x < ⊤ := by
  rw [extent_of_isNumber hx]
  exact WithBot.coe_lt_coe.2 (WithTop.coe_lt_top _)

theorem cmp_extent (hx : IsNumber x) (hy : IsNumber y) :
    cmp (extent x) (extent y) = cmp (value x) (value y) := by
  have hmono : StrictMono fun q : ℚ => ((q : WithTop ℚ) : WithBot (WithTop ℚ)) :=
    WithBot.coe_strictMono.comp WithTop.coe_strictMono
  rw [extent_of_isNumber hx, extent_of_isNumber hy]
  exact hmono.cmp_map_eq _ _

theorem compare_infinity_left (hy : IsNumber y) (s : Sign) :
    UnpackedFloat.compare (.infinity s) y = some (cmp (extent (.infinity s)) (extent y)) := by
  cases s with
  | positive =>
      have hgt : cmp (extent (.infinity .positive)) (extent y) = .gt :=
        (cmp_eq_gt_iff _ _).2 (extent_lt_top hy)
      rw [hgt]
      cases hy <;> rfl
  | negative =>
      have hlt : cmp (extent (.infinity .negative)) (extent y) = .lt :=
        (cmp_eq_lt_iff _ _).2 (bot_lt_extent hy)
      rw [hlt]
      cases hy <;> rfl

theorem compare_infinity_right (hx : IsNumber x) (t : Sign) :
    x.compare (.infinity t) = some (cmp (extent x) (extent (.infinity t))) := by
  cases t with
  | positive =>
      have hlt : cmp (extent x) (extent (.infinity .positive)) = .lt :=
        (cmp_eq_lt_iff _ _).2 (extent_lt_top hx)
      rw [hlt]
      cases hx <;> rfl
  | negative =>
      have hgt : cmp (extent x) (extent (.infinity .negative)) = .gt :=
        (cmp_eq_gt_iff _ _).2 (bot_lt_extent hx)
      rw [hgt]
      cases hx <;> rfl

theorem compare_eq (hx : IsOrdered x) (hy : IsOrdered y) :
    x.compare y = some (cmp (extent x) (extent y)) := by
  cases hx with
  | infinity s =>
      cases hy with
      | infinity t =>
          cases s <;> cases t
          · exact congrArg some (cmp_self_eq_eq _).symm
          · exact congrArg some ((cmp_eq_lt_iff _ _).2 bot_lt_top).symm
          · exact congrArg some ((cmp_eq_gt_iff _ _).2 bot_lt_top).symm
          · exact congrArg some (cmp_self_eq_eq _).symm
      | number hy => exact compare_infinity_left hy s
  | number hx =>
      cases hy with
      | infinity t => exact compare_infinity_right hx t
      | number hy => rw [compare_numbers hx hy, cmp_extent hx hy]

theorem le_iff_extent (hx : IsOrdered x) (hy : IsOrdered y) :
    x.le y = true ↔ extent x ≤ extent y := by
  rw [UnpackedFloat.le, compare_eq hx hy]
  show (cmp (extent x) (extent y)).isLE = true ↔ _
  rw [Ordering.isLE_iff_ne_gt, cmp_eq_gt_iff, not_lt]

theorem lt_iff_extent (hx : IsOrdered x) (hy : IsOrdered y) :
    x.lt y = true ↔ extent x < extent y := by
  rw [UnpackedFloat.lt, compare_eq hx hy, beq_iff_eq, Option.some_inj, cmp_eq_lt_iff]

/-! ## Packing -/

/-- Numbers of this size are too large for the format. -/
def limit : ℚ := 2 ^ (1024 : ℤ)

theorem limit_pos : 0 < limit := two_zpow_pos 1024

/-- A number as it is packed. -/
def clip (v : ℚ) : WithBot (WithTop ℚ) :=
  if limit ≤ v then ⊤ else if v ≤ -limit then ⊥ else ((v : ℚ) : WithTop ℚ)

theorem clip_mono {v w : ℚ} (h : v ≤ w) : clip v ≤ clip w := by
  rw [clip, clip]
  by_cases hw : limit ≤ w
  · rw [if_pos hw]
    exact le_top
  · rw [if_neg hw, if_neg (show ¬ limit ≤ v by linarith)]
    by_cases hv : v ≤ -limit
    · rw [if_pos hv]
      exact bot_le
    · rw [if_neg hv, if_neg (show ¬ w ≤ -limit by linarith)]
      exact WithBot.coe_le_coe.2 (WithTop.coe_le_coe.2 h)

theorem clip_of_fits {v : ℚ} (h : |v| < limit) : clip v = ((v : ℚ) : WithTop ℚ) := by
  obtain ⟨hlow, hhigh⟩ := abs_lt.1 h
  rw [clip, if_neg (not_le.2 hhigh), if_neg (not_le.2 hlow)]

theorem abs_value_lt_limit (s : Sign) {m : ℕ} {e : ℤ} (hm : 0 < m) (hbits : m < 2 ^ 53)
    (hleast : -1074 ≤ e) (he : e ≤ 971) : |value (.finite s m e hm)| < limit := by
  rw [abs_value]
  have hbound := mul_zpow_lt (n := 2 ^ 52) (f := 972) hbits hleast (.inl le_rfl) (by omega)
  rwa [Nat.cast_pow, Nat.cast_ofNat, ← zpow_natCast, ← zpow_add₀ two_ne_zero] at hbound

theorem limit_le_abs_value (s : Sign) {m : ℕ} {e : ℤ} (hm : 0 < m)
    (hfull : 2 ^ 52 ≤ m ∨ e = -1074) (he : 971 < e) : limit ≤ |value (.finite s m e hm)| := by
  have hm' : ((2 ^ 52 : ℕ) : ℚ) ≤ m := by exact_mod_cast hfull.resolve_right (by omega)
  have hlimit : limit = (2 ^ 52 : ℕ) * 2 ^ (972 : ℤ) := by
    rw [Nat.cast_pow, Nat.cast_ofNat, ← zpow_natCast, ← zpow_add₀ two_ne_zero]
    rfl
  rw [abs_value, hlimit]
  exact mul_le_mul hm' (zpow_le_zpow_right₀ one_le_two (by omega)) (two_zpow_pos _).le
    (Nat.cast_nonneg m)

/-- Packing a number keeps it, or makes it infinity. -/
theorem extent_pack (hx : IsNumber x) :
    IsOrdered (unpack .binary64 (pack .binary64 x))
      ∧ extent (unpack .binary64 (pack .binary64 x)) = clip (value x) := by
  cases hx with
  | zero s =>
      have hsame : unpack .binary64 (pack .binary64 (.zero s)) = .zero s := by cases s <;> rfl
      rw [hsame, clip_of_fits (by rw [show value (.zero s) = 0 from rfl, abs_zero]; exact limit_pos)]
      exact ⟨.number (.zero s), rfl⟩
  | @finite s m e hm bits least full =>
      by_cases he : e ≤ 971
      · rw [unpack_pack_of_fits bits least full he,
          clip_of_fits (abs_value_lt_limit s hm bits least he)]
        exact ⟨.number (.finite bits least full), rfl⟩
      · have hlarge := limit_le_abs_value s hm full (not_le.1 he)
        have hpos := mul_zpow_pos (e := e) hm
        rw [unpack_pack_of_large (not_le.1 he), clip]
        refine ⟨.infinity s, ?_⟩
        rw [abs_value] at hlarge
        cases s with
        | positive =>
            rw [value_positive, if_pos hlarge]
            rfl
        | negative =>
            have hlimit := limit_pos
            rw [value_negative, if_neg (by linarith), if_pos (by linarith)]
            rfl

theorem pack_le_pack (hx : IsNumber x) (hy : IsNumber y) (h : value x ≤ value y) :
    (unpack .binary64 (pack .binary64 x)).le (unpack .binary64 (pack .binary64 y)) = true := by
  obtain ⟨hordered, hextent⟩ := extent_pack hx
  obtain ⟨hordered', hextent'⟩ := extent_pack hy
  rw [le_iff_extent hordered hordered', hextent, hextent']
  exact clip_mono h

end Populace.Rounding
