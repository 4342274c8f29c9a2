import Populace.Proofs.Floats.Ordering

/-!
# Float arithmetic keeps the order

Sums and products of doubles are rounded, but they keep the order: a larger summand never
makes a sum smaller (`sum_le_sum_left`), nor does a larger factor a product if the other one
is not negative (`product_le_product`). All this holds for any finite doubles, whatever is lost
in rounding and even where the result is infinite.
-/

namespace Populace.Rounding

open Float.Model (Format UnpackedFloat totalExponent)
open Float.Model.UnpackedFloat
open Populace.Magnitude

/-! ## Finite doubles -/

section Unpacked

variable {a s x y : UnpackedFloat}

/-- Strictly growing operations still grow when their results are rounded. -/
theorem value_mono_of_nearest {op : UnpackedFloat → UnpackedFloat} {f : ℚ → ℚ}
    (hmono : StrictMono f) (hop : ∀ x, IsNumber x → Nearest (f (value x)) (op x))
    (hzero : ∃ z, IsNumber z ∧ f 0 = value z) (hx : IsNumber x) (hy : IsNumber y)
    (h : value x ≤ value y) : value (op x) ≤ value (op y) := by
  rcases h.lt_or_eq with hlt | heq
  · exact (hop x hx).mono (hop y hy) (hmono hlt)
  · rcases eq_or_zero hx hy heq with rfl | hnone
    · exact le_rfl
    · -- zeros of either sign give the same
      obtain ⟨z, hz, hfz⟩ := hzero
      have hnear := hop x hx
      have hnear' := hop y hy
      rw [← heq, hnone, hfz] at hnear'
      rw [hnone, hfz] at hnear
      rw [hnear.eq hz, hnear'.eq hz]

theorem value_add_mono (ha : IsNumber a) (hx : IsNumber x) (hy : IsNumber y)
    (h : value x ≤ value y) : value (add .binary64 a x) ≤ value (add .binary64 a y) :=
  value_mono_of_nearest (fun _ _ hlt => add_lt_add_right hlt (value a))
    (fun _ hz => nearest_add ha hz) ⟨a, ha, add_zero _⟩ hx hy h

theorem value_add_mono_first (ha : IsNumber a) (hx : IsNumber x) (hy : IsNumber y)
    (h : value x ≤ value y) : value (add .binary64 x a) ≤ value (add .binary64 y a) :=
  value_mono_of_nearest (fun _ _ hlt => add_lt_add_left hlt (value a))
    (fun _ hz => nearest_add hz ha) ⟨a, ha, zero_add _⟩ hx hy h

theorem value_mul_mono (hs : IsNumber s) (hpos : 0 ≤ value s) (hx : IsNumber x) (hy : IsNumber y)
    (h : value x ≤ value y) : value (mul .binary64 x s) ≤ value (mul .binary64 y s) := by
  have hzero : IsNumber (.zero .positive) := .zero .positive
  rcases hpos.lt_or_eq with hlt | hnone
  · exact value_mono_of_nearest (fun _ _ hless => mul_lt_mul_of_pos_right hless hlt)
      (fun _ hz => nearest_mul hz hs) ⟨.zero .positive, hzero, zero_mul _⟩ hx hy h
  · have hnear := nearest_mul hx hs
    have hnear' := nearest_mul hy hs
    rw [← hnone, mul_zero] at hnear hnear'
    exact ((hnear.eq (y := .zero .positive) hzero).trans
      (hnear'.eq (y := .zero .positive) hzero).symm).le

theorem sign_mul_comm (s t : Sign) : s * t = t * s := by
  cases s <;> cases t <;> rfl

theorem mul_comm_unpacked (x y : UnpackedFloat) : mul .binary64 x y = mul .binary64 y x := by
  cases x <;> cases y <;>
    first
    | rfl
    | simp only [mul, sign_mul_comm, Nat.mul_comm, Int.add_comm]

theorem apply_neg (s : Sign) (n : ℤ) : (-s).apply n = -s.apply n := by
  cases s with
  | positive => rfl
  | negative => exact (neg_neg n).symm

/-- To subtract is to add the number with the other sign. -/
theorem sub_eq_add_unpacked (x y : UnpackedFloat) :
    sub .binary64 x y = add .binary64 x y.neg := by
  cases x <;> cases y <;>
    first
    | rfl
    | simp only [sub, add, neg, apply_neg, sub_eq_add_neg]

end Unpacked

section Floats

variable {a s x y z : Float}

theorem le_iff : x ≤ y ↔ x.toModel.unpack.le y.toModel.unpack = true :=
  decide_eq_true_iff

theorem lt_iff : x < y ↔ x.toModel.unpack.lt y.toModel.unpack = true :=
  decide_eq_true_iff

theorem isNumber_of_isFinite (hx : x.isFinite = true) : IsNumber x.toModel.unpack := by
  have hfinite : x.toModel.unpack.isFinite = true := hx
  cases hunpack : x.toModel.unpack with
  | infinity s => rw [hunpack] at hfinite; cases hfinite
  | notANumber => rw [hunpack] at hfinite; cases hfinite
  | zero s => exact .zero s
  | finite s m e hm =>
      obtain ⟨hbits, -, hleast, hfull⟩ := unpack_bounds hunpack
      exact .finite hbits hleast hfull

theorem isOrdered_of_isNaN (hx : x.isNaN = false) : IsOrdered x.toModel.unpack := by
  have hnan : x.toModel.unpack.isNaN = false := hx
  cases hunpack : x.toModel.unpack with
  | infinity s => exact .infinity s
  | notANumber => rw [hunpack] at hnan; cases hnan
  | zero s => exact .number (.zero s)
  | finite s m e hm =>
      obtain ⟨hbits, -, hleast, hfull⟩ := unpack_bounds hunpack
      exact .number (.finite hbits hleast hfull)

theorem isNaN_of_isOrdered (hx : IsOrdered x.toModel.unpack) : x.isNaN = false := by
  show x.toModel.unpack.isNaN = false
  generalize x.toModel.unpack = u at hx
  cases hx with
  | infinity s => rfl
  | number h => cases h <;> rfl

theorem isNaN_of_isFinite (hx : x.isFinite = true) : x.isNaN = false :=
  isNaN_of_isOrdered (.number (isNumber_of_isFinite hx))

theorem abs_value_lt (hx : x.isFinite = true) : |value x.toModel.unpack| < limit := by
  have hnumber := isNumber_of_isFinite hx
  generalize hunpack : x.toModel.unpack = u at hnumber
  cases hnumber with
  | zero s =>
      rw [show value (.zero s) = 0 from rfl, abs_zero]
      exact limit_pos
  | @finite s m e hm bits least _ =>
      exact abs_value_lt_limit s hm bits least (unpack_bounds hunpack).2.1

theorem extent_eq_clip (hx : x.isFinite = true) :
    extent x.toModel.unpack = clip (value x.toModel.unpack) := by
  rw [extent_of_isNumber (isNumber_of_isFinite hx), clip_of_fits (abs_value_lt hx)]

theorem le_iff_value (hx : x.isFinite = true) (hy : y.isFinite = true) :
    x ≤ y ↔ value x.toModel.unpack ≤ value y.toModel.unpack := by
  rw [le_iff, le_iff_extent (.number (isNumber_of_isFinite hx)) (.number (isNumber_of_isFinite hy)),
    extent_of_isNumber (isNumber_of_isFinite hx), extent_of_isNumber (isNumber_of_isFinite hy),
    WithBot.coe_le_coe, WithTop.coe_le_coe]

/-! ## Order -/

/-- What is compared successfully are numbers, or infinities. -/
theorem isNaN_of_le (h : x ≤ y) : x.isNaN = false ∧ y.isNaN = false := by
  rw [le_iff] at h
  constructor
  · show x.toModel.unpack.isNaN = false
    cases hx : x.toModel.unpack with
    | notANumber => rw [hx] at h; cases h
    | _ => rfl
  · show y.toModel.unpack.isNaN = false
    cases hy : y.toModel.unpack with
    | notANumber =>
        rw [hy] at h
        cases hx : x.toModel.unpack <;> rw [hx] at h <;> cases h
    | _ => rfl

theorem le_of_le_of_le (hxy : x ≤ y) (hyz : y ≤ z) : x ≤ z := by
  have hx := isOrdered_of_isNaN (isNaN_of_le hxy).1
  have hy := isOrdered_of_isNaN (isNaN_of_le hxy).2
  have hz := isOrdered_of_isNaN (isNaN_of_le hyz).2
  rw [le_iff, le_iff_extent hx hy] at hxy
  rw [le_iff, le_iff_extent hy hz] at hyz
  rw [le_iff, le_iff_extent hx hz]
  exact hxy.trans hyz

theorem not_lt_of_le (h : x ≤ y) : ¬ y < x := by
  have hx := isOrdered_of_isNaN (isNaN_of_le h).1
  have hy := isOrdered_of_isNaN (isNaN_of_le h).2
  rw [le_iff, le_iff_extent hx hy] at h
  rwa [lt_iff, lt_iff_extent hy hx, not_lt]

theorem le_of_not_lt (hx : x.isNaN = false) (hy : y.isNaN = false) (h : ¬ y < x) : x ≤ y := by
  have hx := isOrdered_of_isNaN hx
  have hy := isOrdered_of_isNaN hy
  rw [lt_iff, lt_iff_extent hy hx, not_lt] at h
  rwa [le_iff, le_iff_extent hx hy]

/-- What lies between finite doubles is finite. -/
theorem isFinite_of_between (hx : x.isFinite = true) (hz : z.isFinite = true) (hxy : x ≤ y)
    (hyz : y ≤ z) : y.isFinite = true := by
  have hordered := isOrdered_of_isNaN (isNaN_of_le hyz).1
  have hbottom := bot_lt_extent (isNumber_of_isFinite hx)
  have htop := extent_lt_top (isNumber_of_isFinite hz)
  rw [le_iff, le_iff_extent (.number (isNumber_of_isFinite hx)) hordered] at hxy
  rw [le_iff, le_iff_extent hordered (.number (isNumber_of_isFinite hz))] at hyz
  show y.toModel.unpack.isFinite = true
  generalize y.toModel.unpack = u at hordered hxy hyz
  cases hordered with
  | number h => cases h <;> rfl
  | infinity s =>
      cases s with
      | positive => exact absurd (hyz.trans_lt htop) (lt_irrefl _)
      | negative => exact absurd (hbottom.trans_le hxy) (lt_irrefl _)

/-! ## Sums -/

theorem unpack_add (x y : Float) : (x + y).toModel.unpack
    = unpack .binary64 (pack .binary64 (add .binary64 x.toModel.unpack y.toModel.unpack)) := rfl

theorem add_infinity (hx : IsNumber x.toModel.unpack) (s : Sign) :
    add .binary64 (.infinity s) x.toModel.unpack = .infinity s := by
  generalize x.toModel.unpack = u at hx
  cases hx <;> rfl

/-- A sum with a finite double is a number, or it is infinite. -/
theorem isNaN_sum (hx : x.isNaN = false) (ha : a.isFinite = true) : (x + a).isNaN = false := by
  have ha := isNumber_of_isFinite ha
  have hx := isOrdered_of_isNaN hx
  refine isNaN_of_isOrdered ?_
  rw [unpack_add]
  generalize x.toModel.unpack = u at hx
  cases hx with
  | infinity s =>
      rw [add_infinity ha]
      cases s <;> exact .infinity _
  | number hu => exact (extent_pack (nearest_add hu ha).isNumber).1

/-- A summand is not infinite if the sum is not. -/
theorem isFinite_of_sum (hx : 0.0 ≤ x) (ha : a.isFinite = true) (hy : y.isFinite = true)
    (h : x + a ≤ y) : x.isFinite = true := by
  have htop := extent_lt_top (isNumber_of_isFinite hy)
  rw [le_iff] at hx h
  show x.toModel.unpack.isFinite = true
  cases hunpack : x.toModel.unpack with
  | zero s => rfl
  | finite s m e hm => rfl
  | notANumber => rw [hunpack] at hx; cases hx
  | infinity s =>
      cases s with
      | negative => rw [hunpack] at hx; cases hx
      | positive =>
          have hsum : (x + a).toModel.unpack = .infinity .positive := by
            rw [unpack_add, hunpack, add_infinity (isNumber_of_isFinite ha)]
            rfl
          rw [hsum, le_iff_extent (.infinity _) (.number (isNumber_of_isFinite hy))] at h
          exact absurd (h.trans_lt htop) (lt_irrefl _)

/-- A larger summand does not make a sum smaller. -/
theorem sum_le_sum_right (ha : a.isFinite = true) (hx : x.isFinite = true)
    (hy : y.isFinite = true) (h : x ≤ y) : x + a ≤ y + a := by
  have ha := isNumber_of_isFinite ha
  have hvalue := (le_iff_value hx hy).1 h
  have hx := isNumber_of_isFinite hx
  have hy := isNumber_of_isFinite hy
  exact le_iff.2 (pack_le_pack (nearest_add hx ha).isNumber (nearest_add hy ha).isNumber
    (value_add_mono_first ha hx hy hvalue))

/-- The same with the other summand in front, which may be infinite. -/
theorem sum_le_sum_left (ha : a.isNaN = false) (hx : x.isFinite = true)
    (hy : y.isFinite = true) (h : x ≤ y) : a + x ≤ a + y := by
  have hvalue := (le_iff_value hx hy).1 h
  have hx := isNumber_of_isFinite hx
  have hy := isNumber_of_isFinite hy
  have ha := isOrdered_of_isNaN ha
  rw [le_iff, unpack_add, unpack_add]
  generalize a.toModel.unpack = u at ha
  cases ha with
  | infinity s =>
      rw [add_infinity hx, add_infinity hy]
      cases s <;> rfl
  | number ha =>
      exact pack_le_pack (nearest_add ha hx).isNumber (nearest_add ha hy).isNumber
        (value_add_mono ha hx hy hvalue)

/-- What is added to a finite double, if it is not negative, does not make it smaller. -/
theorem le_sum_of_nonneg (hx : x.isFinite = true) (ha : a.isFinite = true) (hpos : 0.0 ≤ x) :
    a ≤ x + a := by
  have hpos : 0 ≤ value x.toModel.unpack := (le_iff_value rfl hx).1 hpos
  have hnear := nearest_add (isNumber_of_isFinite hx) (isNumber_of_isFinite ha)
  have hnumber := isNumber_of_isFinite ha
  have hle := hnear.ge_of_ge hnumber (le_add_of_nonneg_left hpos)
  obtain ⟨hordered, hextent⟩ := extent_pack hnear.isNumber
  rw [le_iff, unpack_add, le_iff_extent (.number hnumber) hordered, hextent, extent_eq_clip ha]
  exact clip_mono hle

/-- Zero is added to no effect. -/
theorem zero_sum_le {t : Sign} (hx : x.toModel.unpack = .zero t) (ha : a.isFinite = true)
    (hy : y.isFinite = true) (h : a ≤ y) : x + a ≤ y := by
  have hvalue := (le_iff_value ha hy).1 h
  have hnumber := isNumber_of_isFinite ha
  have hnear := nearest_add (.zero t) hnumber
  rw [show value (.zero t) = 0 from rfl, zero_add] at hnear
  obtain ⟨hordered, hextent⟩ := extent_pack hnear.isNumber
  rw [le_iff, unpack_add, hx, le_iff_extent hordered (.number (isNumber_of_isFinite hy)), hextent,
    hnear.eq hnumber, extent_eq_clip hy]
  exact clip_mono hvalue

theorem unpack_neg (hx : x.isFinite = true) : (-x).toModel.unpack = x.toModel.unpack.neg := by
  have hnumber := isNumber_of_isFinite hx
  show unpack .binary64 (pack .binary64 x.toModel.unpack.neg) = x.toModel.unpack.neg
  generalize hunpack : x.toModel.unpack = u at hnumber
  cases hnumber with
  | zero s => cases s <;> rfl
  | finite bits least full => exact unpack_pack_of_fits bits least full (unpack_bounds hunpack).2.1

theorem isFinite_neg (hx : x.isFinite = true) : (-x).isFinite = true := by
  have hfinite : x.toModel.unpack.isFinite = true := hx
  show (-x).toModel.unpack.isFinite = true
  rw [unpack_neg hx]
  cases hunpack : x.toModel.unpack <;> rw [hunpack] at hfinite <;> first | rfl | cases hfinite

/-- A difference is the sum with the double of the other sign. -/
theorem difference_eq_sum (hy : y.isFinite = true) (x : Float) : x - y = x + -y := by
  have hunpack : sub .binary64 x.toModel.unpack y.toModel.unpack
      = add .binary64 x.toModel.unpack (-y).toModel.unpack := by
    rw [unpack_neg hy, sub_eq_add_unpacked]
  exact congrArg (fun u => Float.ofModel (Float.Model.pack u)) hunpack

/-! ## Products -/

theorem product_comm (x y : Float) : x * y = y * x :=
  congrArg (fun u => Float.ofModel (Float.Model.pack u))
    (mul_comm_unpacked x.toModel.unpack y.toModel.unpack)

/-- A product of finite doubles is a number, or it is infinite. -/
theorem isNaN_product (hx : x.isFinite = true) (hy : y.isFinite = true) : (x * y).isNaN = false := by
  have hnear := nearest_mul (isNumber_of_isFinite hx) (isNumber_of_isFinite hy)
  exact isNaN_of_isOrdered (extent_pack hnear.isNumber).1

/-- A larger factor does not make a product smaller if the other one is not negative. -/
theorem product_le_product (hs : s.isFinite = true) (hpos : 0.0 ≤ s) (hx : x.isFinite = true)
    (hy : y.isFinite = true) (h : x ≤ y) : x * s ≤ y * s := by
  have hpos := (le_iff_value rfl hs).1 hpos
  have hvalue := (le_iff_value hx hy).1 h
  have hs := isNumber_of_isFinite hs
  have hx := isNumber_of_isFinite hx
  have hy := isNumber_of_isFinite hy
  exact le_iff.2 (pack_le_pack (nearest_mul hx hs).isNumber (nearest_mul hy hs).isNumber
    (value_mul_mono hs hpos hx hy hvalue))

theorem product_nonneg (hx : x.isFinite = true) (hs : s.isFinite = true) (hxpos : 0.0 ≤ x)
    (hpos : 0.0 ≤ s) : 0.0 ≤ x * s := by
  have hxpos : 0 ≤ value x.toModel.unpack := (le_iff_value rfl hx).1 hxpos
  have hpos : 0 ≤ value s.toModel.unpack := (le_iff_value rfl hs).1 hpos
  have hnear := nearest_mul (isNumber_of_isFinite hx) (isNumber_of_isFinite hs)
  have hzero : IsNumber (.zero .positive) := .zero .positive
  have hle := hnear.ge_of_ge hzero (mul_nonneg hxpos hpos)
  exact le_iff.2 (pack_le_pack hzero hnear.isNumber hle)

/-! ## Whole numbers -/

theorem toFloat_le_toFloat {m n : UInt64} (h : m ≤ n) : m.toFloat ≤ n.toFloat := by
  have hm := nearest_ofNat m.toNat
  have hn := nearest_ofNat n.toNat
  refine le_iff.2 (pack_le_pack hm.isNumber hn.isNumber ?_)
  rcases (UInt64.le_iff_toNat_le.1 h).lt_or_eq with hlt | heq
  · exact hm.mono hn (Nat.cast_lt.2 hlt)
  · rw [show (ofUInt64 .binary64 m) = ofNat .binary64 m.toNat from rfl,
      show (ofUInt64 .binary64 n) = ofNat .binary64 n.toNat from rfl, heq]

end Floats

end Populace.Rounding
