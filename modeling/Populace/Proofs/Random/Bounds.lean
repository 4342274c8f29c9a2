import Populace.Random.Uniform

/-!
# The bounds of what is drawn

A word times the range has a high half below the range, so a number drawn is below it
however many words are thrown away, and whatever the generator's state.
-/

namespace Populace.Random

theorem high_half_lt {bits range word : Nat} (hrange : 0 < range) (hword : word < Nat.pow 2 bits) :
    word * range / Nat.pow 2 bits < range := by
  refine Nat.div_lt_of_lt_mul ?_
  exact Nat.mul_lt_mul_of_pos_right hword hrange

theorem accepted_lt {bits range word n : Nat} (hrange : 0 < range) (hword : word < Nat.pow 2 bits)
    (h : accepted? bits range word = some n) : n < range := by
  rw [accepted?] at h
  split at h
  · cases h
    exact high_half_lt hrange hword
  · cases h

namespace Draw

/-- Two draws in a row, when the first one is known. -/
theorem bind_of_eq {α β : Type} {x : Draw α} {f : α → Draw β} {a : α} {g k : Xorshift}
    (h : x g = (a, k)) : (x >>= f) g = f a k := by
  simp only [bind, StateT.bind, h]

/-- A word that is not accepted is thrown away. -/
theorem belowWithin_succ (bits range : Nat) (draw : Draw Nat) (rounds : Nat) (g : Xorshift) :
    belowWithin bits range draw (rounds + 1) g = match accepted? bits range (draw g).1 with
      | some n => (n, (draw g).2)
      | none => belowWithin bits range draw rounds (draw g).2 := by
  obtain ⟨word, k, hdraw⟩ : ∃ word k, draw g = (word, k) := ⟨_, _, rfl⟩
  simp only [belowWithin, bind, StateT.bind, hdraw]
  cases accepted? bits range word <;> rfl

theorem belowWithin_lt {bits range : Nat} (draw : Draw Nat) (hrange : 0 < range)
    (hdraw : ∀ g, (draw g).1 < Nat.pow 2 bits) (rounds : Nat) (g : Xorshift) :
    (belowWithin bits range draw rounds g).1 < range := by
  induction rounds generalizing g with
  | zero =>
      -- when all rounds are used up any word will do
      exact high_half_lt hrange (hdraw g)
  | succ rounds ih =>
      rw [belowWithin_succ]
      cases h : accepted? bits range (draw g).1 with
      | none => exact ih _
      | some n => exact accepted_lt hrange (hdraw g) h

/-- A number drawn from an interval lies in it. -/
theorem between_mem {low high : Int} (h : low ≤ high) (g : Xorshift) :
    low ≤ (between low high g).1 ∧ (between low high g).1 ≤ high := by
  have hrange : 0 < (high - low + 1).toNat := by omega
  have hlt := belowWithin_lt (UInt64.toNat <$> longWord) hrange
    (fun g => (longWord g).1.toNat_lt) stateCount g
  have hbetween : (between low high g).1 = low
      + ((belowWithin 64 (high - low + 1).toNat (UInt64.toNat <$> longWord) stateCount g).1 : Nat) :=
    rfl
  rw [hbetween]
  omega

/-- The index that is drawn is one of a list of that size. -/
theorem index_lt {size : Nat} (h : 0 < size) (g : Xorshift) : (index size g).1 < size := by
  rw [index]
  split
  · exact belowWithin_lt _ h (fun g => (word g).1.toNat_lt) stateCount g
  · exact belowWithin_lt _ h (fun g => (longWord g).1.toNat_lt) stateCount g

end Draw

end Populace.Random
