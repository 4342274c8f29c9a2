import Populace.Random.Xorshift

/-!
Uniform draws: a number below a bound, a number between two bounds, and a float
between two bounds.

A word times the range, cut into a high and a low half, gives the number (the high
half) unless the low half falls behind the last multiple that every number gets its
full share of; then the word is thrown away and another one drawn.
-/

namespace Populace.Random

/-- What one word of `bits` bits says about a number below `range`: the number, or that
another word is needed. The words kept are those whose low half is below the largest
`range * 2 ^ k` that fits. -/
def accepted? (bits range word : Nat) : Option Nat :=
  let product := word * range
  if product % Nat.pow 2 bits < range * Nat.pow 2 (bits - 1 - range.log2) then
    some (product / Nat.pow 2 bits)
  else none

/-- The number of states a generator has. Drawing again more often than that brings
nothing new. -/
def stateCount : Nat := Nat.pow 2 128

namespace Draw

/-- Draws words until one is accepted. -/
def belowWithin (bits range : Nat) (draw : Draw Nat) : Nat → Draw Nat
  | 0 => do return (← draw) * range / Nat.pow 2 bits
  | rounds + 1 => do
    match accepted? bits range (← draw) with
    | some n => return n
    | none => belowWithin bits range draw rounds

/-- A number below `size`, from words of 32 bits as long as the size fits into one. -/
def index (size : Nat) : Draw Nat :=
  if size < Nat.pow 2 32 then
    belowWithin 32 size (UInt32.toNat <$> word) stateCount
  else
    belowWithin 64 size (UInt64.toNat <$> longWord) stateCount

/-- A number from `low` to `high`, both included. -/
def between (low high : Int) : Draw Int := do
  let n ← belowWithin 64 (high - low + 1).toNat (UInt64.toNat <$> longWord) stateCount
  return low + n

end Draw

/-- The largest fraction drawn: one less the distance of two fractions. -/
def largestFraction : Float := 1.0 - 2.220446049250313e-16

/-- The double with these bits, or one of fewer bits if with it the largest fraction
would lead beyond `high`. -/
def fittingScale (low high : Float) : Nat → Float
  | 0 => 0.0
  | bits + 1 =>
    let scale := Float.ofBits (UInt64.ofNat (bits + 1))
    if scale * largestFraction + low > high then fittingScale low high bits else scale

/-- What fractions are multiplied with to spread them from `low` to `high`, unless the
bounds are no interval or it is too wide. -/
def scale? (low high : Float) : Option Float :=
  let scale := (high - low) / largestFraction
  if low ≤ high ∧ scale.isFinite then some (fittingScale low high scale.toBits.toNat)
  else none

namespace Draw

/-- A fraction from zero to `largestFraction`, from the upper 52 bits of a word. -/
def fraction : Draw Float := do
  return ((← longWord) >>> 12).toFloat * 2.220446049250313e-16

/-- A float from `low` to `low` plus the scale times the largest fraction. -/
def scaled (low scale : Float) : Draw Float := do
  return (← fraction) * scale + low

end Draw

end Populace.Random
