import Populace.Decimal.Binary64

/-!
The fewest decimal digits that read back as a given double, and of those the
ones nearest to it.
-/

namespace Populace.Decimal

/-- Which way a value goes that lies exactly between two candidates. -/
inductive Tie where
  | up
  | toEven
  deriving DecidableEq, Repr

/-- A decimal `digits * 10 ^ exponent`. -/
structure Scientific where
  digits : Nat
  exponent : Int
  deriving DecidableEq, Repr

/-- The same decimal without zeros at the end of its digits. -/
def Scientific.trimmed (d : Scientific) : Scientific :=
  if h : d.digits ≠ 0 ∧ d.digits % 10 = 0 then
    Scientific.trimmed ⟨d.digits / 10, d.exponent + 1⟩
  else d
termination_by d.digits
decreasing_by exact Nat.div_lt_self (Nat.pos_of_ne_zero h.1) (by decide)

/-- A positive value and the ends of the interval of reals that round to it, as
fractions over one denominator. The ends belong to it when `closed`. -/
structure Interval where
  low : Nat
  value : Nat
  high : Nat
  denominator : Nat
  closed : Bool

/-- The reals that round to the double `m * 2 ^ q`. Below a power of two the
doubles lie twice as close. -/
def Interval.ofDouble (m : Nat) (q : Int) : Interval :=
  let below := if m = leastNormal ∧ leastExponent < q then 1 else 2
  let scale := Nat.pow 2 (q - 2).toNat
  { low := (4 * m - below) * scale
    value := 4 * m * scale
    high := (4 * m + 2) * scale
    denominator := Nat.pow 2 (2 - q).toNat
    closed := m % 2 = 0 }

/-- The interval with everything multiplied by `10 ^ -k`. -/
def Interval.inUnitsOf (i : Interval) (k : Int) : Interval :=
  let up := Nat.pow 10 (-k).toNat
  { i with
    low := i.low * up
    value := i.value * up
    high := i.high * up
    denominator := i.denominator * Nat.pow 10 k.toNat }

/-- Is the whole number `n` in the interval? -/
def Interval.contains (i : Interval) (n : Nat) : Bool :=
  let x := n * i.denominator
  if i.closed then i.low ≤ x && x ≤ i.high else i.low < x && x < i.high

/-- The whole number in the interval that is nearest to the value, if one of the
value's two neighbours is in the interval at all. -/
def Interval.wholeNumber? (i : Interval) (tie : Tie) : Option Nat :=
  let down := i.value / i.denominator
  match i.contains down, i.contains (down + 1) with
  | false, false => none
  | true, false => some down
  | false, true => some (down + 1)
  | true, true =>
    let twice := 2 * (i.value % i.denominator)
    if twice < i.denominator then some down
    else if i.denominator < twice then some (down + 1)
    else match tie with
      | .up => some (down + 1)
      | .toEven => some (if down % 2 = 0 then down else down + 1)

/-- `floor (log10 (num / den))`, by counting digits. -/
def floorLog10 (num den : Nat) : Int :=
  if den ≤ num then ((Nat.toDigits 10 (num / den)).length : Int) - 1
  else -((Nat.toDigits 10 ((den - 1) / num)).length : Int)

/-- Tries the grids of multiples of `10 ^ k`, `10 ^ (k - 1)`, … until one of them has
a point in the interval; the last grid gives the value rounded down. -/
def firstOnGrid (i : Interval) (tie : Tie) : Nat → Int → Scientific
  | 0, k =>
    let j := i.inUnitsOf k
    ⟨j.value / j.denominator, k⟩
  | grids + 1, k =>
    match (i.inUnitsOf k).wholeNumber? tie with
    | some n => ⟨n, k⟩
    | none => firstOnGrid i tie grids (k - 1)

/-- The fewest digits that read back as the positive double `m * 2 ^ q`. Seventeen are
always enough. -/
def shortest (tie : Tie) (m : Nat) (q : Int) : Scientific :=
  let i := Interval.ofDouble m q
  (firstOnGrid i tie 17 (floorLog10 i.value i.denominator)).trimmed

end Populace.Decimal
