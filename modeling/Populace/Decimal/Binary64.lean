/-!
Double-precision numbers as exact values: a finite one is `m * 2 ^ q`, and
`nearest` goes back from any fraction to the double nearest to it, a half going
to the even mantissa.
-/

namespace Populace.Decimal

/-- What a double stands for. A finite one is `mantissa * 2 ^ exponent`, negated
when its sign says so; zero has a sign too. -/
inductive Binary64 where
  | notANumber
  | infinite (negative : Bool)
  | finite (negative : Bool) (mantissa : Nat) (exponent : Int)
  deriving DecidableEq, Repr

/-- The exponent of the smallest doubles. -/
def leastExponent : Int := -1074

/-- The mantissa of a normal double is at least this. -/
def leastNormal : Nat := Nat.pow 2 52

/-- The bits of positive infinity: those of every finite positive double are fewer. -/
def infinityBits : Nat := 0x7FF0000000000000

/-- The sign bit. -/
def signBit : Nat := Nat.pow 2 63

namespace Binary64

/-- The value with these bits. -/
def ofBits (bits : Nat) : Binary64 :=
  let negative := bits.testBit 63
  let field : Nat := bits / Nat.pow 2 52 % 2048
  let fraction : Nat := bits % Nat.pow 2 52
  if field = 2047 then
    if fraction = 0 then .infinite negative else .notANumber
  else if field = 0 then
    .finite negative fraction leastExponent
  else
    .finite negative (fraction + leastNormal) (field + leastExponent - 1)

/-- What `x` stands for. -/
def ofFloat (x : Float) : Binary64 :=
  ofBits x.toBits.toNat

end Binary64

/-- The quotient rounded to the nearest whole number, a half going to the even one. -/
def roundedQuotient (num den : Nat) : Nat :=
  let low := num / den
  let twice := 2 * (num % den)
  if twice < den then low
  else if den < twice then low + 1
  else if low % 2 = 0 then low
  else low + 1

/-- `floor (log2 (num / den))`. -/
def floorLog2 (num den : Nat) : Int :=
  let guess := (num.log2 : Int) - den.log2
  let fits :=
    if 0 ≤ guess then den * Nat.pow 2 guess.toNat ≤ num
    else den ≤ num * Nat.pow 2 (-guess).toNat
  if fits then guess else guess - 1

/-- The bits of the non-negative double nearest to `num / den`. Consecutive doubles
have consecutive bits, so a mantissa rounded up to the next power of two needs no
care. -/
def nearestBits (num den : Nat) : Nat :=
  if num = 0 then 0
  else
    let q := max (floorLog2 num den - 52) leastExponent
    let m :=
      if 0 ≤ q then roundedQuotient num (den * Nat.pow 2 q.toNat)
      else roundedQuotient (num * Nat.pow 2 (-q).toNat) den
    min infinityBits ((q - leastExponent).toNat * leastNormal + m)

/-- The double nearest to `num / den` with the given sign. -/
def nearest (negative : Bool) (num den : Nat) : Float :=
  Float.ofBits (UInt64.ofNat ((if negative then signBit else 0) + nearestBits num den))

end Populace.Decimal
