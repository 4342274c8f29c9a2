import Populace.Decimal.Shortest
import Populace.Text.Grouped

/-!
Three ways to write a double: `plain` for messages, `compact` for rows of a
table, `fixed` for a number of decimal places.
-/

namespace Populace.Decimal

open Populace.Text (digits zeros padded)

/-- A sign, if the number has one. -/
def signed (negative : Bool) (text : List Char) : String :=
  String.ofList (if negative then '-' :: text else text)

/-- The digits `ds` with the decimal point behind the first `point` of them (before
them all when `point` is not positive). A whole number ends in `whole`. -/
def positional (ds : List Char) (point : Int) (whole : List Char) : List Char :=
  if (ds.length : Int) ≤ point then ds ++ zeros (point - ds.length).toNat ++ whole
  else if 0 < point then ds.take point.toNat ++ '.' :: ds.drop point.toNat
  else '0' :: '.' :: zeros (-point).toNat ++ ds

/-- Positional at any size, and without a point when the number is whole. -/
def plain (x : Float) : String :=
  match Binary64.ofFloat x with
  | .notANumber => "NaN"
  | .infinite negative => signed negative ['i', 'n', 'f']
  | .finite negative 0 _ => signed negative ['0']
  | .finite negative m q =>
    let d := shortest .up m q
    let ds := digits d.digits
    signed negative (positional ds (ds.length + d.exponent) [])

/-- `d.ddd` times a power of ten, the power without a plus sign. -/
def withExponent (ds : List Char) (power : Int) : List Char :=
  let fraction := if ds.length ≤ 1 then ds else ds.take 1 ++ '.' :: ds.drop 1
  fraction ++ 'e' :: (if power < 0 then ['-'] else []) ++ digits power.natAbs

/-- Positional from `1e-5` up to `1e16`, where a whole number ends in `.0`, and with an
exponent outside. -/
def compact (x : Float) : String :=
  match Binary64.ofFloat x with
  | .notANumber => "NaN"
  | .infinite negative => signed negative ['i', 'n', 'f']
  | .finite negative 0 _ => signed negative ['0', '.', '0']
  | .finite negative m q =>
    let d := shortest .toEven m q
    let ds := digits d.digits
    let point := ds.length + d.exponent
    signed negative
      (if -5 < point ∧ point ≤ 16 then positional ds point ['.', '0']
       else withExponent ds (point - 1))

/-- The exact value rounded to `places` decimal places, a half going to the even digit. -/
def fixed (places : Nat) (x : Float) : String :=
  match Binary64.ofFloat x with
  | .notANumber => "NaN"
  | .infinite negative => signed negative ['i', 'n', 'f']
  | .finite negative m q =>
    let units := roundedQuotient (m * Nat.pow 2 q.toNat * Nat.pow 10 places) (Nat.pow 2 (-q).toNat)
    let ds := padded (places + 1) units
    signed negative (positional ds (ds.length - places) [])

end Populace.Decimal
