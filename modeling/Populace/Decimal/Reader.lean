import Populace.Decimal.Binary64

/-!
Reading numbers: whole ones below `2 ^ 64`, and decimals as the double nearest to
them.
-/

namespace Populace.Decimal

/-- Why a text is no whole number below `2 ^ 64`. -/
inductive WholeFault where
  | empty
  | invalidDigit
  | tooLarge
  deriving DecidableEq, Repr

/-- What is said about it. -/
def WholeFault.message : WholeFault → String
  | .empty => "cannot parse integer from empty string"
  | .invalidDigit => "invalid digit found in string"
  | .tooLarge => "number too large to fit in target type"

/-- The value of a digit. -/
def digit? (c : Char) : Option Nat :=
  if '0' ≤ c ∧ c ≤ '9' then some (c.toNat - '0'.toNat) else none

/-- Reads digits from the left behind a number `acc`; the first that is wrong, or that
makes the number too large, decides. -/
def wholeFrom (acc : Nat) : List Char → Except WholeFault Nat
  | [] => .ok acc
  | c :: cs =>
    match digit? c with
    | none => .error .invalidDigit
    | some d =>
      if acc * 10 + d < Nat.pow 2 64 then wholeFrom (acc * 10 + d) cs else .error .tooLarge

/-- A whole number below `2 ^ 64`: a plus sign if one likes, then one or more digits. -/
def readWhole (text : String) : Except WholeFault UInt64 :=
  match text.toList with
  | [] => .error .empty
  | ['+'] => .error .invalidDigit
  | '+' :: cs => (wholeFrom 0 cs).map UInt64.ofNat
  | cs => (wholeFrom 0 cs).map UInt64.ofNat

/-- Why a text is no decimal number. -/
inductive DecimalFault where
  | empty
  | invalid
  deriving DecidableEq, Repr

/-- What is said about it. -/
def DecimalFault.message : DecimalFault → String
  | .empty => "cannot parse float from empty string"
  | .invalid => "invalid float literal"

/-- The number written by digits alone. -/
def digitsValue (cs : List Char) : Nat :=
  cs.foldl (fun acc c => acc * 10 + (digit? c).getD 0) 0

/-- The longest run of digits in front, and what follows it. -/
def spanDigits (cs : List Char) : List Char × List Char :=
  cs.span fun c => (digit? c).isSome

/-- A sign in front, if there is one, and what follows it. -/
def splitSign : List Char → Bool × List Char
  | '-' :: cs => (true, cs)
  | '+' :: cs => (false, cs)
  | cs => (false, cs)

/-- The power of ten behind the digits: nothing, or an `e` with a whole number. -/
def readPower : List Char → Option Int
  | [] => some 0
  | e :: cs =>
    if e = 'e' ∨ e = 'E' then
      let (negative, ds) := splitSign cs
      if ds ≠ [] ∧ ds.all (fun c => (digit? c).isSome) then
        some (if negative then -(digitsValue ds : Int) else digitsValue ds)
      else none
    else none

/-- Digits around at most one point, at least one of them, and a power of ten: the
digits as one number and the power that goes with it. -/
def readScientific (cs : List Char) : Option (List Char × Int) :=
  let (whole, rest) := spanDigits cs
  let (places, rest) := match rest with
    | '.' :: more => spanDigits more
    | other => ([], other)
  if whole.isEmpty ∧ places.isEmpty then none
  else (readPower rest).map fun power => (whole ++ places, power - places.length)

/-- The double nearest to `n * 10 ^ k`, where `n` is written with `size` digits. Beyond
the powers of ten that doubles reach, nothing needs to be computed. -/
def ofScientific (negative : Bool) (n size : Nat) (k : Int) : Float :=
  if 400 < size + k then
    nearest negative (if n = 0 then 0 else Nat.pow 2 2000) 1
  else if size + k < -400 then nearest negative 0 1
  else nearest negative (n * Nat.pow 10 k.toNat) (Nat.pow 10 (-k).toNat)

/-- Is this the word, in letters of either case? -/
def isWord (word : String) (cs : List Char) : Bool :=
  cs.map Char.toLower == word.toList

/-- A double: a sign if one likes, then a decimal number, `inf`, `infinity` or `nan`. -/
def readFloat (text : String) : Except DecimalFault Float :=
  if text.isEmpty then .error .empty
  else
    let (negative, cs) := splitSign text.toList
    if isWord "nan" cs then .ok (0.0 / 0.0)
    else if isWord "inf" cs || isWord "infinity" cs then
      .ok (if negative then -1.0 / 0.0 else 1.0 / 0.0)
    else match readScientific cs with
      | none => .error .invalid
      | some (ds, k) =>
        let significant := ds.dropWhile (· = '0')
        .ok (ofScientific negative (digitsValue significant) significant.length k)

end Populace.Decimal
