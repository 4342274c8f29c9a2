/-!
Whole numbers in decimal: the plain digits, and the same digits with a comma
between groups of three, as people like to read them.
-/

namespace Populace.Text

/-- The decimal digits of a number, the most significant first and no zeros in front. -/
def digits (n : Nat) : List Char :=
  Nat.toDigits 10 n

/-- Commas between threes, counted from the head: the digits come least significant first. -/
def commaEveryThree : List Char → List Char
  | a :: b :: c :: d :: rest => a :: b :: c :: ',' :: commaEveryThree (d :: rest)
  | short => short

/-- The decimal text of `n` with a comma between groups of three digits. -/
def grouped (n : Nat) : String :=
  String.ofList (commaEveryThree (digits n).reverse).reverse

/-- The commas are all that grouping adds. -/
theorem filter_commaEveryThree (ds : List Char) (h : ∀ c ∈ ds, c ≠ ',') :
    (commaEveryThree ds).filter (· ≠ ',') = ds := by
  fun_induction commaEveryThree ds with
  | case1 a b c d rest ih =>
    have hr := ih fun x hx => h x (by simp_all)
    simp_all
  | case2 short _ => exact List.filter_eq_self.2 (by simpa using h)

/-- `n` zeros. -/
def zeros (n : Nat) : List Char :=
  List.replicate n '0'

/-- Digits with zeros put in front until there are `width` of them. -/
def padded (width n : Nat) : List Char :=
  zeros (width - (digits n).length) ++ digits n

/-- Digits with spaces put in front until there are `width` characters. -/
def spaced (width n : Nat) : List Char :=
  List.replicate (width - (digits n).length) ' ' ++ digits n

end Populace.Text
