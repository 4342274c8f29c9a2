/-!
Sets of characters as runs of neighbouring code points, each given by its first and its
last.
-/

namespace Populace.Text

/-- Runs of code points, each given by its first and its last. -/
abbrev Runs := List (Nat × Nat)

namespace Runs

/-- Is the code point in one of the runs? -/
def holds (rs : Runs) (n : Nat) : Bool :=
  rs.any fun (first, last) => first ≤ n && n ≤ last

/-- Is the code point in one of the runs, of which only the first, the third, the fifth
and so on count? -/
def holdsSpaced (rs : Runs) (n : Nat) : Bool :=
  rs.any fun (first, last) => first ≤ n && n ≤ last && (n - first) % 2 = 0

/-- The last code point of all. -/
def lastPoint : Nat := 0x10FFFF

/-- Puts a run before runs that begin no earlier, and makes one of it and those that it
meets. -/
def join (first last : Nat) : Runs → Runs
  | [] => [(first, last)]
  | (f, l) :: rest =>
    if f ≤ last + 1 then join first (max last l) rest else (first, last) :: (f, l) :: rest

/-- The same set as runs that ascend, with a gap between each and the next. No two lists
of such runs are the same set. -/
def ordered (rs : Runs) : Runs :=
  (rs.mergeSort fun a b => a.1 ≤ b.1).foldr (fun (first, last) => join first last) []

/-- Where runs of the sets begin and where they have ended, each place once, and nought. -/
def borders (s t : Runs) : List Nat :=
  let places := (s ++ t).flatMap fun (first, last) => [first, last + 1]
  ((0 :: places).mergeSort fun a b => a ≤ b).eraseReps

/-- The stretches between borders, and that behind the last. -/
def stretches (bs : List Nat) : Runs :=
  (bs.zip (bs.tail ++ [lastPoint + 1])).map fun (here, next) => (here, next - 1)

/-- The code points for which it holds that they are, or are not, in the two sets. A
stretch between borders is in a set as a whole or not at all. -/
def combine (isMeant : Bool → Bool → Bool) (s t : Runs) : Runs :=
  ordered <| (stretches (borders s t)).filter fun (first, _) =>
    first ≤ lastPoint && isMeant (s.holds first) (t.holds first)

/-- What is in one of the two. -/
def union (s t : Runs) : Runs :=
  ordered (s ++ t)

/-- What is in both. -/
def inter (s t : Runs) : Runs :=
  combine (· && ·) s t

/-- What is in the first and not in the second. -/
def diff (s t : Runs) : Runs :=
  combine (· && !·) s t

/-- What is in exactly one of the two. -/
def symmDiff (s t : Runs) : Runs :=
  combine (· != ·) s t

/-- What is not in the set. -/
def compl (s : Runs) : Runs :=
  combine (fun isIn _ => !isIn) s []

end Runs

end Populace.Text
