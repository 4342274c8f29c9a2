import Populace.Text.Runs

/-!
The bytes of characters in UTF-8, for a set of characters at once: each form is a run of
bytes for each place, and stands for all characters whose bytes are in the runs. The forms
of a set ascend, and no character has two of them.
-/

namespace Populace.Text

/-- A run of bytes for each place of a character. -/
abbrev ByteForm := List (Nat × Nat)

namespace ByteForm

/-- The number of values that a byte behind the first can have. -/
def base : Nat := 64

/-- The numbers from the first to the last as runs of their digits, of which so many stand
behind the leading one. Where only a part of what a leading digit begins is meant, that
digit has forms of its own. -/
def ofDigits : Nat → Nat → Nat → List ByteForm
  | 0, first, last => [[(first, last)]]
  | n + 1, first, last =>
    let block := Nat.pow base (n + 1)
    let low := first / block
    let high := last / block
    let rest := fun lead first last => (ofDigits n first last).map (lead :: ·)
    if low = high then rest (low, low) (first % block) (last % block)
    else
      let cutsLow := first % block ≠ 0
      let cutsHigh := last % block ≠ block - 1
      let start := if cutsLow then low + 1 else low
      let stop := if cutsHigh then high else high + 1
      (if cutsLow then rest (low, low) (first % block) (block - 1) else [])
        ++ (if start < stop then rest (start, stop - 1) 0 (block - 1) else [])
        ++ (if cutsHigh then rest (high, high) 0 (last % block) else [])

/-- The characters of each length, as a run, with the number of bytes behind the first and
what the first is counted from. Between two of the runs stand code points that are no
characters. -/
def lengths : List ((Nat × Nat) × Nat × Nat) := [
  ((0x00, 0x7F), 0, 0x00),
  ((0x80, 0x7FF), 1, 0xC0),
  ((0x800, 0xD7FF), 2, 0xE0),
  ((0xE000, 0xFFFF), 2, 0xE0),
  ((0x10000, 0x10FFFF), 3, 0xF0)]

/-- The form of digits, of which the first is counted from a given byte. -/
def ofLead (lead : Nat) : ByteForm → ByteForm
  | [] => []
  | (first, last) :: rest =>
    (lead + first, lead + last) :: rest.map fun (first, last) => (0x80 + first, 0x80 + last)

/-- The forms of the characters of a run. -/
def ofRun (first last : Nat) : List ByteForm :=
  lengths.flatMap fun ((least, greatest), behind, lead) =>
    let first := max first least
    let last := min last greatest
    if first ≤ last then (ofDigits behind first last).map (ofLead lead) else []

/-- The forms of the characters of a set. -/
def ofRuns (rs : Runs) : List ByteForm :=
  rs.flatMap fun (first, last) => ofRun first last

end ByteForm

end Populace.Text
