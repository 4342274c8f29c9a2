/-!
Bytes as text. Valid text is its characters; anything else still has a reading, in
which each longest run of bytes that could have begun a character, but did not become
one, counts as one replacement character.
-/

namespace Populace.Text

/-- The bytes of a text. -/
def bytesOf (text : String) : List UInt8 :=
  text.toUTF8.data.toList

/-- The character that stands for bytes that are no text. -/
def replacement : Char := '\ufffd'

/-- How many bytes follow a first byte, and the least and greatest value of the one
right behind it. -/
def followers? (first : UInt8) : Option (Nat × UInt8 × UInt8) :=
  if first < 0xC2 then none
  else if first < 0xE0 then some (1, 0x80, 0xBF)
  else if first = 0xE0 then some (2, 0xA0, 0xBF)
  else if first = 0xED then some (2, 0x80, 0x9F)
  else if first < 0xF0 then some (2, 0x80, 0xBF)
  else if first = 0xF0 then some (3, 0x90, 0xBF)
  else if first < 0xF4 then some (3, 0x80, 0xBF)
  else if first = 0xF4 then some (3, 0x80, 0x8F)
  else none

/-- At most `n` bytes in front that may follow: the first from `low` to `high`, the
others from `0x80` to `0xBF`. -/
def following (low high : UInt8) : Nat → List UInt8 → List UInt8
  | n + 1, b :: bs => if low ≤ b ∧ b ≤ high then b :: following 0x80 0xBF n bs else []
  | _, _ => []

/-- Reads what begins with the byte `first`: its character, or nothing, and how many of
the bytes behind the first belong to it. -/
def readChar (first : UInt8) (rest : List UInt8) : Option Char × Nat :=
  if first < 0x80 then (some (Char.ofNat first.toNat), 0)
  else match followers? first with
    | none => (none, 0)
    | some (n, low, high) =>
      let more := following low high n rest
      if more.length = n then
        let front := first.toNat % Nat.pow 2 (6 - n)
        (some (Char.ofNat (more.foldl (fun acc b => acc * 64 + b.toNat % 64) front)), n)
      else (none, more.length)

/-- The characters of some bytes, after leaving out the first `skip` of them. -/
def charsOf : Nat → List UInt8 → List Char
  | _, [] => []
  | skip + 1, _ :: bs => charsOf skip bs
  | 0, b :: bs =>
    let (c, n) := readChar b bs
    c.getD replacement :: charsOf n bs

/-- The text of some bytes, with replacement characters where they are no text. -/
def lossy (bytes : List UInt8) : String :=
  String.ofList (charsOf 0 bytes)

end Populace.Text
