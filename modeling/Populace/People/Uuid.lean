import Populace.Random.Xorshift
import Populace.Text.Grouped

/-!
Identifiers of 128 bits, random ones marked as such.
-/

namespace Populace.People

/-- An identifier. -/
structure Uuid where
  bits : BitVec 128
  deriving DecidableEq, Repr

namespace Uuid

/-- The bits that tell the version and the variant. -/
def markMask : BitVec 128 := (0xF#128 <<< 76) ||| (0x3#128 <<< 62)

/-- What they say of a random identifier: version four, of the common variant. -/
def randomMark : BitVec 128 := (0x4#128 <<< 76) ||| (0x2#128 <<< 62)

/-- The random identifier with these bits, but for the mark. -/
def ofRandom (raw : BitVec 128) : Uuid :=
  ⟨(raw &&& ~~~markMask) ||| randomMark⟩

/-- Bytes behind those in `front`, each the low byte of a word. -/
def drawBytes (front : BitVec 128) : Nat → Random.Draw (BitVec 128)
  | 0 => return front
  | n + 1 => do
    let word ← Random.Draw.word
    drawBytes ((front <<< 8) ||| BitVec.ofNat 128 (word.toNat % 256)) n

/-- A random identifier. -/
def draw : Random.Draw Uuid := do
  return ofRandom (← drawBytes 0 16)

/-- The 32 hexadecimal digits. -/
def hexDigits (u : Uuid) : List Char :=
  let ds := Nat.toDigits 16 u.bits.toNat
  Text.zeros (32 - ds.length) ++ ds

/-- The digits in groups of 8, 4, 4, 4 and 12. -/
def text (u : Uuid) : String :=
  let ds := u.hexDigits
  String.ofList <| ds.take 8 ++ '-' :: (ds.drop 8).take 4 ++ '-' :: (ds.drop 12).take 4
    ++ '-' :: (ds.drop 16).take 4 ++ '-' :: ds.drop 20

end Uuid

end Populace.People
