/-!
The generator that all randomness comes from: four words of 32 bits, shifted and
xored, seeded from one word of 64 bits.
-/

namespace Populace.Random

/-- The four words of the generator's state. -/
structure Xorshift where
  x : UInt32
  y : UInt32
  z : UInt32
  w : UInt32
  deriving DecidableEq, Repr

/-- Something drawn from a generator. -/
abbrev Draw := StateM Xorshift

namespace Xorshift

/-- The next word, and the state behind it. -/
def next (g : Xorshift) : UInt32 × Xorshift :=
  let t := g.x ^^^ (g.x <<< 11)
  let w := g.w ^^^ (g.w >>> 19) ^^^ (t ^^^ (t >>> 8))
  (w, ⟨g.y, g.z, g.w, w⟩)

/-- One step of the sequence that spreads a seed over the state. -/
def spread (s : UInt64) : UInt64 :=
  s * 6364136223846793005 + 11634580027462260723

/-- The word rotated to the right by less than 32 places. -/
def rotated (word places : UInt32) : UInt32 :=
  (word >>> places) ||| (word <<< ((32 - places) % 32))

/-- What a step of the spreading sequence gives to the state. -/
def scrambled (s : UInt64) : UInt32 :=
  rotated (((s >>> 18) ^^^ s) >>> 27).toUInt32 (s >>> 59).toUInt32

/-- The state for a seed. A state of zeros alone would never leave zero, so another one
stands in for it. -/
def ofSeed (seed : UInt64) : Xorshift :=
  let a := spread seed
  let b := spread a
  let c := spread b
  let d := spread c
  let g : Xorshift := ⟨scrambled a, scrambled b, scrambled c, scrambled d⟩
  if g = ⟨0, 0, 0, 0⟩ then ⟨0x0BAD5EED, 0x0BAD5EED, 0x0BAD5EED, 0x0BAD5EED⟩ else g

end Xorshift

namespace Draw

/-- A word of 32 bits. -/
def word : Draw UInt32 :=
  modifyGet Xorshift.next

/-- A word of 64 bits, its low half drawn first. -/
def longWord : Draw UInt64 := do
  let low ← word
  let high ← word
  return low.toUInt64 ||| (high.toUInt64 <<< 32)

end Draw

end Populace.Random
