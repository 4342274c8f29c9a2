import Populace.Text.Runs

/-!
Patterns that a text can be searched for. A pattern is kept in one form, which
`Pattern.Build` gives it: a sequence is nested to the right and holds no other sequence, no
nothing and no two texts side by side, and alternatives are nested in the same way.
-/

namespace Populace

/-- What is asked about words at a place. -/
inductive WordSide where
  /-- On one side alone stands a part of a word. -/
  | edge
  | noEdge
  | start
  | stop
  /-- No part of a word stands before. -/
  | noneBefore
  /-- No part of a word stands behind. -/
  | noneBehind
  deriving DecidableEq, Repr

/-- A condition on what stands on the two sides of a place. -/
inductive Anchor where
  | textStart
  | textEnd
  /-- The text starts here, or a line feed stands before. -/
  | lineStart
  /-- The text ends here, or a line feed stands behind. -/
  | lineEnd
  /-- The same for lines that may end in a return, a line feed, or one behind the other. -/
  | anyLineStart
  | anyLineEnd
  /-- A condition on words, which are of basic characters, or of those of all scripts. -/
  | word (side : WordSide) (isBasic : Bool)
  deriving DecidableEq, Repr

/-- What a text can be searched for. -/
inductive Pattern where
  /-- Nothing, which is found everywhere. -/
  | nothing
  /-- These characters, one behind the other. -/
  | text (chars : List Char)
  /-- One character of a set. -/
  | one (set : Text.Runs)
  /-- A place with a condition on it. -/
  | place (anchor : Anchor)
  /-- One thing and the other behind it. -/
  | next (first second : Pattern)
  /-- One thing or the other. -/
  | either (left right : Pattern)
  /-- A part that is put in parentheses, the how many-th of the whole. -/
  | group (number : Nat) (inner : Pattern)
  /-- Several of a kind, at least and at most so many; without the second, any number. It
  is noted whether many are wanted rather than few. -/
  | several (kind : Pattern) (least : Nat) (most : Option Nat) (isGreedy : Bool)
  deriving DecidableEq, Repr

namespace Pattern

/-- The parts of a sequence; anything else is its own only part. -/
def parts : Pattern → List Pattern
  | nothing => []
  | next first second => first :: second.parts
  | p => [p]

/-- The alternatives; anything else is its own only one. -/
def arms : Pattern → List Pattern
  | either left right => left :: right.arms
  | p => [p]

/-- The number of signs that it is made of. -/
def size : Pattern → Nat
  | next first second => first.size + second.size + 1
  | either left right => left.size + right.size + 1
  | group _ inner => inner.size + 1
  | several kind .. => kind.size + 1
  | _ => 1

/-- Is a match always between two characters? A set that is empty has no match, and counts
as a character. -/
def isPoint : Pattern → Bool
  | nothing | place _ => true
  | text _ | one _ => false
  | next first second => first.isPoint && second.isPoint
  | either left right => left.isPoint && right.isPoint
  | group _ inner => inner.isPoint
  | several kind _ most _ => kind.isPoint && most.isSome

/-- The least number of characters that a match can have. There is none if a part has no
match. -/
def leastLength? : Pattern → Option Nat
  | nothing | place _ => some 0
  | text chars => some chars.length
  | one set => if set.isEmpty then none else some 1
  | next first second => do return (← first.leastLength?) + (← second.leastLength?)
  | either left right => do return min (← left.leastLength?) (← right.leastLength?)
  | group _ inner => inner.leastLength?
  | several kind least _ _ => kind.leastLength?.map (least * ·)

/-- Does every match begin where an anchor holds, since it is written there? -/
def beginsAt (anchor : Anchor) : Pattern → Bool
  | place a => a = anchor
  | next first second => first.beginsAt anchor || (first.isPoint && second.beginsAt anchor)
  | either left right => left.beginsAt anchor && right.beginsAt anchor
  | group _ inner => inner.beginsAt anchor
  | several kind least _ _ => 0 < least && kind.beginsAt anchor
  | _ => false

/-- Does every match end where an anchor holds, since it is written there? -/
def endsAt (anchor : Anchor) : Pattern → Bool
  | place a => a = anchor
  | next first second => second.endsAt anchor || (second.isPoint && first.endsAt anchor)
  | either left right => left.endsAt anchor && right.endsAt anchor
  | group _ inner => inner.endsAt anchor
  | several kind least _ _ => 0 < least && kind.endsAt anchor
  | _ => false

/-- Does it ask about words of all scripts? -/
def hasWideEdge : Pattern → Bool
  | place (.word _ isBasic) => !isBasic
  | next first second => first.hasWideEdge || second.hasWideEdge
  | either left right => left.hasWideEdge || right.hasWideEdge
  | group _ inner => inner.hasWideEdge
  | several kind .. => kind.hasWideEdge
  | _ => false

end Pattern

end Populace
