import Populace.Pattern.Basic

/-!
Putting patterns together. What is built is found where the parts say, and is written in
as few parts as can be seen at once: a set of one character is that character, texts side by
side are one text, alternatives that are characters are one set, and what alternatives begin
with in common stands before them.
-/

namespace Populace.Pattern

open Populace.Text (Runs)

/-- One character of a set. -/
def ofSet (set : Runs) : Pattern :=
  match set with
  | [(first, last)] => if first = last then text [Char.ofNat first] else one set
  | _ => one set

/-- One thing and the other behind it, which is a sequence already if it is one. -/
def followed : Pattern → Pattern → Pattern
  | nothing, q => q
  | next first second, q => followed first (followed second q)
  | text cs, text ds => text (cs ++ ds)
  | text cs, next (text ds) q => next (text (cs ++ ds)) q
  | p, nothing => p
  | p, q => next p q

/-- One thing behind the other. -/
def sequence (ps : List Pattern) : Pattern :=
  ps.foldr followed nothing

/-- Several of a kind. Of places there is no more than one that counts. -/
def repeated (kind : Pattern) (least : Nat) (most : Option Nat) (isGreedy : Bool) : Pattern :=
  let least := if kind.isPoint then min least 1 else least
  let most := if kind.isPoint then some (min (most.getD 1) 1) else most
  if least = 0 ∧ most = some 0 then nothing
  else if least = 1 ∧ most = some 1 then kind
  else several kind least most isGreedy

/-- The character that it is, if it is one. -/
def char? : Pattern → Option Char
  | text [c] => some c
  | _ => none

/-- The set that it asks for, if it is one. -/
def set? : Pattern → Option Runs
  | one set => some set
  | _ => none

/-- The text that it is, if it is one. -/
def text? : Pattern → Option (List Char)
  | text cs => some cs
  | _ => none

/-- The set of which each of the alternatives is a character, if they all are, or of which
each is a part. -/
def joined? (arms : List Pattern) : Option Runs :=
  match arms.mapM char? with
  | some cs => some (Runs.ordered (cs.map fun c => (c.toNat, c.toNat)))
  | none => (arms.mapM set?).map fun sets => Runs.ordered sets.flatten

/-- What two lists begin with in common. -/
def common (ps qs : List Pattern) : List Pattern :=
  ((ps.zip qs).takeWhile fun (p, q) => p = q).map (·.1)

/-- What all of some sequences begin with; without one that has several parts, nothing. -/
def commonFront (arms : List Pattern) : List Pattern :=
  match arms.map parts with
  | [] => []
  | first :: others =>
    if (first :: others).all (1 < ·.length) then others.foldl common first else []

/-- Alternatives as they stand, without a search for what they have in common. -/
def listed : List Pattern → Pattern
  | [] => one []
  | [p] => p
  | p :: q :: ps => either p (listed (q :: ps))

/-- One of several things. What they begin with in common can be taken out so many
times. -/
def anyOfIn : Nat → List Pattern → Pattern
  | 0, ps => listed (ps.flatMap arms)
  | n + 1, ps =>
    let ps := ps.flatMap arms
    if ps.length ≤ 1 then listed ps
    else match joined? ps, commonFront ps with
      | some set, _ => ofSet set
      | none, [] => listed ps
      | none, front =>
        let rests := ps.map fun p => sequence (p.parts.drop front.length)
        sequence (front ++ [anyOfIn n rests])

/-- One of several things. Each time that something is taken out they become smaller. -/
def anyOf (ps : List Pattern) : Pattern :=
  anyOfIn ((ps.map size).foldr (· + ·) 0) ps

end Populace.Pattern
