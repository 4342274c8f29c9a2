import Populace.Pattern.Basic
import Populace.Text.BasicClass

/-!
Searching a text for a pattern. A match is found by following all ways at once:
`Pattern.ends` takes the places where a match may begin to those where it may end.
-/

namespace Populace

/-- Is it part of a word of basic characters? -/
def isWordPart (c : Char) : Bool :=
  Text.BasicClass.wordParts.holds c.toNat

/-- Does the condition hold if a part of a word stands before the place, or does not, and
behind it? -/
def WordSide.holds : WordSide → Bool → Bool → Bool
  | edge, before, behind => before != behind
  | noEdge, before, behind => before == behind
  | start, before, behind => !before && behind
  | stop, before, behind => before && !behind
  | noneBefore, before, _ => !before
  | noneBehind, _, behind => !behind

/-- Does the condition hold between these two characters? At an end of the text there is
none. Words are taken to be of basic characters. -/
def Anchor.holds : Anchor → Option Char → Option Char → Bool
  | textStart, before, _ => before.isNone
  | textEnd, _, behind => behind.isNone
  | lineStart, before, _ => before.all (· == '\n')
  | lineEnd, _, behind => behind.all (· == '\n')
  | anyLineStart, before, behind =>
    before.all fun c => c == '\n' || (c == '\r' && behind != some '\n')
  | anyLineEnd, before, behind =>
    behind.all fun c => c == '\r' || (c == '\n' && before != some '\r')
  | word side _, before, behind => side.holds (before.any isWordPart) (behind.any isWordPart)

namespace Pattern

/-- Do these characters stand in the text from a place on? -/
def standsAt (text : Array Char) : List Char → Nat → Bool
  | [], _ => true
  | c :: cs, i => text[i]? == some c && standsAt text cs (i + 1)

/-- Goes so many steps from a list of places. -/
def walk (step : List Nat → List Nat) : Nat → List Nat → List Nat
  | 0, places => places
  | n + 1, places => if places.isEmpty then [] else walk step n (step places)

/-- The places that are reached from some of them in at most so many steps; the others
have been reached and gone on from before. -/
def reach (step : List Nat → List Nat) : Nat → List Nat → List Nat → List Nat
  | 0, old, fresh => old ++ fresh
  | n + 1, old, fresh =>
    let known := old ++ fresh
    let new := (step fresh).filter (!known.contains ·)
    if new.isEmpty then known else reach step n known new

/-- Where matches end that begin at one of these places. Steps never lead back, so of a
number of steps that is greater than the number of places, all beyond it stand still. -/
def ends (text : Array Char) : Pattern → List Nat → List Nat
  | nothing => id
  | .text chars => fun places =>
    (places.filter (standsAt text chars)).map (· + chars.length)
  | one set => fun places =>
    (places.filter fun i => text[i]?.any (set.holds ·.toNat)).map (· + 1)
  | place anchor => fun places =>
    places.filter fun i => anchor.holds (if i = 0 then none else text[i - 1]?) text[i]?
  | next first second => fun places => second.ends text (first.ends text places)
  | either left right => fun places =>
    let found := left.ends text places
    found ++ (right.ends text places).filter (!found.contains ·)
  | group _ inner => inner.ends text
  | several kind least most _ => fun places =>
    let bound := text.size + 1
    let step := fun places => kind.ends text places
    let first := walk step (min least bound) places
    match most with
    | none => reach step bound [] first
    | some most => reach step (min (most - least) bound) [] first

/-- Is there a match somewhere in the text? -/
def isIn (p : Pattern) (text : String) : Bool :=
  let chars := text.toList.toArray
  !(p.ends chars (List.range (chars.size + 1))).isEmpty

end Pattern

end Populace
