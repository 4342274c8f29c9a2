import Populace.Pattern.Fault
import Populace.Text.Category

/-!
Places in the text of a pattern, and going on from them. In a spaced pattern blanks mean
nothing, and what stands behind a `#` neither.
-/

namespace Populace.Pattern

/-- A place in the text of a pattern. -/
structure Cursor where
  /-- The number of characters before it. -/
  place : Nat
  /-- Those behind it. -/
  rest : List Char
  deriving DecidableEq, Repr

/-- What the next characters are read as, and the place behind them. -/
abbrev Reading (α : Type) := Except Fault (α × Cursor)

namespace Cursor

/-- The place so many characters further on. -/
def skip (c : Cursor) (n : Nat) : Cursor :=
  ⟨c.place + min n c.rest.length, c.rest.drop n⟩

/-- The place behind the next character. -/
def next (c : Cursor) : Cursor :=
  match c.rest with
  | [] => c
  | _ :: rest => ⟨c.place + 1, rest⟩

/-- Is there nothing more? -/
def isEnd (c : Cursor) : Bool :=
  c.rest.isEmpty

/-- The number of characters, from the first on, that mean nothing in a spaced pattern:
blanks, and comments to the end of their line. -/
def spaceSize (inComment : Bool) : List Char → Nat
  | [] => 0
  | c :: cs =>
    if inComment then spaceSize (c ≠ '\n') cs + 1
    else if Text.isBlank c then spaceSize false cs + 1
    else if c = '#' then spaceSize true cs + 1
    else 0

/-- The place behind what means nothing here. -/
def pastSpace (spaced : Bool) (c : Cursor) : Cursor :=
  if spaced then c.skip (spaceSize false c.rest) else c

/-- The place behind the next character and what means nothing behind it. -/
def step (spaced : Bool) (c : Cursor) : Cursor :=
  c.next.pastSpace spaced

/-- The place behind blanks. -/
def pastBlanks (c : Cursor) : Cursor :=
  c.skip (c.rest.takeWhile Text.isBlank).length

/-- The part of the text from a place to here. -/
def spanFrom (c : Cursor) (start : Nat) : Span :=
  ⟨start, c.place⟩

/-- The part that the next character is. -/
def spanOfNext (c : Cursor) : Span :=
  c.next.spanFrom c.place

/-- Something is wrong here, between two characters. -/
def fail (c : Cursor) (flaw : Flaw) : Except Fault α :=
  .error ⟨flaw, c.spanFrom c.place⟩

/-- Something is wrong with the next character. -/
def failAtNext (c : Cursor) (flaw : Flaw) : Except Fault α :=
  .error ⟨flaw, c.spanOfNext⟩

/-- Something is wrong with what stands between a place and here. -/
def failFrom (c : Cursor) (start : Nat) (flaw : Flaw) : Except Fault α :=
  .error ⟨flaw, c.spanFrom start⟩

/-- The next characters, at most so many, as long as they fit, each with its place and
without what means nothing between them; and the place behind. -/
def takeFitting (spaced : Bool) (fits : Char → Bool) :
    Nat → Cursor → List (Char × Nat) × Cursor
  | 0, c => ([], c)
  | n + 1, c => match c.rest with
    | [] => ([], c)
    | x :: _ =>
      if fits x then
        let (xs, behind) := takeFitting spaced fits n (c.step spaced)
        ((x, c.place) :: xs, behind)
      else ([], c)

/-- The next characters as long as they fit, without what means nothing between them; and
the place behind. -/
def takeWhile (spaced : Bool) (fits : Char → Bool) (c : Cursor) : List Char × Cursor :=
  let (found, behind) := takeFitting spaced fits c.rest.length c
  (found.map (·.1), behind)

end Cursor

end Populace.Pattern
