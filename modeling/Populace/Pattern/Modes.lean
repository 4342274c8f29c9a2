import Populace.Pattern.Basic
import Populace.Pattern.Form
import Populace.Text.BasicClass

/-!
The modes that decide what the signs of a pattern mean. A mode is set or lifted in the
middle of a pattern and holds to the end of the group it stands in.
-/

namespace Populace.Pattern

open Populace.Text (Runs)

/-- How the signs of a pattern are taken. -/
structure Modes where
  /-- Characters stand for all that differ from them in case only. -/
  anyCase : Bool
  /-- A text has lines, and their ends are meant where else those of the text are. -/
  lines : Bool
  /-- The point stands for the end of a line, too. -/
  pointAll : Bool
  /-- Lines may end in a return, too. -/
  returns : Bool
  /-- Few are wanted where else many are, and many where else few. -/
  swapsGreed : Bool
  /-- Characters are those of all scripts, and not bytes. -/
  unicode : Bool
  deriving DecidableEq, Repr

namespace Modes

/-- What holds at the beginning. -/
def standard : Modes :=
  { anyCase := false, lines := false, pointAll := false, returns := false
    swapsGreed := false, unicode := true }

/-- Sets and lifts the modes of some letters. -/
def change (m : Modes) (flags : List Char) : Modes :=
  let state := fun letter now => (flagState? flags letter).getD now
  { anyCase := state 'i' m.anyCase
    lines := state 'm' m.lines
    pointAll := state 's' m.pointAll
    returns := state 'R' m.returns
    swapsGreed := state 'U' m.swapsGreed
    unicode := state 'u' m.unicode }

/-- The ends of lines, which the point may not stand for. -/
def lineEnds (m : Modes) : Runs :=
  if m.pointAll then [] else if m.returns then [(0x0A, 0x0A), (0x0D, 0x0D)] else [(0x0A, 0x0A)]

/-- The condition on a place that a sign stands for. -/
def anchor (m : Modes) : PlaceSign → Anchor
  | .textStart => .textStart
  | .textEnd => .textEnd
  | .start => if !m.lines then .textStart else if m.returns then .anyLineStart else .lineStart
  | .stop => if !m.lines then .textEnd else if m.returns then .anyLineEnd else .lineEnd
  | .word side => .word side (!m.unicode)

end Modes

end Populace.Pattern
