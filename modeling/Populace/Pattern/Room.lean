import Populace.Pattern.Build
import Populace.Text.ByteForm

/-!
The room that an automaton for a pattern takes, byte for byte. The automaton reads bytes. It
is built twice, once to read forward and once to read backward, and may not be too large
either way.
-/

namespace Populace.Pattern

open Populace.Text (ByteForm Runs)

/-- The way in which an automaton reads. -/
inductive Direction where
  | forward
  | backward
  deriving DecidableEq, Repr

/-- The bytes that a state takes; one that reads a byte of one value is no more than that. -/
def stateRoom : Nat := 32

/-- What a state takes for each of several runs of bytes that it reads. -/
def branchRoom : Nat := 8

/-- What a state that reads nothing takes for each of the states that may come behind. -/
def linkRoom : Nat := 4

/-- A state behind which two others may come. -/
def forkRoom : Nat := stateRoom + 2 * linkRoom

/-- A state that reads one of some runs of bytes, and the one behind it. -/
def choiceRoom (branches : Nat) : Nat :=
  2 * stateRoom + branches * branchRoom

/-- The forms that are left behind each first run of bytes, without those that end. -/
def tailsOf (forms : List ByteForm) : List (List ByteForm) :=
  (forms.filterMap List.head?).eraseDups.map fun head =>
    (forms.filter (·.head? = some head)).map List.tail |>.filter (· ≠ [])

/-- What is left of forms wherever a state stands that reads them, in at most so many bytes
from here. -/
def remnants : Nat → List ByteForm → List (List ByteForm)
  | 0, _ => []
  | n + 1, forms =>
    if forms.isEmpty then [] else forms :: (tailsOf forms).flatMap (remnants n)

/-- The greatest number of bytes that a character takes. -/
def longestForm : Nat := 4

/-- What the forms of a set take if they are read forward: a state for each different rest
of forms. -/
def forwardFormsRoom (forms : List ByteForm) : Nat :=
  let states := (remnants longestForm forms).eraseDups
  states.foldr (fun rest room => stateRoom + branchRoom * (tailsOf rest).length + room) stateRoom

/-- The beginnings of a form, up to the whole of it. -/
def beginnings (form : ByteForm) : List ByteForm :=
  (List.range form.length).map fun n => form.take (n + 1)

/-- What the forms of a set take if they are read backward: a state for each different
beginning of a form, and a way to each. -/
def backwardFormsRoom (forms : List ByteForm) : Nat :=
  let states := (forms.flatMap beginnings).eraseDups
  stateRoom * (2 + states.length) + linkRoom * forms.length

/-- What a set takes. -/
def setRoom (direction : Direction) (set : Runs) : Nat :=
  if set.all (·.2 < 0x80) then choiceRoom set.length
  else match direction with
    | .forward => forwardFormsRoom (ByteForm.ofRuns set)
    | .backward => backwardFormsRoom (ByteForm.ofRuns set)

/-- Cuts words that begin at one state wherever a word ends there. -/
def cutAtEnds : List (List UInt8) → List (List (List UInt8))
  | [] => [[]]
  | [] :: words => [] :: cutAtEnds words
  | w :: words => match cutAtEnds words with
    | [] => [[w]]
    | now :: later => (w :: now) :: later

/-- The sections of words that begin at one state. Of words that end there before all others
one counts. -/
def sections (words : List (List UInt8)) : List (List (List UInt8)) :=
  let others := words.dropWhile List.isEmpty
  if others.length < words.length then [] :: cutAtEnds others else cutAtEnds others

/-- What words take that begin at one state, which stand in one tree: a state for the bytes
that come first in each section, one that leads to these and to the end, and the same for
what comes behind. The words are read in at most so many bytes. -/
def treeRoom : Nat → List (List UInt8) → Nat
  | 0, _ => 0
  | n + 1, words =>
    if words.all List.isEmpty then 0
    else
      let cuts := sections words
      let ofSection := fun (ws : List (List UInt8)) =>
        let heads := (ws.filterMap List.head?).eraseDups
        let tails := heads.map fun h => (ws.filter (·.head? = some h)).map List.tail
        let own :=
          if heads.length ≤ 1 then stateRoom * heads.length
          else stateRoom + branchRoom * heads.length
        (tails.map (treeRoom n)).foldr (· + ·) own
      let links := (cuts.filter (!·.isEmpty)).length + (cuts.length - 1)
      (cuts.map ofSection).foldr (· + ·) 0 + stateRoom + linkRoom * links

/-- What alternatives take that are all texts. -/
def textsRoom (direction : Direction) (texts : List (List Char)) : Nat :=
  let words := texts.map fun cs => (String.ofList cs).toUTF8.data.toList
  let words := if direction = .backward then words.map List.reverse else words
  stateRoom + treeRoom ((words.map List.length).foldl max 0 + 1) words

/-- What several of a kind take, of which one takes so much. Each that is needed or allowed is
built by itself. Of any number one is built, with a fork to go back; if it is not known that a
match has a length, another fork leads past it. -/
def severalRoom (kind : Nat) (hasLength : Bool) (least : Nat) (most : Option Nat) : Nat :=
  match least, most with
  | 0, some 1 => kind + forkRoom + stateRoom
  | 0, none => if hasLength then kind + forkRoom else kind + 2 * forkRoom + stateRoom
  | n, none => n * kind + forkRoom
  | n, some m =>
    if n = m then n * kind
    else (if n = 0 then stateRoom else n * kind) + stateRoom + (m - n) * (kind + forkRoom)

/-- What a pattern takes, by itself or as the rest of several alternatives, to each of which
there is a link. -/
def roomAs (direction : Direction) : Bool → Pattern → Nat
  | isRest, nothing | isRest, place _ => linkTo isRest + stateRoom
  | isRest, text chars => linkTo isRest + stateRoom * (chars.map Char.utf8Size).foldr (· + ·) 0
  | isRest, one set => linkTo isRest + setRoom direction set
  | isRest, next first second =>
    linkTo isRest + roomAs direction false first + roomAs direction false second
  | isRest, group _ inner =>
    let notes := if direction = .forward then 2 * stateRoom else 0
    linkTo isRest + notes + roomAs direction false inner
  | isRest, several kind least most _ =>
    let hasLength := kind.leastLength?.any (0 < ·)
    linkTo isRest + severalRoom (roomAs direction false kind) hasLength least most
  | true, either left right =>
    linkRoom + roomAs direction false left + roomAs direction true right
  | false, either left right =>
    match (either left right).arms.mapM text? with
    | some texts => textsRoom direction texts
    | none =>
      choiceRoom 0 + linkRoom + roomAs direction false left + roomAs direction true right
where
  /-- What a link takes, if there is one. -/
  linkTo (isRest : Bool) : Nat := if isRest then linkRoom else 0

/-- What an automaton takes that finds the pattern anywhere. Unless a match can begin in one
place only, it goes past any bytes before it; forward, it notes where the match begins and
ends. -/
def room (p : Pattern) (direction : Direction) : Nat :=
  let isFixed := match direction with
    | .forward => p.beginsAt .textStart
    | .backward => p.endsAt .textEnd
  let before := if isFixed then stateRoom else choiceRoom 1 + forkRoom
  let notes := if direction = .forward then 2 * stateRoom else 0
  before + notes + roomAs direction false p + stateRoom

/-- The bytes that an automaton may take. -/
def roomLimit : Nat := 10 * Nat.pow 2 20

end Populace.Pattern
