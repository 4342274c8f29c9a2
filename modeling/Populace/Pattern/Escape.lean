import Populace.Pattern.Cursor
import Populace.Pattern.Form
import Populace.Text.BasicClass

/-!
Reading what a backslash begins.
-/

namespace Populace.Pattern

/-- Is it the digit of a hexadecimal number? -/
def isHexDigit (c : Char) : Bool :=
  Text.BasicClass.hexDigits.holds c.toNat

/-- What a digit counts. -/
def digitValue (c : Char) : Nat :=
  if c.toNat ≤ 0x39 then c.toNat - 0x30 else c.toNat % 0x20 + 9

/-- The number that digits stand for. -/
def numberOf (base : Nat) (digits : List Char) : Nat :=
  digits.foldl (fun n c => n * base + digitValue c) 0

/-- The character of a number. -/
def charOf? (n : Nat) : Option Char :=
  if n.isValidChar then some (Char.ofNat n) else none

/-- A number of so many hexadecimal digits. -/
def readHexDigits (spaced : Bool) (count : Nat) (c : Cursor) : Reading Char :=
  let (digits, behind) := c.takeFitting spaced isHexDigit count
  if digits.length < count then
    if behind.isEnd then behind.fail .escapeCut else behind.failAtNext .hexDigit
  else match charOf? (numberOf 16 (digits.map (·.1))) with
    | some x => .ok (x, behind)
    | none => behind.failFrom c.place .hexInvalid

/-- A hexadecimal number between braces. -/
def readHexBraces (spaced : Bool) (c : Cursor) : Reading Char :=
  let (digits, atBrace) := (c.step spaced).takeWhile spaced isHexDigit
  if atBrace.isEnd then atBrace.failFrom c.place .escapeCut
  else if atBrace.rest.head? ≠ some '\x7d' then atBrace.failAtNext .hexDigit
  else
    let behind := atBrace.step spaced
    if digits.isEmpty then behind.failFrom c.place .hexEmpty
    else match charOf? (numberOf 16 digits) with
      | some x => .ok (x, behind)
      | none => atBrace.failFrom (c.place + 1) .hexInvalid

/-- The number of digits behind each of the letters that a hexadecimal number may follow. -/
def hexCount (letter : Char) : Nat :=
  if letter = 'x' then 2 else if letter = 'u' then 4 else 8

/-- A character given by its number, from the letter before it on; the escape begins at a
place. -/
def readHex (spaced : Bool) (start : Nat) (letter : Char) (c : Cursor) : Reading Atom :=
  let number := c.step spaced
  if number.isEnd then number.fail .escapeCut
  else if number.rest.head? = some '\x7b' then
    (readHexBraces spaced number).map fun (x, behind) =>
      (.char ⟨behind.spanFrom start, x, false⟩, behind)
  else
    (readHexDigits spaced (hexCount letter) number).map fun (x, behind) =>
      (.char ⟨behind.spanFrom start, x, letter = 'x' && 0x80 ≤ x.toNat⟩, behind)

/-- The characters with a property, from the letter before its name on. -/
def readProperty (spaced : Bool) (start : Nat) (c : Cursor) : Reading Atom :=
  let property := fun (name : List Char) (behind : Cursor) =>
    (.ok (.property (behind.spanFrom start) name, behind) : Reading Atom)
  let name := c.step spaced
  match name.rest with
  | [] => name.fail .escapeCut
  | '\\' :: _ => name.failAtNext .propertyForm
  | '\x7b' :: _ =>
    let (letters, atBrace) := (name.step spaced).takeWhile spaced (· ≠ '\x7d')
    if atBrace.isEnd then atBrace.fail .escapeCut else property letters atBrace.next
  | letter :: _ => property [letter] (name.step spaced)

/-- The conditions on words that have a name. -/
def side? (name : List Char) : Option WordSide :=
  let name := String.ofList name
  if name = "start" then some .start
  else if name = "end" then some .stop
  else if name = "start-half" then some .noneBefore
  else if name = "end-half" then some .noneBehind
  else none

/-- Can it be in the name of such a condition? -/
def isSideLetter (c : Char) : Bool :=
  c.isAlpha || c == '-'

/-- A condition on words, from behind its letter on. If what stands in braces there cannot
be a name, it is left alone. -/
def readSide (spaced : Bool) (start : Nat) (c : Cursor) : Reading Atom :=
  let found := fun (side : WordSide) (behind : Cursor) =>
    (.ok (.place (behind.spanFrom start) (.word side), behind) : Reading Atom)
  match c.rest with
  | '\x7b' :: _ =>
    let name := c.step spaced
    match name.rest with
    | [] => name.failFrom start .edgeCut
    | letter :: _ =>
      if !isSideLetter letter then found .edge c
      else
        let (letters, atBrace) := name.takeWhile spaced isSideLetter
        if atBrace.rest.head? ≠ some '\x7d' then atBrace.failFrom c.place .edgeUnclosed
        else match side? letters with
          | some side => found side atBrace.next
          | none => atBrace.failFrom name.place .edgeUnrecognized
  | _ => found .edge c

/-- The characters that have a letter behind a backslash. -/
def controls : List (Char × Char) :=
  [('a', '\x07'), ('f', '\x0c'), ('t', '\t'), ('n', '\n'), ('r', '\r'), ('v', '\x0b')]

/-- The kinds of characters that have a letter; its capital stands for what is not in the
kind. -/
def kinds : List (Char × Kind) :=
  [('d', .digit), ('s', .blank), ('w', .wordPart)]

/-- The conditions on places that have a sign of their own. -/
def placeSigns : List (Char × PlaceSign) :=
  [('A', .textStart), ('z', .textEnd), ('B', .word .noEdge), ('<', .word .start),
    ('>', .word .stop)]

/-- Does a character stand for itself behind a backslash? Basic ones do that are neither
letters nor digits. -/
def isPlainEscaped (c : Char) : Bool :=
  c.toNat < 0x80 && !c.isAlphanum

/-- What a sign stands for that is the last of an escape. -/
def shortEscape? (span : Span) (sign : Char) : Option Atom :=
  let char := fun c => Atom.char ⟨span, c, false⟩
  let kind := fun k => Atom.kind span k sign.isUpper
  ((placeSigns.lookup sign).map (.place span))
    |>.or ((controls.lookup sign).map char)
    |>.or ((kinds.lookup sign.toLower).map kind)
    |>.or (if isPlainEscaped sign then some (char sign) else none)

/-- What a backslash begins. -/
def readEscape (spaced : Bool) (c : Cursor) : Reading Atom :=
  let start := c.place
  let sign := c.next
  match sign.rest with
  | [] => sign.failFrom start .escapeCut
  | x :: _ =>
    let behind := sign.next
    if x.isDigit then behind.failFrom start .backreference
    else match x with
      | 'x' | 'u' | 'U' => readHex spaced start x sign
      | 'p' | 'P' => readProperty spaced start sign
      | 'b' => readSide spaced start behind
      | _ => match shortEscape? (behind.spanFrom start) x with
        | some atom => .ok (atom, behind)
        | none => behind.failFrom start .escapeUnrecognized

end Populace.Pattern
