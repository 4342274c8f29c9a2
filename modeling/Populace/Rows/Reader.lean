/-!
Rows of a delimited file. Fields stand between delimiters and rows between line ends
(`\n`, `\r`, or both); a field that starts with a quote runs to the next quote that is
not doubled, whatever it holds. Lines with nothing on them are no rows.

The reader goes over the bytes one at a time: `Scan` is what it has in hand.
-/

namespace Populace.Rows

/-- The bytes of a field. -/
abbrev Field := List UInt8

/-- The fields of a row. -/
abbrev Row := List Field

/-- `\n`. -/
def lineFeed : UInt8 := 0x0A

/-- `\r`. -/
def carriageReturn : UInt8 := 0x0D

/-- `,` -/
def comma : UInt8 := 0x2C

/-- The double quote. -/
def quote : UInt8 := 0x22

/-- Does the byte end a row? -/
def endsRow (b : UInt8) : Bool :=
  b == lineFeed || b == carriageReturn

/-- Where in a row the reader is. -/
inductive Place where
  /-- Before a row. -/
  | rowStart
  /-- Behind a delimiter. -/
  | fieldStart
  /-- In a field, outside quotes. -/
  | plain
  /-- Between quotes. -/
  | quoted
  /-- Behind a quote that either ends the quotes or is the first of two. -/
  | behindQuote
  deriving DecidableEq, Repr

/-- What the reader has in hand. Everything is kept last one first. -/
structure Scan where
  place : Place
  field : List UInt8
  fields : List Field
  rows : List Row
  deriving DecidableEq, Repr

namespace Scan

/-- Before the first byte. -/
def start : Scan := ⟨.rowStart, [], [], []⟩

/-- One more byte of the field. -/
def keep (s : Scan) (place : Place) (b : UInt8) : Scan :=
  { s with place, field := b :: s.field }

/-- The field is complete. -/
def endField (s : Scan) : Scan :=
  { s with place := .fieldStart, field := [], fields := s.field.reverse :: s.fields }

/-- The field and the row are complete. -/
def endRow (s : Scan) : Scan :=
  { place := .rowStart
    field := []
    fields := []
    rows := (s.field.reverse :: s.fields).reverse :: s.rows }

/-- A byte outside quotes. -/
def stepPlain (delimiter : UInt8) (s : Scan) (b : UInt8) : Scan :=
  if b = delimiter then s.endField
  else if endsRow b then s.endRow
  else s.keep .plain b

/-- One more byte. -/
def step (delimiter : UInt8) (s : Scan) (b : UInt8) : Scan :=
  match s.place with
  | .rowStart =>
    if endsRow b then s
    else if b = quote then { s with place := .quoted }
    else s.stepPlain delimiter b
  | .fieldStart =>
    if b = quote then { s with place := .quoted } else s.stepPlain delimiter b
  | .plain => s.stepPlain delimiter b
  | .quoted =>
    if b = quote then { s with place := .behindQuote } else s.keep .quoted b
  | .behindQuote =>
    if b = quote then s.keep .quoted b else s.stepPlain delimiter b

/-- All the bytes, in order. -/
def run (delimiter : UInt8) (s : Scan) (bytes : List UInt8) : Scan :=
  bytes.foldl (step delimiter) s

/-- The rows that are complete. -/
def complete (s : Scan) : List Row :=
  s.rows.reverse

/-- The rows when nothing follows: one that has begun ends here. -/
def finished (s : Scan) : List Row :=
  if s.place = .rowStart then s.complete else s.endRow.complete

end Scan

/-- The byte order mark. -/
def byteOrderMark : List UInt8 := [0xEF, 0xBB, 0xBF]

/-- The bytes without a byte order mark in front. -/
def withoutMark : List UInt8 → List UInt8
  | 0xEF :: 0xBB :: 0xBF :: rest => rest
  | bytes => bytes

/-- What the reader has in hand behind all the bytes. -/
def scan (delimiter : UInt8) (bytes : List UInt8) : Scan :=
  Scan.start.run delimiter (withoutMark bytes)

/-- Is the byte a space, a tab, a line end or a form feed? -/
def isBlank (b : UInt8) : Bool :=
  b == 0x20 || b == 0x09 || b == 0x0A || b == 0x0D || b == 0x0C

/-- The field without blanks at its ends. -/
def Field.trimmed (f : Field) : Field :=
  ((f.dropWhile isBlank).reverse.dropWhile isBlank).reverse

/-- The row with each field trimmed. -/
def Row.trimmed (r : Row) : Row :=
  r.map Field.trimmed

end Populace.Rows
