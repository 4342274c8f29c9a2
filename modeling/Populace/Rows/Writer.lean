import Populace.Failure

/-!
Writing rows. Fields are separated by commas and rows end in `\n`; a field that could be
misread is put between quotes, and the quotes in it are doubled.

Bytes are collected in a buffer. What a row adds comes in pieces that are not torn
apart; a piece that does not fit has the buffer written out first. A buffer that cannot
be written as a whole is kept.
-/

namespace Populace.Rows

/-- Must a field with this byte stand between quotes? -/
def needsQuotes (b : UInt8) : Bool :=
  b == quote || b == comma || endsRow b

/-- The pieces of a byte between quotes. -/
def quotedPiece (b : UInt8) : List UInt8 :=
  if b = quote then [quote, quote] else [b]

/-- The pieces of a field. -/
def fieldPieces (f : Field) : List (List UInt8) :=
  if f.any needsQuotes then [quote] :: f.map quotedPiece ++ [[quote]]
  else f.map fun b => [b]

/-- The pieces of fields with commas between them, and of the end of the row. -/
def rowPieces : Row → List (List UInt8)
  | [] => [[lineFeed]]
  | [f] => fieldPieces f ++ [[lineFeed]]
  | f :: rest => fieldPieces f ++ [comma] :: rowPieces rest

/-- The bytes of a row. -/
def rowBytes (r : Row) : List UInt8 :=
  (rowPieces r).flatten

/-- Where bytes go in the end. It may have room for so many only. -/
structure Medium where
  capacity : Option Nat
  stored : ByteArray

namespace Medium

/-- An empty one. -/
def empty (capacity : Option Nat) : Medium := ⟨capacity, ByteArray.empty⟩

/-- Stores as many of the bytes as there is room for: is that all of them? -/
def write (m : Medium) (bytes : ByteArray) : Bool × Medium :=
  match m with
  | ⟨none, stored⟩ => (true, ⟨none, stored ++ bytes⟩)
  | ⟨some capacity, stored⟩ =>
    let room := capacity - stored.size
    if bytes.size ≤ room then (true, ⟨some capacity, stored ++ bytes⟩)
    else (false, ⟨some capacity, stored ++ bytes.extract 0 room⟩)

end Medium

/-- What is said when there is no room left. -/
def fullMessage : String := "disk full"

/-- The size of the buffer. -/
def bufferSize : Nat := 8192

/-- A buffer, and the medium behind it. -/
structure Writer where
  buffer : ByteArray
  medium : Medium

/-- Something done with a writer. -/
abbrev Writing := EStateM Failure Writer

namespace Writer

/-- Nothing written yet. -/
def new (medium : Medium) : Writer := ⟨ByteArray.empty, medium⟩

/-- Writes the buffer out. -/
def flush : Writing Unit :=
  fun ⟨buffer, medium⟩ =>
    match medium.write buffer with
    | (true, medium) => .ok () ⟨ByteArray.empty, medium⟩
    | (false, medium) => .error (.of (.outside fullMessage)) ⟨buffer, medium⟩

/-- Adds bytes to the buffer. -/
def append (bytes : List UInt8) : Writing Unit :=
  fun ⟨buffer, medium⟩ => .ok () ⟨bytes.foldl ByteArray.push buffer, medium⟩

/-- Adds a piece, behind writing the buffer out if the piece does not fit. -/
def putPiece (piece : List UInt8) : Writing Unit := do
  if bufferSize < (← get).buffer.size + piece.length then
    flush
  append piece

/-- Adds pieces. -/
def putPieces : List (List UInt8) → Writing Unit
  | [] => return
  | piece :: rest => do
    putPiece piece
    putPieces rest

/-- Adds a row. -/
def putRow (r : Row) : Writing Unit :=
  putPieces (rowPieces r)

/-- Writes out what is left. -/
def close : Writing Unit :=
  fun w => match flush w with
    | .ok _ w => .ok () w
    | .error _ w => .error (.of (.unflushed fullMessage)) w

end Writer

end Populace.Rows
