import Populace.Failure

/-!
Reading the rows of a stream of bytes, which may break off. What a row means is up to a
reader that takes one row after the other; the first failure ends the reading, and the
row it came up in is told.
-/

namespace Populace.Sources

/-- Bytes in the pieces in which they come, one for each time that a reader asks for more.
None is empty: that would be the end. -/
structure Pieces where
  pieces : List (List UInt8)
  filled : ∀ piece ∈ pieces, piece ≠ []

namespace Pieces

/-- Bytes that come all at once. -/
def atOnce : List UInt8 → Pieces
  | [] => ⟨[], List.forall_mem_nil _⟩
  | b :: bytes => ⟨[b :: bytes], List.forall_mem_singleton.2 (List.cons_ne_nil b bytes)⟩

instance : Coe (List UInt8) Pieces := ⟨atOnce⟩

end Pieces

/-- What comes piece by piece, and what broke the stream off behind it, if anything did. -/
structure Stream where
  content : Pieces
  broken : Option Failure

namespace Stream

/-- A stream that comes all at once and does not break off. -/
def whole (bytes : List UInt8) : Stream := ⟨bytes, none⟩

/-- The pieces, in order. -/
def pieces (s : Stream) : List (List UInt8) :=
  s.content.pieces

/-- All bytes, however they come. -/
def bytes (s : Stream) : List UInt8 :=
  s.pieces.flatten

end Stream

/-- Goes over pieces, one after the other: what the reader has in hand then, and what it
notices of a break behind them. It takes a piece without a byte for the end, and asks for
no more. -/
def scanPieces (delimiter : UInt8) (broken : Option Failure) :
    Rows.Scan → List (List UInt8) → Rows.Scan × Option Failure
  | scan, [] => (scan, broken)
  | scan, [] :: _ => (scan, none)
  | scan, piece :: rest => scanPieces delimiter broken (scan.run delimiter piece) rest

/-- Goes over a stream. If the first piece begins with a byte order mark, the mark is left
out; it is not looked for in more than one piece. -/
def Stream.scan (delimiter : UInt8) (s : Stream) : Rows.Scan × Option Failure :=
  scanPieces delimiter s.broken Rows.Scan.start (s.pieces.modifyHead Rows.withoutMark)

/-- Reads rows, counted from `number`, into `acc`. -/
def foldRows (read : α → Rows.Row → Except Failure α) :
    Nat → α → List Rows.Row → Except Failure α
  | _, acc, [] => .ok acc
  | number, acc, row :: rows =>
    match read acc row with
    | .ok acc => foldRows read (number + 1) acc rows
    | .error e => .error (e.within (.row number row))

/-- Reads all rows of a stream. Of one that is seen to break off only the complete rows are
read, and if they are all good it fails for what broke it. -/
def Stream.foldRows (s : Stream) (delimiter : UInt8)
    (read : α → Rows.Row → Except Failure α) (acc : α) : Except Failure α :=
  let (scan, broken) := s.scan delimiter
  match broken with
  | none => Sources.foldRows read 1 acc (scan.finished.map Rows.Row.trimmed)
  | some e =>
    match Sources.foldRows read 1 acc (scan.complete.map Rows.Row.trimmed) with
    | .ok _ => .error e.brief
    | failed => failed

/-- The text of a field, which must be there. -/
def fieldText (row : Rows.Row) (index : Nat) : Except Failure String :=
  match row[index]? with
  | some field => .ok (Text.lossy field)
  | none => .error (.of (.tooFewFields row.length index))

end Populace.Sources
