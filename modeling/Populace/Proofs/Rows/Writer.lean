import Populace.People.Record
import Populace.Proofs.People.Calls

/-!
# What a writer has written

The bytes that have reached the medium and those that wait in the buffer are together all
that were ever put in (`Writer.Holds`). With an unlimited medium no write fails, so the
rows of everybody are written, and writing the buffer out brings all of them to the
medium.
-/

namespace Populace.Rows

namespace Writer

/-- The bytes that have reached the medium. -/
def reached (w : Writer) : List UInt8 := w.medium.stored.data.toList

/-- These bytes have been put in so far, and there is room for any others. -/
structure Holds (w : Writer) (bytes : List UInt8) : Prop where
  unlimited : w.medium.capacity = none
  written : w.medium.stored.data.toList ++ w.buffer.data.toList = bytes

theorem holds_new : (new (Medium.empty none)).Holds [] := ⟨rfl, rfl⟩

variable {w : Writer} {bytes : List UInt8}

/-- Writing the buffer out moves the bytes in it. -/
theorem flush_of_holds (h : w.Holds bytes) :
    ∃ v, flush w = .ok () v ∧ v.Holds bytes ∧ v.medium.stored = ⟨bytes.toArray⟩ := by
  obtain ⟨buffer, capacity, stored⟩ := w
  obtain ⟨rfl, hwritten⟩ := h
  -- the medium takes the buffer as a whole
  have hstored : (stored ++ buffer).data.toList = bytes := by simpa using hwritten
  refine ⟨⟨ByteArray.empty, ⟨none, stored ++ buffer⟩⟩, rfl, ⟨rfl, by simpa using hwritten⟩, ?_⟩
  rw [← hstored]

theorem toList_push (b : ByteArray) (piece : List UInt8) :
    (piece.foldl ByteArray.push b).data.toList = b.data.toList ++ piece := by
  induction piece generalizing b with
  | nil => simp
  | cons byte piece ih => simp [ih, ByteArray.data_push]

theorem append_of_holds (h : w.Holds bytes) (piece : List UInt8) :
    ∃ v, append piece w = .ok () v ∧ v.Holds (bytes ++ piece) := by
  obtain ⟨buffer, medium⟩ := w
  refine ⟨⟨piece.foldl ByteArray.push buffer, medium⟩, rfl, h.unlimited, ?_⟩
  rw [toList_push, ← List.append_assoc, h.written]

theorem putPiece_of_holds (h : w.Holds bytes) (piece : List UInt8) :
    ∃ v, putPiece piece w = .ok () v ∧ v.Holds (bytes ++ piece) := by
  rw [putPiece, bind_of_ok (run_get w)]
  split
  · obtain ⟨v, hflush, hv, -⟩ := flush_of_holds h
    rw [bind_of_ok hflush]
    exact append_of_holds hv piece
  · exact append_of_holds h piece

theorem putPieces_of_holds (h : w.Holds bytes) (pieces : List (List UInt8)) :
    ∃ v, putPieces pieces w = .ok () v ∧ v.Holds (bytes ++ pieces.flatten) := by
  induction pieces generalizing w bytes with
  | nil => exact ⟨w, rfl, by simpa using h⟩
  | cons piece pieces ih =>
      obtain ⟨u, hpiece, hu⟩ := putPiece_of_holds h piece
      obtain ⟨v, hpieces, hv⟩ := ih hu
      refine ⟨v, ?_, by simpa using hv⟩
      rw [putPieces, bind_of_ok hpiece, hpieces]

theorem putRow_of_holds (h : w.Holds bytes) (r : Row) :
    ∃ v, putRow r w = .ok () v ∧ v.Holds (bytes ++ rowBytes r) :=
  putPieces_of_holds h (rowPieces r)

theorem close_of_holds (h : w.Holds bytes) :
    ∃ v, close w = .ok () v ∧ v.medium.stored = ⟨bytes.toArray⟩ := by
  obtain ⟨v, hflush, -, hstored⟩ := flush_of_holds h
  refine ⟨v, ?_, hstored⟩
  simp only [close, hflush]

end Writer

end Populace.Rows

namespace Populace.People

open Populace.Rows (Writer)

/-- The rows of some people, one behind the other. -/
def rowsOf (people : List Person) : List UInt8 :=
  people.flatMap fun p => Rows.rowBytes p.row

/-- A writer with an unlimited medium takes everybody. -/
theorem rows_accepts {w : Writer} {bytes : List UInt8} (h : w.Holds bytes)
    (people : List Person) :
    ∃ v, Sink.rows.Accepts people w v ∧ v.Holds (bytes ++ rowsOf people) := by
  induction people generalizing w bytes with
  | nil => exact ⟨w, rfl, by simpa [rowsOf] using h⟩
  | cons p people ih =>
      obtain ⟨u, hrow, hu⟩ := Writer.putRow_of_holds h p.row
      have hemit : Sink.rows.emit p w = .ok () u := by
        simp only [Sink.rows, hrow]
      obtain ⟨v, hpeople, hv⟩ := ih hu
      exact ⟨v, ⟨u, hemit, hpeople⟩, by simpa [rowsOf] using hv⟩

end Populace.People
