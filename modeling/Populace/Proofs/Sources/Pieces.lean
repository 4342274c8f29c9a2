import Populace.Proofs.Rows.Plain
import Populace.Sources.Stream

/-!
# Streams and the pieces in which they come

Where one piece of a stream ends and the next one begins makes no difference, but for a byte
order mark at the beginning. If the first piece is a mark and nothing else, then all the rest
goes unread, and so does a break; and if the mark is cut, so that the first piece ends within
it, it is no mark but text. So each stream is read as some file (`Stream.readAs`), and
nearly always as its own bytes (`readAs_of_ordinary`).
-/

namespace Populace.Sources

open Populace.Rows (Row byteOrderMark withoutMark)

variable {α : Type} {delimiter : UInt8} {s : Stream}

theorem pieces_atOnce (bytes : List UInt8) :
    (Pieces.atOnce bytes).pieces = if bytes = [] then [] else [bytes] := by
  cases bytes <;> rfl

theorem ne_nil_of_piece {piece : List UInt8} (h : piece ∈ s.pieces) : piece ≠ [] :=
  s.content.filled piece h

namespace Stream

@[simp] theorem bytes_whole (bytes : List UInt8) : (whole bytes).bytes = bytes := by
  rw [Stream.bytes, Stream.pieces, whole, pieces_atOnce]
  split
  · rename_i hnil
    exact hnil.symm
  · exact List.flatten_singleton

theorem first_begins {piece : List UInt8} (h : piece ∈ s.pieces.head?) : piece <+: s.bytes := by
  obtain ⟨rest, hpieces⟩ := List.head?_eq_some_iff.1 h
  rw [Stream.bytes, hpieces, List.flatten_cons]
  exact List.prefix_append _ _

/-! ## Marks -/

/-- The first piece is a byte order mark and nothing else. -/
def MarkAlone (s : Stream) : Prop :=
  s.pieces.head? = some byteOrderMark

/-- The stream begins with a byte order mark, of which not all is in the first piece. -/
def CutsMark (s : Stream) : Prop :=
  byteOrderMark <+: s.bytes ∧ ∀ piece ∈ s.pieces.head?, ¬ byteOrderMark <+: piece

instance (s : Stream) : Decidable s.MarkAlone :=
  inferInstanceAs (Decidable (s.pieces.head? = some byteOrderMark))

instance (s : Stream) : Decidable s.CutsMark :=
  inferInstanceAs (Decidable (_ ∧ ∀ piece ∈ s.pieces.head?, ¬ byteOrderMark <+: piece))

theorem not_cutsMark_of_alone (h : s.MarkAlone) : ¬ s.CutsMark := by
  rintro ⟨-, hcut⟩
  exact hcut byteOrderMark h List.prefix_rfl

/-- Without a byte order mark in front there is none alone, and none is cut. -/
theorem ordinary_of_unmarked (h : ¬ byteOrderMark <+: s.bytes) :
    ¬ s.MarkAlone ∧ ¬ s.CutsMark :=
  ⟨fun halone => h (first_begins halone), fun hcut => h hcut.1⟩

/-! ## What is read -/

/-- The file as which a stream is read. -/
def readAs (s : Stream) : List UInt8 :=
  if s.MarkAlone then byteOrderMark
  else if s.CutsMark then byteOrderMark ++ s.bytes
  else s.bytes

/-- The break that is noticed. -/
def break? (s : Stream) : Option Failure :=
  if s.MarkAlone then none else s.broken

theorem readAs_of_alone (h : s.MarkAlone) : s.readAs = byteOrderMark :=
  if_pos h

theorem readAs_of_cut (h : s.CutsMark) : s.readAs = byteOrderMark ++ s.bytes := by
  rw [readAs, if_neg fun halone => not_cutsMark_of_alone halone h, if_pos h]

theorem readAs_of_ordinary (halone : ¬ s.MarkAlone) (hcut : ¬ s.CutsMark) :
    s.readAs = s.bytes := by
  rw [readAs, if_neg halone, if_neg hcut]

theorem break?_of_alone (h : s.MarkAlone) : s.break? = none := if_pos h

theorem break?_of_more (h : ¬ s.MarkAlone) : s.break? = s.broken := if_neg h

theorem break?_of_unbroken (h : s.broken = none) : s.break? = none := by
  rw [break?]
  split
  · rfl
  · exact h

theorem broken_of_break? {cause : Failure} (h : s.break? = some cause) :
    s.broken = some cause := by
  rw [break?] at h
  split at h
  · cases h
  · exact h

/-- What comes at once is read as it is. -/
@[simp] theorem readAs_whole (bytes : List UInt8) : (whole bytes).readAs = bytes := by
  by_cases halone : (whole bytes).MarkAlone
  · rw [readAs_of_alone halone]
    rw [MarkAlone, Stream.pieces, whole, pieces_atOnce] at halone
    split at halone
    · cases halone
    · exact (Option.some.inj halone).symm
  · refine (readAs_of_ordinary halone ?_).trans (bytes_whole bytes)
    rintro ⟨hmark, hcut⟩
    rw [bytes_whole] at hmark
    refine hcut bytes ?_ hmark
    rw [Stream.pieces, whole, pieces_atOnce, if_neg]
    · rfl
    · rintro rfl
      cases List.prefix_nil.1 hmark

/-! ## Piece by piece -/

theorem scanPieces_of_filled {pieces : List (List UInt8)} (h : ∀ piece ∈ pieces, piece ≠ [])
    (broken : Option Failure) (scan : Rows.Scan) :
    scanPieces delimiter broken scan pieces = (scan.run delimiter pieces.flatten, broken) := by
  induction pieces generalizing scan with
  | nil => rfl
  | cons piece rest ih =>
      cases piece with
      | nil => exact absurd rfl (h [] (by simp))
      | cons b bytes =>
          have hstep : scanPieces delimiter broken scan ((b :: bytes) :: rest)
              = scanPieces delimiter broken (scan.run delimiter (b :: bytes)) rest := rfl
          rw [hstep, ih fun piece hpiece => h piece (by simp [hpiece]), List.flatten_cons,
            Rows.Scan.run_append]

/-- A first piece without a mark in front is gone over like the others. -/
theorem scan_of_unmarked_first (h : ∀ piece ∈ s.pieces.head?, ¬ byteOrderMark <+: piece) :
    s.scan delimiter = (Rows.Scan.start.run delimiter s.bytes, s.broken) := by
  have hall : s.pieces.modifyHead withoutMark = s.pieces := by
    cases hpieces : s.pieces with
    | nil => rfl
    | cons piece rest =>
        rw [hpieces] at h
        rw [List.modifyHead_cons, Rows.withoutMark_of_unmarked (h piece rfl)]
  rw [Stream.scan, hall, scanPieces_of_filled fun piece => ne_nil_of_piece, Stream.bytes]

/-- Behind a mark that has something behind it in its piece all goes on as in a file. -/
theorem scan_of_marked_first {text : List UInt8} {rest : List (List UInt8)}
    (h : s.pieces = (byteOrderMark ++ text) :: rest) (htext : text ≠ []) :
    s.scan delimiter = (Rows.scan delimiter s.bytes, s.broken) := by
  have hfilled : ∀ piece ∈ text :: rest, piece ≠ [] := by
    refine List.forall_mem_cons.2 ⟨htext, fun piece hpiece => ne_nil_of_piece (s := s) ?_⟩
    rw [h]
    exact List.mem_cons_of_mem _ hpiece
  have hbytes : s.bytes = byteOrderMark ++ (text ++ rest.flatten) := by
    rw [Stream.bytes, h, List.flatten_cons, List.append_assoc]
  rw [Stream.scan, h, hbytes]
  exact scanPieces_of_filled hfilled _ _

/-- A stream is gone over as the file that it is read as. -/
theorem scan_eq (delimiter : UInt8) (s : Stream) :
    s.scan delimiter = (Rows.scan delimiter s.readAs, s.break?) := by
  by_cases halone : s.MarkAlone
  · -- the mark is left out, and nothing is there any more
    obtain ⟨rest, hpieces⟩ := List.head?_eq_some_iff.1 halone
    rw [readAs_of_alone halone, break?_of_alone halone, Stream.scan, hpieces]
    rfl
  · rw [break?_of_more halone]
    by_cases hcut : s.CutsMark
    · rw [readAs_of_cut hcut]
      exact scan_of_unmarked_first hcut.2
    · rw [readAs_of_ordinary halone hcut]
      by_cases hmark : byteOrderMark <+: s.bytes
      · -- the mark is not cut, so it is in the first piece, and not alone there
        have hwhole : ∃ piece ∈ s.pieces.head?, byteOrderMark <+: piece :=
          Classical.byContradiction fun hnone =>
            hcut ⟨hmark, fun piece hpiece hfirst => hnone ⟨piece, hpiece, hfirst⟩⟩
        obtain ⟨_, hhead, text, rfl⟩ := hwhole
        obtain ⟨rest, hpieces⟩ := List.head?_eq_some_iff.1 hhead
        refine scan_of_marked_first hpieces ?_
        rintro rfl
        exact halone hhead
      · have hfirst : ∀ piece ∈ s.pieces.head?, ¬ byteOrderMark <+: piece :=
          fun piece hpiece hbegins => hmark (hbegins.trans (first_begins hpiece))
        rw [scan_of_unmarked_first hfirst, Rows.scan, Rows.withoutMark_of_unmarked hmark]

end Stream

/-! ## Reading rows -/

section Rows

variable {read : α → Row → Except Failure α} (acc : α)

/-- Where no break is noticed all rows are read. -/
theorem foldRows_of_unnoticed (h : s.break? = none) :
    s.foldRows delimiter read acc
      = foldRows read 1 acc ((Rows.scan delimiter s.readAs).finished.map Row.trimmed) := by
  rw [Stream.foldRows, Stream.scan_eq, h]

/-- Where a break is noticed reading fails, for a row that has come to its end or for the
break. -/
theorem foldRows_of_noticed {cause : Failure} (h : s.break? = some cause) :
    s.foldRows delimiter read acc
      = foldRows read 1 acc ((Rows.scan delimiter s.readAs).complete.map Row.trimmed)
        >>= fun _ => .error cause.brief := by
  rw [Stream.foldRows, Stream.scan_eq, h]
  dsimp only
  cases foldRows read 1 acc ((Rows.scan delimiter s.readAs).complete.map Row.trimmed) <;> rfl

theorem foldRows_whole (bytes : List UInt8) :
    (Stream.whole bytes).foldRows delimiter read acc
      = foldRows read 1 acc ((Rows.scan delimiter bytes).finished.map Row.trimmed) := by
  rw [foldRows_of_unnoticed acc (Stream.break?_of_unbroken rfl), Stream.readAs_whole]

/-- Without a byte order mark in front, a stream that does not break off might as well come
at once. -/
theorem foldRows_of_unmarked (hs : s.broken = none) (hmark : ¬ byteOrderMark <+: s.bytes) :
    s.foldRows delimiter read acc = (Stream.whole s.bytes).foldRows delimiter read acc := by
  obtain ⟨halone, hcut⟩ := Stream.ordinary_of_unmarked hmark
  rw [foldRows_of_unnoticed acc (Stream.break?_of_unbroken hs),
    Stream.readAs_of_ordinary halone hcut, foldRows_whole]

end Rows

end Populace.Sources
