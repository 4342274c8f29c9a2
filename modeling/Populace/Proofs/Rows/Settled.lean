import Populace.Proofs.Rows.Boundaries
import Populace.Proofs.Rows.Plain

/-!
# Rows that nothing can change

Rows are settled by some bytes if every file that begins with these bytes begins with these
rows. The rows that have come to their end are settled, since reading on only adds to them;
and no other row is, since a row that has begun is another one if a letter follows
(`settled_iff`).
-/

namespace Populace.Rows

/-- The rows of a file, with their fields trimmed. -/
def fileRows (delimiter : UInt8) (bytes : List UInt8) : List Row :=
  (scan delimiter bytes).finished.map Row.trimmed

/-- Every file that begins with these bytes begins with these rows. -/
def Settled (delimiter : UInt8) (bytes : List UInt8) (rows : List Row) : Prop :=
  ∀ rest, rows <+: fileRows delimiter (bytes ++ rest)

/-- The rows that have come to their end in these bytes, with their fields trimmed. -/
def endedRows (delimiter : UInt8) (bytes : List UInt8) : List Row :=
  (scan delimiter bytes).complete.map Row.trimmed

variable {delimiter b : UInt8} {bytes : List UInt8} {rows : List Row}

/-! ## Reading on -/

namespace Scan

variable {s : Scan}

/-- Reading on leaves the rows that have been read. -/
theorem rows_suffix_run (delimiter : UInt8) (s : Scan) (bytes : List UInt8) :
    s.rows <:+ (s.run delimiter bytes).rows := by
  induction bytes generalizing s with
  | nil => exact List.suffix_rfl
  | cons b bytes ih =>
      rw [run_cons]
      refine List.IsSuffix.trans ?_ (ih (s.step delimiter b))
      rcases step_cases delimiter s b with ⟨-, hs⟩ | ⟨-, -, hs⟩ | hs | ⟨place, -, hs | hs⟩
      case inr.inl => exact ⟨[s.underway], (congrArg rows hs).symm⟩
      all_goals exact ⟨[], (congrArg rows hs).symm⟩

/-- Without line ends no row comes to its end. -/
theorem rows_run_of_open (hopen : ∀ b ∈ bytes, endsRow b = false) :
    (s.run delimiter bytes).rows = s.rows := by
  induction bytes generalizing s with
  | nil => rfl
  | cons b bytes ih =>
      have hb : endsRow b = false := hopen b (by simp)
      rw [run_cons, ih fun c hc => hopen c (by simp [hc])]
      rcases step_cases delimiter s b with ⟨-, hs⟩ | ⟨-, hend, -⟩ | hs | ⟨place, -, hs | hs⟩
      case inr.inl =>
        rw [hb] at hend
        cases hend
      all_goals rw [hs]
      all_goals rfl

theorem complete_prefix_finished (s : Scan) : s.complete <+: s.finished := by
  rw [finished]
  split
  · exact List.prefix_rfl
  · rw [complete, complete, endRow, List.reverse_cons]
    exact List.prefix_append _ _

theorem complete_prefix_run (delimiter : UInt8) (s : Scan) (bytes : List UInt8) :
    s.complete <+: (s.run delimiter bytes).complete :=
  List.reverse_prefix.2 (rows_suffix_run delimiter s bytes)

/-- A row that has begun is the last one if nothing follows. -/
theorem finished_of_underway (h : s.place ≠ .rowStart) :
    s.finished = s.complete ++ [s.underway] := by
  rw [finished, if_neg h, complete, endRow, List.reverse_cons]
  rfl

/-- A letter is a part of the field that has begun, in quotes or not. -/
theorem step_letter (hdelimiter : b ≠ delimiter)
    (hquote : b ≠ quote) (hend : endsRow b = false) :
    ∃ place, place ≠ .rowStart ∧ s.step delimiter b = s.keep place b := by
  by_cases hq : s.place = .quoted
  · exact ⟨.quoted, by decide, step_quoted hq hquote⟩
  · refine ⟨.plain, by decide, ?_⟩
    rw [step_outside hq (.inr hquote) hend, stepPlain, if_neg hdelimiter, if_neg (by simp [hend])]

end Scan

/-! ## Byte order marks -/

/-- A byte order mark in front is there however the text goes on, unless the text is only
the beginning of one. -/
theorem withoutMark_append (bytes rest : List UInt8) :
    withoutMark (bytes ++ rest) = withoutMark bytes ++ rest
      ∨ bytes <+: byteOrderMark ∧ ¬ byteOrderMark <+: bytes := by
  by_cases hmark : byteOrderMark <+: bytes
  · obtain ⟨text, rfl⟩ := hmark
    exact .inl rfl
  · by_cases hall : byteOrderMark <+: bytes ++ rest
    · rcases List.prefix_or_prefix_of_prefix hall (List.prefix_append bytes rest) with h | h
      · exact absurd h hmark
      · exact .inr ⟨h, hmark⟩
    · rw [withoutMark_of_unmarked hmark, withoutMark_of_unmarked hall]
      exact .inl rfl

/-- One more byte is read behind the others, unless it is the last one of a byte order
mark. -/
theorem scan_concat (bytes : List UInt8) (hb : b ∉ byteOrderMark) :
    scan delimiter (bytes ++ [b]) = (scan delimiter bytes).step delimiter b := by
  have hmark : withoutMark (bytes ++ [b]) = withoutMark bytes ++ [b] := by
    rcases withoutMark_append bytes [b] with h | ⟨-, hnone⟩
    · exact h
    · rw [withoutMark_of_unmarked hnone, withoutMark_of_unmarked (unmarked_insert hnone hb [])]
  rw [scan, hmark, Scan.run_append]
  rfl

/-- No row comes to its end in the beginning of a byte order mark. -/
theorem complete_of_mark (h : bytes <+: byteOrderMark) (hnone : ¬ byteOrderMark <+: bytes) :
    (scan delimiter bytes).complete = [] := by
  have hopen : ∀ b ∈ bytes, endsRow b = false := by
    intro b hb
    exact Bool.eq_false_iff.2 fun hend => not_mem_byteOrderMark hend (h.subset hb)
  rw [scan, withoutMark_of_unmarked hnone, Scan.complete, Scan.rows_run_of_open hopen]
  rfl

theorem complete_prefix_scan (delimiter : UInt8) (bytes rest : List UInt8) :
    (scan delimiter bytes).complete <+: (scan delimiter (bytes ++ rest)).complete := by
  rcases withoutMark_append bytes rest with h | ⟨h, hnone⟩
  · rw [scan, scan, h, Scan.run_append]
    exact Scan.complete_prefix_run _ _ _
  · rw [complete_of_mark h hnone]
    exact List.nil_prefix

theorem endedRows_prefix_append (delimiter : UInt8) (bytes rest : List UInt8) :
    endedRows delimiter bytes <+: endedRows delimiter (bytes ++ rest) :=
  (complete_prefix_scan delimiter bytes rest).map _

theorem endedRows_prefix_fileRows (delimiter : UInt8) (bytes : List UInt8) :
    endedRows delimiter bytes <+: fileRows delimiter bytes :=
  (Scan.complete_prefix_finished _).map _

theorem ne_nil_of_fileRow {row : Row} (h : row ∈ fileRows delimiter bytes) : row ≠ [] := by
  obtain ⟨r, hr, rfl⟩ := List.mem_map.1 h
  simpa [Row.trimmed] using ne_nil_of_finished hr

theorem settled_of_ended (h : rows <+: endedRows delimiter bytes) :
    Settled delimiter bytes rows :=
  fun rest => h.trans <|
    (endedRows_prefix_append delimiter bytes rest).trans (endedRows_prefix_fileRows _ _)

/-! ## A row under way -/

/-- There is a letter, whatever the delimiter is. -/
theorem exists_letter (delimiter : UInt8) :
    ∃ b, b ≠ delimiter ∧ b ≠ quote ∧ b ∉ byteOrderMark ∧ endsRow b = false
      ∧ isBlank b = false := by
  by_cases h : delimiter = 0x78
  · exact ⟨0x79, by rw [h]; decide, by decide⟩
  · exact ⟨0x78, Ne.symm h, by decide⟩

/-- A letter at the end of a field stays there, and leaves what is before it but for blanks
in front. -/
theorem trimmed_concat (hb : isBlank b = false) (f : Field) :
    Field.trimmed (f ++ [b]) = f.dropWhile isBlank ++ [b] := by
  have hfront : (f ++ [b]).dropWhile isBlank = f.dropWhile isBlank ++ [b] := by
    rw [List.dropWhile_append]
    split
    · rename_i hnil
      rw [List.isEmpty_iff.1 hnil, List.dropWhile_cons_of_neg (by simp [hb])]
      rfl
    · rfl
  rw [Field.trimmed, hfront, List.reverse_append, List.reverse_singleton, List.singleton_append,
    List.dropWhile_cons_of_neg (by simp [hb]), List.reverse_cons, List.reverse_reverse]

theorem trimmed_concat_ne (hb : isBlank b = false) (f : Field) :
    Field.trimmed (f ++ [b]) ≠ Field.trimmed f := by
  intro heq
  have hlength := congrArg List.length heq
  have hle : (Field.trimmed f).length ≤ (f.dropWhile isBlank).length := by
    rw [Field.trimmed, List.length_reverse]
    exact Nat.le_trans (List.dropWhile_suffix _).length_le (Nat.le_of_eq List.length_reverse)
  rw [trimmed_concat hb, List.length_append, List.length_singleton] at hlength
  omega

/-- A row that has begun has a longer last field if a letter follows. -/
theorem trimmed_underway_ne {s : Scan} (hb : isBlank b = false) (place : Place) :
    (s.keep place b).underway.trimmed ≠ s.underway.trimmed := by
  intro heq
  have hlast := congrArg List.getLast? heq
  simp only [Scan.underway, Scan.keep, Row.trimmed, List.reverse_cons, List.map_append,
    List.map_cons, List.map_nil, List.getLast?_append, List.getLast?_singleton, Option.some_or,
    Option.some.injEq] at hlast
  exact trimmed_concat_ne hb _ hlast

theorem fileRows_of_underway (hplace : (scan delimiter bytes).place ≠ .rowStart) :
    fileRows delimiter bytes
      = endedRows delimiter bytes ++ [(scan delimiter bytes).underway.trimmed] := by
  rw [fileRows, Scan.finished_of_underway hplace, List.map_append, endedRows]
  rfl

/-- Rows are settled by some bytes if and only if they have come to their end there. -/
theorem settled_iff : Settled delimiter bytes rows ↔ rows <+: endedRows delimiter bytes := by
  refine ⟨fun h => ?_, settled_of_ended⟩
  have hnow := h []
  rw [List.append_nil] at hnow
  by_cases hplace : (scan delimiter bytes).place = .rowStart
  · rwa [fileRows, Scan.finished, if_pos hplace] at hnow
  · obtain ⟨b, hdelimiter, hquote, hmark, hend, hblank⟩ := exists_letter delimiter
    -- with a letter behind it the row that has begun is another one
    obtain ⟨place, hstarted, hstep⟩ :=
      Scan.step_letter (s := scan delimiter bytes) hdelimiter hquote hend
    have hscan : scan delimiter (bytes ++ [b]) = (scan delimiter bytes).keep place b :=
      (scan_concat bytes hmark).trans hstep
    have hended : endedRows delimiter (bytes ++ [b]) = endedRows delimiter bytes := by
      rw [endedRows, hscan]
      rfl
    have hlater := h [b]
    rw [fileRows_of_underway (by rw [hscan]; exact hstarted), hended, hscan] at hlater
    rw [fileRows_of_underway hplace] at hnow
    rcases List.prefix_concat_iff.1 hnow with hrows | hrows
    · rcases List.prefix_concat_iff.1 hlater with hrows' | hrows'
      · have hsame := List.append_inj_right' (hrows'.symm.trans hrows) rfl
        exact absurd (List.singleton_inj.1 hsame) (trimmed_underway_ne hblank place)
      · exact hrows'
    · exact hrows

end Populace.Rows
