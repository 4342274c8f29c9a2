import Populace.Rows.Writer

/-!
# Written rows are read back

The reader goes through the bytes of a field as the writer puts them, quotes and all, and
has the field in hand behind them (`run_field`). It is back in front of a row behind each
row's line end, so rows are read as they were written (`finished_rows`). The one row that
would be lost is that of a single empty field, which is an empty line.
-/

namespace Populace.Rows

/-- The bytes of a field. -/
def fieldBytes (f : Field) : List UInt8 := (fieldPieces f).flatten

theorem fieldBytes_plain {f : Field} (h : f.any needsQuotes = false) : fieldBytes f = f := by
  rw [fieldBytes, fieldPieces, h, if_neg (by decide)]
  induction f with
  | nil => rfl
  | cons b f ih =>
      rw [List.any_cons, Bool.or_eq_false_iff] at h
      rw [List.map_cons, List.flatten_cons, ih h.2, List.singleton_append]

theorem fieldBytes_quoted {f : Field} (h : f.any needsQuotes = true) :
    fieldBytes f = quote :: (f.flatMap quotedPiece ++ [quote]) := by
  rw [fieldBytes, fieldPieces, if_pos h]
  simp [List.flatMap]

theorem rowBytes_singleton (f : Field) : rowBytes [f] = fieldBytes f ++ [lineFeed] := by
  rw [rowBytes, rowPieces, List.flatten_append]
  rfl

theorem rowBytes_cons (f g : Field) (rest : Row) :
    rowBytes (f :: g :: rest) = fieldBytes f ++ comma :: rowBytes (g :: rest) := by
  rw [rowBytes, rowPieces, List.flatten_append]
  · rfl
  · simp

namespace Scan

variable {s : Scan} {b : UInt8}

theorem run_append (delimiter : UInt8) (s : Scan) (front back : List UInt8) :
    s.run delimiter (front ++ back) = (s.run delimiter front).run delimiter back :=
  List.foldl_append

theorem run_cons (delimiter : UInt8) (s : Scan) (b : UInt8) (bytes : List UInt8) :
    s.run delimiter (b :: bytes) = (s.step delimiter b).run delimiter bytes := rfl

/-! ## One byte -/

/-- A byte that needs no quotes belongs to the field. -/
theorem step_plain (hb : needsQuotes b = false) (hq : s.place ≠ .quoted)
    (hbehind : s.place ≠ .behindQuote) : s.step comma b = s.keep .plain b := by
  simp only [needsQuotes, Bool.or_eq_false_iff, beq_eq_false_iff_ne] at hb
  obtain ⟨⟨hquote, hcomma⟩, hends⟩ := hb
  have hplain : s.stepPlain comma b = s.keep .plain b := by
    rw [stepPlain, if_neg hcomma, hends, if_neg (by decide)]
  unfold step
  cases h : s.place with
  | rowStart => rw [hends, if_neg (by decide), if_neg hquote, hplain]
  | fieldStart => rw [if_neg hquote, hplain]
  | plain => exact hplain
  | quoted => exact absurd h hq
  | behindQuote => exact absurd h hbehind

/-- Outside quotes a comma ends the field. -/
theorem step_comma (hq : s.place ≠ .quoted) : s.step comma comma = s.endField := by
  have hplain : s.stepPlain comma comma = s.endField := if_pos rfl
  unfold step
  cases h : s.place with
  | quoted => exact absurd h hq
  | _ => exact hplain

/-- Outside quotes a line end ends the row, if one has begun. -/
theorem step_lineFeed (hq : s.place ≠ .quoted) (hstart : s.place ≠ .rowStart) :
    s.step comma lineFeed = s.endRow := by
  have hplain : s.stepPlain comma lineFeed = s.endRow := by
    rw [stepPlain, if_neg (by decide), if_pos (by decide)]
  unfold step
  cases h : s.place with
  | rowStart => exact absurd h hstart
  | quoted => exact absurd h hq
  | _ => exact hplain

/-! ## One field -/

/-- Bytes without a meaning of their own are kept. -/
theorem run_plain {f : Field} (h : f.any needsQuotes = false) (hne : f ≠ [])
    (hq : s.place ≠ .quoted) (hbehind : s.place ≠ .behindQuote) :
    s.run comma f = ⟨.plain, f.reverse ++ s.field, s.fields, s.rows⟩ := by
  induction f generalizing s with
  | nil => exact absurd rfl hne
  | cons b f ih =>
      rw [List.any_cons, Bool.or_eq_false_iff] at h
      rw [run_cons, step_plain h.1 hq hbehind]
      by_cases hf : f = []
      · subst hf
        rfl
      · rw [ih h.2 hf (by simp [keep]) (by simp [keep])]
        simp [keep]

/-- A byte between quotes is kept, whether it had to be doubled or not. -/
theorem run_quotedPiece (hq : s.place = .quoted) (b : UInt8) :
    s.run comma (quotedPiece b) = s.keep .quoted b := by
  obtain ⟨place, field, fields, rows⟩ := s
  cases hq
  rw [quotedPiece]
  by_cases hb : b = quote
  · rw [if_pos hb, hb]
    rfl
  · rw [if_neg hb]
    rw [run_cons]
    simp [step, hb, run]

theorem run_quotedPieces (hq : s.place = .quoted) (f : Field) :
    s.run comma (f.flatMap quotedPiece) = ⟨.quoted, f.reverse ++ s.field, s.fields, s.rows⟩ := by
  induction f generalizing s with
  | nil =>
      obtain ⟨place, field, fields, rows⟩ := s
      cases hq
      rfl
  | cons b f ih =>
      rw [List.flatMap_cons, run_append, run_quotedPiece hq, ih rfl]
      simp [keep]

/-- Behind the bytes of a field the reader has the field in hand and is outside quotes. It
is in front of a row only if it was, and the field is empty. -/
theorem run_field {place : Place} (hplace : place = .rowStart ∨ place = .fieldStart)
    (f : Field) (fields : List Field) (rows : List Row) :
    ∃ behind, run comma ⟨place, [], fields, rows⟩ (fieldBytes f)
        = ⟨behind, f.reverse, fields, rows⟩
      ∧ behind ≠ .quoted ∧ (behind = .rowStart → place = .rowStart ∧ f = []) := by
  by_cases h : f.any needsQuotes
  · refine ⟨.behindQuote, ?_, by decide, by simp⟩
    have hopen : step comma ⟨place, [], fields, rows⟩ quote = ⟨.quoted, [], fields, rows⟩ := by
      rcases hplace with rfl | rfl <;> rfl
    rw [fieldBytes_quoted h, run_cons, hopen, run_append, run_quotedPieces rfl]
    simp only [List.append_nil]
    rfl
  · have hnone : f.any needsQuotes = false := by simpa using h
    rw [fieldBytes_plain hnone]
    by_cases hf : f = []
    · subst hf
      refine ⟨place, rfl, ?_, fun hstart => ⟨hstart, rfl⟩⟩
      rcases hplace with rfl | rfl <;> decide
    · refine ⟨.plain, ?_, by decide, by simp⟩
      rw [run_plain hnone hf] <;> rcases hplace with rfl | rfl <;> simp

/-! ## One row, and all rows -/

/-- Behind a row the reader has read it and is in front of a row again. -/
theorem run_row {r : Row} (hr : r ≠ []) {place : Place}
    (hplace : place = .fieldStart ∨ place = .rowStart ∧ r ≠ [[]])
    (fields : List Field) (rows : List Row) :
    run comma ⟨place, [], fields, rows⟩ (rowBytes r)
      = ⟨.rowStart, [], [], (fields.reverse ++ r) :: rows⟩ := by
  induction r generalizing place fields with
  | nil => exact absurd rfl hr
  | cons f rest ih =>
      obtain ⟨behind, hfield, hq, hstart⟩ :=
        run_field (hplace.elim .inr fun h => .inl h.1) f fields rows
      cases rest with
      | nil =>
          have hbegun : behind ≠ .rowStart := by
            intro h
            obtain ⟨rfl, rfl⟩ := hstart h
            rcases hplace with h | ⟨-, h⟩
            · cases h
            · exact h rfl
          rw [rowBytes_singleton, run_append, hfield, run_cons, step_lineFeed hq hbegun]
          show endRow _ = _
          simp [endRow]
      | cons g rest =>
          -- behind the comma the rest of the row follows
          rw [rowBytes_cons, run_append, hfield, run_cons, step_comma hq]
          show run comma ⟨.fieldStart, [], f.reverse.reverse :: fields, rows⟩ _ = _
          rw [ih (by simp) (.inl rfl)]
          simp

theorem run_rows {rows : List Row} (h : ∀ r ∈ rows, r ≠ [] ∧ r ≠ [[]]) (done : List Row) :
    run comma ⟨.rowStart, [], [], done⟩ (rows.flatMap rowBytes)
      = ⟨.rowStart, [], [], rows.reverse ++ done⟩ := by
  induction rows generalizing done with
  | nil => rfl
  | cons r rows ih =>
      obtain ⟨hr, hempty⟩ := h r (by simp)
      rw [List.flatMap_cons, run_append, run_row hr (.inr ⟨rfl, hempty⟩),
        ih fun r' hr' => h r' (by simp [hr'])]
      simp

end Scan

theorem withoutMark_of_plain {b : UInt8} (h : b < 0x80) (bytes : List UInt8) :
    withoutMark (b :: bytes) = b :: bytes := by
  have hb : b ≠ 0xEF := by
    rintro rfl
    exact absurd h (by decide)
  unfold withoutMark
  split
  · rename_i heq
    exact absurd (List.cons.inj heq).1 hb
  · rfl

/-- Rows that are written one behind the other are read back, unless the first begins with
what looks like a byte order mark. -/
theorem finished_rows {rows : List Row} (h : ∀ r ∈ rows, r ≠ [] ∧ r ≠ [[]])
    (hmark : withoutMark (rows.flatMap rowBytes) = rows.flatMap rowBytes) :
    (scan comma (rows.flatMap rowBytes)).finished = rows := by
  rw [scan, hmark, Scan.start, Scan.run_rows h]
  simp [Scan.finished, Scan.complete]

/-- A field without blanks is left as it is. -/
theorem Field.trimmed_of_no_blank {f : Field} (h : ∀ b ∈ f, isBlank b = false) :
    f.trimmed = f := by
  have hkeep : ∀ g : Field, (∀ b ∈ g, isBlank b = false) → g.dropWhile isBlank = g := by
    intro g hg
    cases g with
    | nil => rfl
    | cons b g => rw [List.dropWhile_cons_of_neg (by simp [hg b])]
  rw [Field.trimmed, hkeep f h, hkeep f.reverse (by simpa using h), List.reverse_reverse]

end Populace.Rows
