import Populace.Proofs.Rows.Quotes

/-!
# Between rows

Behind a line that leaves no quotes open the reader is where it was before the first byte,
but for the rows that it has read. So the rows of a text are those of its lines one behind
the other (`rowsIn_append`, `place_of_lines`). A row that has begun goes on to the first
line end outside quotes, or to the end of the text (`exists_row_end`), and begins as it
has begun.
-/

namespace Populace.Rows

/-- The rows of a text without a byte order mark. -/
def rowsIn (delimiter : UInt8) (bytes : List UInt8) : List Row :=
  (Scan.start.run delimiter bytes).finished

/-- The row's first field begins with the byte. -/
def BeginsWith (c : UInt8) (row : Row) : Prop :=
  ∃ f more, row = (c :: f) :: more

/-- What ends a line. -/
def IsLineEnd (bytes : List UInt8) : Prop :=
  bytes = [lineFeed] ∨ bytes = [carriageReturn] ∨ bytes = [carriageReturn, lineFeed]

/-- A line of its own, with its end: no quotes are open there. -/
def IsLine (delimiter : UInt8) (line : List UInt8) : Prop :=
  ∃ body ending, line = body ++ ending ∧ (∀ b ∈ body, endsRow b = false)
    ∧ IsLineEnd ending ∧ ¬ LeavesOpen delimiter body

theorem BeginsWith.append {c : UInt8} {row : Row} (h : BeginsWith c row) (more : Row) :
    BeginsWith c (row ++ more) := by
  obtain ⟨f, fields, rfl⟩ := h
  exact ⟨f, fields ++ more, rfl⟩

/-- A longer last field changes nothing about the beginning. -/
theorem BeginsWith.lengthen {c : UInt8} {front : Row} {f : Field}
    (h : BeginsWith c (front ++ [f])) (b : UInt8) : BeginsWith c (front ++ [f ++ [b]]) := by
  obtain ⟨g, more, heq⟩ := h
  cases front with
  | nil =>
      cases heq
      exact ⟨g ++ [b], [], rfl⟩
  | cons first front =>
      cases heq
      exact ⟨g, _, rfl⟩

namespace Scan

variable {delimiter b c : UInt8} {s : Scan} {bytes : List UInt8}

/-- The row that has begun, as far as it goes. -/
def underway (s : Scan) : Row :=
  (s.field.reverse :: s.fields).reverse

/-- The reader with other rows in front of those that it has read. -/
def behind (rows : List Row) (s : Scan) : Scan :=
  { s with rows := s.rows ++ rows }

/-! ## One byte -/

/-- Outside quotes a byte ends the field or the row, or belongs to the field. -/
theorem stepPlain_cases (delimiter : UInt8) (s : Scan) (b : UInt8) :
    (endsRow b = true ∧ s.stepPlain delimiter b = s.endRow)
      ∨ s.stepPlain delimiter b = s.endField
      ∨ s.stepPlain delimiter b = s.keep .plain b := by
  rw [stepPlain]
  split
  · exact .inr (.inl rfl)
  · split
    · rename_i hend
      exact .inl ⟨hend, rfl⟩
    · exact .inr (.inr rfl)

/-- A byte is an empty line, ends the row or the field, or is a part of the field or of its
quotes. -/
theorem step_cases (delimiter : UInt8) (s : Scan) (b : UInt8) :
    (s.place = .rowStart ∧ s.step delimiter b = s)
      ∨ (s.place ≠ .quoted ∧ endsRow b = true ∧ s.step delimiter b = s.endRow)
      ∨ s.step delimiter b = s.endField
      ∨ ∃ place, place ≠ .rowStart
        ∧ (s.step delimiter b = { s with place } ∨ s.step delimiter b = s.keep place b) := by
  have hplain : s.place ≠ .quoted →
      (s.place ≠ .quoted ∧ endsRow b = true ∧ s.stepPlain delimiter b = s.endRow)
        ∨ s.stepPlain delimiter b = s.endField
        ∨ ∃ place, place ≠ .rowStart
          ∧ (s.stepPlain delimiter b = { s with place }
            ∨ s.stepPlain delimiter b = s.keep place b) := by
    intro hq
    rcases stepPlain_cases delimiter s b with ⟨hend, h⟩ | h | h
    · exact .inl ⟨hq, hend, h⟩
    · exact .inr (.inl h)
    · exact .inr (.inr ⟨.plain, by decide, .inr h⟩)
  unfold step
  cases hplace : s.place with
  | rowStart =>
      dsimp only
      split
      · exact .inl ⟨rfl, rfl⟩
      · split
        · exact .inr (.inr (.inr ⟨.quoted, by decide, .inl rfl⟩))
        · rw [hplace] at hplain
          exact .inr (hplain (by decide))
  | fieldStart =>
      dsimp only
      split
      · exact .inr (.inr (.inr ⟨.quoted, by decide, .inl rfl⟩))
      · rw [hplace] at hplain
        exact .inr (hplain (by decide))
  | plain =>
      rw [hplace] at hplain
      exact .inr (hplain (by decide))
  | quoted =>
      dsimp only
      split
      · exact .inr (.inr (.inr ⟨.behindQuote, by decide, .inl rfl⟩))
      · exact .inr (.inr (.inr ⟨.quoted, by decide, .inr rfl⟩))
  | behindQuote =>
      dsimp only
      split
      · exact .inr (.inr (.inr ⟨.quoted, by decide, .inr rfl⟩))
      · rw [hplace] at hplain
        exact .inr (hplain (by decide))

/-- Outside quotes a line end ends the row, if one has begun. -/
theorem step_end (hd : endsRow delimiter = false) (hend : endsRow b = true)
    (hq : s.place ≠ .quoted) :
    s.step delimiter b = if s.place = .rowStart then s else s.endRow := by
  have hquote : b ≠ quote := by
    rintro rfl
    cases hend
  have hdelimiter : b ≠ delimiter := by
    rintro rfl
    rw [hd] at hend
    cases hend
  have hplain : s.stepPlain delimiter b = s.endRow := by
    rw [stepPlain, if_neg hdelimiter, if_pos hend]
  unfold step
  cases hplace : s.place with
  | quoted => exact absurd hplace hq
  | _ => simp [hend, hquote, hplain]

/-- While a row is under way, a byte either ends it or leaves its beginning alone. -/
theorem step_underway (delimiter : UInt8) (hplace : s.place ≠ .rowStart) (b : UInt8) :
    (s.place ≠ .quoted ∧ endsRow b = true ∧ s.step delimiter b = s.endRow)
      ∨ (s.step delimiter b).place ≠ .rowStart ∧ (s.step delimiter b).rows = s.rows
        ∧ ∀ c, BeginsWith c s.underway → BeginsWith c (s.step delimiter b).underway := by
  rcases step_cases delimiter s b with ⟨hstart, -⟩ | hend | h | ⟨place, hp, h | h⟩
  · exact absurd hstart hplace
  · exact .inl hend
  · rw [h]
    refine .inr ⟨by simp [endField], rfl, fun c hc => ?_⟩
    have hlonger := hc.append [[]]
    simpa [underway, endField] using hlonger
  · rw [h]
    exact .inr ⟨hp, rfl, fun c hc => hc⟩
  · rw [h]
    refine .inr ⟨hp, rfl, fun c hc => ?_⟩
    rw [underway, List.reverse_cons] at hc ⊢
    have hlonger := hc.lengthen b
    simpa [keep] using hlonger

/-! ## In front of a row -/

/-- In front of a row nothing is in hand but the rows read. -/
def Idle (s : Scan) : Prop :=
  s.place = .rowStart → s = start.behind s.rows

theorem idle_start : start.Idle := fun _ => rfl

theorem Idle.step (h : s.Idle) (delimiter b : UInt8) : (s.step delimiter b).Idle := by
  rcases step_cases delimiter s b with ⟨-, hs⟩ | ⟨-, -, hs⟩ | hs | ⟨place, hp, hs | hs⟩
  · rwa [hs]
  · rw [hs]
    exact fun _ => rfl
  · rw [hs]
    intro hplace
    cases hplace
  · rw [hs]
    exact fun hplace => absurd hplace hp
  · rw [hs]
    exact fun hplace => absurd hplace hp

theorem Idle.run (h : s.Idle) (delimiter : UInt8) (bytes : List UInt8) :
    (s.run delimiter bytes).Idle := by
  induction bytes generalizing s with
  | nil => exact h
  | cons b bytes ih => exact ih (h.step delimiter b)

/-- The rows read before have no say in what is read next. -/
theorem step_behind (rows : List Row) (s : Scan) :
    (s.behind rows).step delimiter b = (s.step delimiter b).behind rows := by
  obtain ⟨place, field, fields, done⟩ := s
  -- no branch looks at the rows, and a row that ends goes in front of them
  cases place <;> simp only [step, stepPlain, behind, endField, endRow, keep] <;>
    repeat' split
  all_goals simp

theorem run_behind (rows : List Row) (s : Scan) :
    (s.behind rows).run delimiter bytes = (s.run delimiter bytes).behind rows := by
  induction bytes generalizing s with
  | nil => rfl
  | cons b bytes ih => rw [run_cons, run_cons, step_behind, ih]

theorem finished_behind (rows : List Row) (s : Scan) :
    (s.behind rows).finished = rows.reverse ++ s.finished := by
  rw [finished, finished, behind]
  by_cases hplace : s.place = .rowStart <;> simp [hplace, complete, endRow]

/-- Behind a text that ends in front of a row, the rest is read as if it stood alone. -/
theorem finished_run_of_idle (h : s.Idle) (hplace : s.place = .rowStart) :
    (s.run delimiter bytes).finished = s.complete ++ rowsIn delimiter bytes := by
  rw [h hplace, run_behind, finished_behind]
  simp [rowsIn, complete, start, behind]

/-- Every row has a field. -/
theorem rows_ne_nil (h : ∀ row ∈ s.rows, row ≠ []) :
    ∀ row ∈ (s.run delimiter bytes).rows, row ≠ [] := by
  induction bytes generalizing s with
  | nil => exact h
  | cons b bytes ih =>
      refine ih ?_
      rcases step_cases delimiter s b with ⟨-, hs⟩ | ⟨-, -, hs⟩ | hs | ⟨place, -, hs | hs⟩
      case inr.inl =>
        rw [hs]
        intro row hrow
        rcases List.mem_cons.1 hrow with rfl | hrow
        · simp
        · exact h row hrow
      all_goals rwa [hs]

theorem finished_ne_nil (h : ∀ row ∈ s.rows, row ≠ []) : ∀ row ∈ s.finished, row ≠ [] := by
  intro row hrow
  rw [finished] at hrow
  split at hrow
  · exact h row (List.mem_reverse.1 hrow)
  · rcases List.mem_cons.1 (List.mem_reverse.1 hrow) with rfl | hrow
    · simp
    · exact h row hrow

/-! ## The row under way -/

/-- Bytes that end no line leave a row under way with its beginning. -/
theorem run_open (hplace : s.place ≠ .rowStart) (hbegins : BeginsWith c s.underway)
    (hopen : ∀ b ∈ bytes, endsRow b = false) :
    (s.run delimiter bytes).place ≠ .rowStart ∧ (s.run delimiter bytes).rows = s.rows
      ∧ BeginsWith c (s.run delimiter bytes).underway := by
  induction bytes generalizing s with
  | nil => exact ⟨hplace, rfl, hbegins⟩
  | cons b bytes ih =>
      have hb : endsRow b = false := hopen b (by simp)
      rcases step_underway delimiter hplace b with ⟨-, hend, -⟩ | ⟨hplace', hrows, hkeeps⟩
      · rw [hb] at hend
        cases hend
      · rw [run_cons, ← hrows]
        exact ih hplace' (hkeeps c hbegins) fun x hx => hopen x (by simp [hx])

/-- The row under way is read, and behind it what is left of the text. If it is between
quotes, and no other quote follows, then nothing is left. -/
theorem exists_row_end (hplace : s.place ≠ .rowStart) (hbegins : BeginsWith c s.underway)
    (delimiter : UInt8) (bytes : List UInt8) :
    ∃ row rest, BeginsWith c row ∧ rest <:+ bytes
      ∧ (s.run delimiter bytes).finished = s.complete ++ row :: rowsIn delimiter rest
      ∧ (s.place = .quoted → quote ∉ bytes → rest = []) := by
  induction bytes generalizing s with
  | nil =>
      refine ⟨s.underway, [], hbegins, List.suffix_refl _, ?_, fun _ _ => rfl⟩
      show s.finished = _
      rw [finished, if_neg hplace]
      simp [complete, endRow, underway, rowsIn, start, run, finished]
  | cons b bytes ih =>
      rw [run_cons]
      rcases step_underway delimiter hplace b with ⟨hq, -, hend⟩ | ⟨hplace', hrows, hkeeps⟩
      · refine ⟨s.underway, bytes, hbegins, List.suffix_cons b bytes, ?_, fun h => absurd h hq⟩
        have hidle : s.endRow.Idle := fun _ => rfl
        rw [hend, finished_run_of_idle hidle rfl]
        simp [complete, endRow, underway]
      · obtain ⟨row, rest, hrow, hrest, hfinished, hquoted⟩ := ih hplace' (hkeeps c hbegins)
        refine ⟨row, rest, hrow, hrest.trans (List.suffix_cons b bytes), ?_, ?_⟩
        · rw [hfinished, complete, hrows, complete]
        · intro hq hmem
          have hb : b ≠ quote := fun h => hmem (by simp [h])
          refine hquoted ?_ fun h => hmem (List.mem_cons_of_mem _ h)
          rw [step_quoted hq hb]
          rfl

/-! ## Line ends -/

theorem run_lineEnd (hd : endsRow delimiter = false) {ending : List UInt8}
    (hending : IsLineEnd ending) (hq : s.place ≠ .quoted) :
    s.run delimiter ending = if s.place = .rowStart then s else s.endRow := by
  have hfirst : ∀ b, endsRow b = true →
      s.step delimiter b = if s.place = .rowStart then s else s.endRow :=
    fun b hb => step_end hd hb hq
  rcases hending with rfl | rfl | rfl
  · exact hfirst _ (by decide)
  · exact hfirst _ (by decide)
  · rw [run_cons, hfirst _ (by decide)]
    -- the second byte is an empty line
    have hsecond : ∀ t : Scan, t.place = .rowStart → t.run delimiter [lineFeed] = t := by
      intro t ht
      show t.step delimiter lineFeed = t
      rw [step_end hd (by decide) (by simp [ht]), if_pos ht]
    by_cases hplace : s.place = .rowStart
    · rw [if_pos hplace, hsecond s hplace]
    · rw [if_neg hplace, hsecond _ rfl]

/-- Between quotes a row stays under way, whatever line ends come. -/
theorem run_quoted (hq : s.place = .quoted) (hbegins : BeginsWith c s.underway)
    (hbytes : quote ∉ bytes) :
    (s.run delimiter bytes).place = .quoted ∧ (s.run delimiter bytes).rows = s.rows
      ∧ BeginsWith c (s.run delimiter bytes).underway := by
  induction bytes generalizing s with
  | nil => exact ⟨hq, rfl, hbegins⟩
  | cons b bytes ih =>
      have hb : b ≠ quote := fun h => hbytes (by simp [h])
      have hrest : quote ∉ bytes := fun h => hbytes (List.mem_cons_of_mem _ h)
      rcases step_underway delimiter (by simp [hq] : s.place ≠ .rowStart) b with
        ⟨hplace, -⟩ | ⟨-, hrows, hkeeps⟩
      · exact absurd hq hplace
      · rw [run_cons, ← hrows]
        refine ih ?_ (hkeeps c hbegins) hrest
        rw [step_quoted hq hb]
        rfl

end Scan

theorem ne_nil_of_finished {delimiter : UInt8} {bytes : List UInt8} {row : Row}
    (h : row ∈ (scan delimiter bytes).finished) : row ≠ [] :=
  Scan.finished_ne_nil (Scan.rows_ne_nil (by simp [Scan.start])) row h

/-! ## Lines -/

variable {delimiter : UInt8}

/-- Text behind which the reader is in front of a row has its rows before those of what
follows. -/
theorem rowsIn_append {front : List UInt8}
    (h : (Scan.start.run delimiter front).place = .rowStart) (back : List UInt8) :
    rowsIn delimiter (front ++ back) = rowsIn delimiter front ++ rowsIn delimiter back := by
  have hfront : rowsIn delimiter front = (Scan.start.run delimiter front).complete := if_pos h
  rw [hfront, rowsIn, Scan.run_append, Scan.finished_run_of_idle (Scan.idle_start.run _ _) h]

variable (hd : delimiter ≠ quote) (hend : endsRow delimiter = false)

include hd hend

theorem place_of_line {line : List UInt8} (h : IsLine delimiter line) :
    (Scan.start.run delimiter line).place = .rowStart := by
  obtain ⟨body, ending, rfl, hopen, hending, hclosed⟩ := h
  have hq : (Scan.start.run delimiter body).place ≠ .quoted :=
    mt (Scan.quoted_iff_leavesOpen hd hend hopen).1 hclosed
  rw [Scan.run_append, Scan.run_lineEnd hend hending hq]
  split
  · assumption
  · rfl

/-- Behind lines of their own the reader is in front of a row. -/
theorem place_of_lines {lines : List (List UInt8)}
    (h : ∀ line ∈ lines, IsLine delimiter line) :
    (Scan.start.run delimiter lines.flatten).place = .rowStart := by
  induction lines with
  | nil => rfl
  | cons line lines ih =>
      have hfirst := place_of_line hd hend (h line (by simp))
      have hrest := ih fun l hl => h l (by simp [hl])
      rw [List.flatten_cons, Scan.run_append,
        Scan.idle_start.run delimiter line hfirst, Scan.run_behind]
      exact hrest

end Populace.Rows
