import Populace.Proofs.Rows.Reader

/-!
# Rows of plain text

In text without quotes the rows are the lines that have something on them, and the fields
of a row are what stands between the delimiters on its line (`finished_of_plain`). What
the reader has in hand behind some bytes of a line is known from these bytes alone
(`Scan.Holds`): each further byte of the line keeps it so, and the end of the line makes a
row of it.
-/

namespace Populace.Rows

/-- Text without quotes, and without a byte order mark in front. -/
structure IsPlain (bytes : List UInt8) : Prop where
  unquoted : quote ∉ bytes
  unmarked : ¬ byteOrderMark <+: bytes

/-- The lines with something on them. -/
def linesOf (bytes : List UInt8) : List (List UInt8) :=
  (bytes.splitOnP endsRow).filter (· ≠ [])

/-- The rows of plain text, with their fields trimmed. -/
def plainRows (delimiter : UInt8) (bytes : List UInt8) : List Row :=
  (linesOf bytes).map fun line => (line.splitOn delimiter).map Field.trimmed

/-- The text is empty or ends a line. -/
def EndsLine (text : List UInt8) : Prop :=
  text = [] ∨ ∃ init b, text = init ++ [b] ∧ endsRow b = true

/-! ## Byte order marks -/

theorem withoutMark_of_unmarked {bytes : List UInt8} (h : ¬ byteOrderMark <+: bytes) :
    withoutMark bytes = bytes := by
  unfold withoutMark
  split
  · exact absurd (List.prefix_append byteOrderMark _) h
  · rfl

/-- Text has a byte order mark in front because it begins with all of it. -/
theorem unmarked_insert {front : List UInt8} {c : UInt8} (h : ¬ byteOrderMark <+: front)
    (hc : c ∉ byteOrderMark) (back : List UInt8) : ¬ byteOrderMark <+: front ++ c :: back := by
  intro hmark
  rcases List.prefix_or_prefix_of_prefix hmark (List.prefix_append front _) with hfront | ⟨t, ht⟩
  · exact h hfront
  · rw [← ht] at hmark
    have hrest : t <+: c :: back := (List.prefix_append_right_inj front).1 hmark
    cases t with
    | nil =>
        rw [List.append_nil] at ht
        exact h (ht ▸ List.prefix_refl front)
    | cons x t =>
        obtain ⟨rfl, -⟩ := List.cons_prefix_cons.1 hrest
        exact hc (by rw [← ht]; simp)

theorem endsRow_of_mem {text : List UInt8} (hfeed : lineFeed ∉ text)
    (hreturn : carriageReturn ∉ text) : ∀ b ∈ text, endsRow b = false := by
  intro b hb
  rw [endsRow, Bool.or_eq_false_iff, beq_eq_false_iff_ne, beq_eq_false_iff_ne]
  exact ⟨ne_of_mem_of_not_mem hb hfeed, ne_of_mem_of_not_mem hb hreturn⟩

/-- No byte of a byte order mark ends a line. -/
theorem not_mem_byteOrderMark {b : UInt8} (h : endsRow b = true) : b ∉ byteOrderMark := by
  have hall := endsRow_of_mem (show lineFeed ∉ byteOrderMark by decide) (by decide)
  intro hb
  rw [hall b hb] at h
  cases h

theorem IsPlain.append {front back : List UInt8} (hfront : IsPlain front) (hback : IsPlain back)
    (h : EndsLine front) : IsPlain (front ++ back) := by
  refine ⟨?_, ?_⟩
  · rw [List.mem_append]
    exact fun hmem => hmem.elim hfront.unquoted hback.unquoted
  · rcases h with rfl | ⟨init, b, rfl, hb⟩
    · exact hback.unmarked
    · have hinit : ¬ byteOrderMark <+: init :=
        fun hmark => hfront.unmarked (hmark.trans (List.prefix_append init [b]))
      rw [List.append_assoc, List.singleton_append]
      exact unmarked_insert hinit (not_mem_byteOrderMark hb) back

/-! ## Lines -/

variable {line bytes : List UInt8} {b : UInt8}

theorem linesOf_of_open (h : ∀ b ∈ line, endsRow b = false) :
    linesOf line = if line = [] then [] else [line] := by
  rw [linesOf, List.splitOnP_eq_singleton h]
  by_cases hline : line = [] <;> simp [hline]

theorem linesOf_append_end (front back : List UInt8) (hb : endsRow b = true) :
    linesOf (front ++ b :: back) = linesOf front ++ linesOf back := by
  rw [linesOf, List.splitOnP_append_cons _ _ hb, List.filter_append, linesOf, linesOf]

/-- Behind the end of a line the lines are those of the rest. -/
theorem linesOf_append {front : List UInt8} (h : EndsLine front) (back : List UInt8) :
    linesOf (front ++ back) = linesOf front ++ linesOf back := by
  rcases h with rfl | ⟨init, b, rfl, hb⟩
  · rfl
  · have hempty : linesOf [] = [] := rfl
    rw [List.append_assoc, List.singleton_append, linesOf_append_end _ _ hb,
      linesOf_append_end _ _ hb, hempty, List.append_nil]

theorem ne_nil_of_plainRow {delimiter : UInt8} {row : Row}
    (h : row ∈ plainRows delimiter bytes) : row ≠ [] := by
  obtain ⟨line, -, rfl⟩ := List.mem_map.1 h
  simp

/-- The first piece of a line ends at its first delimiter. -/
theorem head?_splitOn (delimiter : UInt8) (line : List UInt8) :
    (line.splitOn delimiter).head? = some (line.takeWhile (· ≠ delimiter)) := by
  induction line with
  | nil => rfl
  | cons c line ih =>
      rw [List.splitOn_cons_eq_if_modifyHead, List.takeWhile_cons]
      by_cases hc : c = delimiter
      · simp [hc]
      · simp [hc, List.head?_modifyHead, ih]

/-- A line that is longer by one byte has the same fields, but the last one is longer. -/
theorem splitOn_concat {delimiter : UInt8} (h : b ≠ delimiter) (line : List UInt8) :
    ∃ front last, line.splitOn delimiter = front ++ [last]
      ∧ (line ++ [b]).splitOn delimiter = front ++ [last ++ [b]] := by
  induction line with
  | nil =>
      refine ⟨[], [], rfl, ?_⟩
      rw [List.nil_append, List.splitOn_eq_singleton (by simpa using h.symm)]
      rfl
  | cons c line ih =>
      obtain ⟨front, last, hline, hlonger⟩ := ih
      rw [List.cons_append, List.splitOn_cons_eq_if_modifyHead,
        List.splitOn_cons_eq_if_modifyHead, hline, hlonger]
      by_cases hc : c = delimiter
      · exact ⟨[] :: front, last, by simp [hc], by simp [hc]⟩
      · cases front with
        | nil => exact ⟨[], c :: last, by simp [hc], by simp [hc]⟩
        | cons first front => exact ⟨(c :: first) :: front, last, by simp [hc], by simp [hc]⟩

namespace Scan

variable {s : Scan} {delimiter : UInt8}

/-- Outside quotes a byte that is no quote is read for what it is. -/
theorem step_unquoted (hb : b ≠ quote) (hq : s.place ≠ .quoted)
    (hbehind : s.place ≠ .behindQuote) :
    s.step delimiter b
      = if s.place = .rowStart ∧ endsRow b = true then s else s.stepPlain delimiter b := by
  unfold step
  cases h : s.place with
  | rowStart => by_cases hend : endsRow b = true <;> simp [hend, hb]
  | fieldStart => simp [hb]
  | plain => simp
  | quoted => exact absurd h hq
  | behindQuote => exact absurd h hbehind

/-- The reader has the fields of a line in hand, as far as it goes. -/
structure Holds (delimiter : UInt8) (line : List UInt8) (s : Scan) : Prop where
  fields : line.splitOn delimiter = s.fields.reverse ++ [s.field.reverse]
  place : if line = [] then s.place = .rowStart else s.place = .fieldStart ∨ s.place = .plain

namespace Holds

theorem outside (h : Holds delimiter line s) :
    s.place ≠ .quoted ∧ s.place ≠ .behindQuote := by
  have hplace := h.place
  split at hplace
  · simp [hplace]
  · rcases hplace with hplace | hplace <;> simp [hplace]

theorem rowStart_iff (h : Holds delimiter line s) : s.place = .rowStart ↔ line = [] := by
  have hplace := h.place
  split at hplace
  · rename_i hline
    simp [hplace, hline]
  · rename_i hline
    rcases hplace with hplace | hplace <;> simp [hplace, hline]

/-- In front of a line nothing is in hand. -/
theorem start (rows : List Row) : Holds delimiter [] ⟨.rowStart, [], [], rows⟩ where
  fields := rfl
  place := by simp

/-- One more byte of the line. -/
theorem step (h : Holds delimiter line s) (hb : b ≠ quote) (hend : endsRow b = false) :
    Holds delimiter (line ++ [b]) (s.step delimiter b) ∧ (s.step delimiter b).rows = s.rows := by
  rw [step_unquoted hb h.outside.1 h.outside.2, if_neg (by simp [hend]), stepPlain]
  split
  · rename_i hdelimiter
    subst hdelimiter
    refine ⟨⟨?_, by simp [endField]⟩, rfl⟩
    rw [List.splitOn_append_cons_self, h.fields]
    simp [endField, List.splitOn]
  · rename_i hdelimiter
    obtain ⟨front, last, hline, hlonger⟩ := splitOn_concat hdelimiter line
    -- the field in hand is the last one of the line
    have heq := h.fields
    rw [hline] at heq
    obtain ⟨hfront, hlast⟩ := List.append_inj' heq rfl
    rw [if_neg (by simp [hend])]
    refine ⟨⟨?_, by simp [keep]⟩, rfl⟩
    rw [hlonger, hfront, List.singleton_inj.1 hlast]
    simp [keep]

/-- The end of the line: it is a row, unless it is empty. -/
theorem step_end (h : Holds delimiter line s) (hd : endsRow delimiter = false) (hb : b ≠ quote)
    (hend : endsRow b = true) :
    Holds delimiter [] (s.step delimiter b)
      ∧ (s.step delimiter b).complete
        = s.complete ++ if line = [] then [] else [line.splitOn delimiter] := by
  have hne : b ≠ delimiter := by
    rintro rfl
    rw [hd] at hend
    cases hend
  rw [step_unquoted hb h.outside.1 h.outside.2]
  by_cases hline : line = []
  · subst hline
    rw [if_pos ⟨h.rowStart_iff.2 rfl, hend⟩]
    exact ⟨h, by simp⟩
  · rw [if_neg (by simp [h.rowStart_iff, hline]), stepPlain, if_neg hne, if_pos hend]
    refine ⟨.start _, ?_⟩
    rw [if_neg hline, h.fields]
    simp [complete, endRow]

/-- When nothing follows, the line in hand is the last row, unless it is empty. -/
theorem finished (h : Holds delimiter line s) :
    s.finished = s.complete ++ if line = [] then [] else [line.splitOn delimiter] := by
  rw [Scan.finished]
  by_cases hline : line = []
  · rw [if_pos (h.rowStart_iff.2 hline), if_pos hline, List.append_nil]
  · rw [if_neg (by simp [h.rowStart_iff, hline]), if_neg hline, h.fields]
    simp [complete, endRow]

end Holds

/-- The bytes that follow finish the line in hand, and the lines behind it are rows too. -/
theorem finished_run (hd : endsRow delimiter = false) (hbytes : quote ∉ bytes)
    (hline : ∀ b ∈ line, endsRow b = false) (h : Holds delimiter line s) :
    (s.run delimiter bytes).finished
      = s.complete ++ (linesOf (line ++ bytes)).map fun l => l.splitOn delimiter := by
  induction bytes generalizing s line with
  | nil =>
      rw [List.append_nil, linesOf_of_open hline]
      show s.finished = _
      rw [h.finished]
      by_cases hnil : line = [] <;> simp [hnil]
  | cons b bytes ih =>
      have hb : b ≠ quote := fun heq => hbytes (by simp [heq])
      have hrest : quote ∉ bytes := fun hmem => hbytes (List.mem_cons_of_mem _ hmem)
      rw [run_cons]
      by_cases hend : endsRow b = true
      · obtain ⟨hstep, hcomplete⟩ := h.step_end hd hb hend
        rw [ih hrest (by simp) hstep, hcomplete, linesOf_append_end _ _ hend,
          linesOf_of_open hline]
        by_cases hnil : line = [] <;> simp [hnil]
      · have hopen : endsRow b = false := by simpa using hend
        obtain ⟨hstep, hrows⟩ := h.step hb hopen
        have hlonger : ∀ c ∈ line ++ [b], endsRow c = false := by
          intro c hc
          rcases List.mem_append.1 hc with hc | hc
          · exact hline c hc
          · rwa [List.mem_singleton.1 hc]
        rw [ih hrest hlonger hstep, complete, hrows, List.append_assoc]
        rfl

end Scan

/-- The rows of plain text are its lines, cut at the delimiters. -/
theorem finished_of_plain {delimiter : UInt8} (hd : endsRow delimiter = false)
    (h : IsPlain bytes) :
    (scan delimiter bytes).finished.map Row.trimmed = plainRows delimiter bytes := by
  have hstart : Scan.Holds delimiter [] Scan.start := .start []
  rw [scan, withoutMark_of_unmarked h.unmarked,
    Scan.finished_run hd h.unquoted (by simp) hstart]
  simp [Scan.start, Scan.complete, plainRows, Row.trimmed]

end Populace.Rows
