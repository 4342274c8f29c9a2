import Populace.Proofs.Rows.Reader

/-!
# Quotes that a line leaves open

Which quotes count is told by the fields of a line. A field is quoted if it begins with a
quote; what is quoted goes on to the next quote that is not doubled, and in what is left
of the field quotes mean nothing (`IsWritten`). So a line leaves quotes open if its last
field begins with a quote behind which all other quotes are doubled (`LeavesOpen`). It is
behind these lines that the reader is between quotes (`quoted_iff_leavesOpen`).
-/

namespace Populace.Rows

/-- What may stand between quotes: bytes that are no quotes, and quotes that are doubled. -/
inductive Enclosed : List UInt8 → Prop where
  | nil : Enclosed []
  | byte {b : UInt8} {text : List UInt8} (hb : b ≠ quote) (h : Enclosed text) :
      Enclosed (b :: text)
  | doubled {text : List UInt8} (h : Enclosed text) : Enclosed (quote :: quote :: text)

/-- Two quotes with what stands between them, or nothing at all. -/
inductive Quotation : List UInt8 → Prop where
  | none : Quotation []
  | quotes {text : List UInt8} (h : Enclosed text) : Quotation (quote :: text ++ [quote])

/-- A field as it stands on a line, all of it: a quotation, if any, and the rest. -/
inductive IsWritten (delimiter : UInt8) : List UInt8 → Prop where
  | intro {front rest : List UInt8} (hfront : Quotation front)
      (hrest : rest.head? ≠ some quote) (hno : delimiter ∉ rest) :
      IsWritten delimiter (front ++ rest)

/-- Fields with a delimiter behind each. -/
def delimited (delimiter : UInt8) (fields : List (List UInt8)) : List UInt8 :=
  (fields.map (· ++ [delimiter])).flatten

/-- The line ends between quotes. -/
def LeavesOpen (delimiter : UInt8) (line : List UInt8) : Prop :=
  ∃ fields text, line = delimited delimiter fields ++ quote :: text
    ∧ (∀ f ∈ fields, IsWritten delimiter f) ∧ Enclosed text

variable {delimiter b : UInt8} {text front rest last f line bytes : List UInt8}

theorem Enclosed.append (h : Enclosed text) (hrest : Enclosed rest) : Enclosed (text ++ rest) := by
  induction h with
  | nil => exact hrest
  | byte hb _ ih => exact .byte hb ih
  | doubled _ ih => exact .doubled ih

theorem delimited_cons (delimiter : UInt8) (f : List UInt8) (fields : List (List UInt8)) :
    delimited delimiter (f :: fields) = f ++ [delimiter] ++ delimited delimiter fields := rfl

/-- Quotes that are left open stand in front of the line or behind a delimiter. -/
theorem LeavesOpen.opening (h : LeavesOpen delimiter line) (hhead : line.head? ≠ some quote) :
    [delimiter, quote] <:+: line := by
  obtain ⟨fields, text, rfl, -, -⟩ := h
  rcases List.eq_nil_or_concat fields with rfl | ⟨before, f, rfl⟩
  · exact absurd rfl hhead
  · refine ⟨delimited delimiter before ++ f, text, ?_⟩
    simp [delimited]

namespace Scan

variable {s : Scan}

/-- Between quotes only a quote is more than a part of the field. -/
theorem step_quoted (hq : s.place = .quoted) (hb : b ≠ quote) :
    s.step delimiter b = s.keep .quoted b := by
  rw [step, hq]
  exact if_neg hb

/-- Outside quotes a byte of a line is read for what it is, unless it opens quotes. -/
theorem step_outside (hq : s.place ≠ .quoted) (hb : s.place = .plain ∨ b ≠ quote)
    (hend : endsRow b = false) : s.step delimiter b = s.stepPlain delimiter b := by
  unfold step
  cases hplace : s.place with
  | quoted => exact absurd hplace hq
  | plain => rfl
  | _ =>
      have hb' : b ≠ quote := hb.resolve_left (by simp [hplace])
      simp [hb', hend]

/-- A quote in front of a field opens quotes. -/
theorem step_opening (hplace : s.place = .rowStart ∨ s.place = .fieldStart) :
    (s.step delimiter quote).place = .quoted := by
  have hend : endsRow quote = false := by decide
  rcases hplace with h | h <;> simp [step, h, hend]

/-! ## From the line to the reader -/

theorem run_enclosed (h : Enclosed text) (hq : s.place = .quoted) :
    (s.run delimiter text).place = .quoted := by
  induction h generalizing s with
  | nil => exact hq
  | byte hb _ ih =>
      rw [run_cons, step_quoted hq hb]
      exact ih rfl
  | doubled _ ih =>
      have hagain : ((s.step delimiter quote).step delimiter quote).place = .quoted := by
        simp [step, hq, keep]
      exact ih hagain

section Line

variable (hd : delimiter ≠ quote) (hend : endsRow delimiter = false)

include hd hend

/-- The rest of a field goes to the next delimiter. -/
theorem run_rest (hq : s.place ≠ .quoted) (hhead : s.place = .plain ∨ rest.head? ≠ some quote)
    (hno : delimiter ∉ rest) (hopen : ∀ b ∈ rest, endsRow b = false) :
    (s.run delimiter (rest ++ [delimiter])).place = .fieldStart := by
  induction rest generalizing s with
  | nil =>
      show (s.step delimiter delimiter).place = _
      rw [step_outside hq (.inr hd) hend, stepPlain, if_pos rfl]
      rfl
  | cons b rest ih =>
      have hb : b ≠ delimiter := fun h => hno (by simp [h])
      have hplain : s.place = .plain ∨ b ≠ quote := hhead.imp_right fun h heq => h (by simp [heq])
      have hline : endsRow b = false := hopen b (by simp)
      rw [List.cons_append, run_cons, step_outside hq hplain hline, stepPlain, if_neg hb,
        if_neg (by simp [hline])]
      exact ih (by simp [keep]) (.inl rfl) (fun h => hno (List.mem_cons_of_mem _ h))
        fun c hc => hopen c (by simp [hc])

theorem run_written (hplace : s.place = .rowStart ∨ s.place = .fieldStart)
    (h : IsWritten delimiter f) (hopen : ∀ b ∈ f, endsRow b = false) :
    (s.run delimiter (f ++ [delimiter])).place = .fieldStart := by
  obtain ⟨hfront, hrest, hno⟩ := h
  rename_i front rest
  have hline : ∀ b ∈ rest, endsRow b = false := fun b hb => hopen b (by simp [hb])
  cases hfront with
  | none =>
      have hq : s.place ≠ .quoted := by rcases hplace with h | h <;> simp [h]
      exact run_rest hd hend hq (.inr hrest) hno hline
  | @quotes text htext =>
      have hinside : (s.run delimiter (quote :: text)).place = .quoted := by
        rw [run_cons]
        exact run_enclosed htext (step_opening hplace)
      have hbehind : (s.run delimiter (quote :: text ++ [quote])).place = .behindQuote := by
        rw [run_append]
        show (step delimiter _ quote).place = _
        simp [step, hinside]
      have hq : (s.run delimiter (quote :: text ++ [quote])).place ≠ .quoted := by
        rw [hbehind]
        decide
      rw [List.append_assoc, run_append]
      exact run_rest hd hend hq (.inr hrest) hno hline

theorem run_delimited {fields : List (List UInt8)}
    (hplace : s.place = .rowStart ∨ s.place = .fieldStart)
    (hfields : ∀ f ∈ fields, IsWritten delimiter f)
    (hopen : ∀ b ∈ delimited delimiter fields, endsRow b = false) :
    (s.run delimiter (delimited delimiter fields)).place = .rowStart
      ∨ (s.run delimiter (delimited delimiter fields)).place = .fieldStart := by
  induction fields generalizing s with
  | nil => exact hplace
  | cons f fields ih =>
      rw [delimited_cons] at hopen ⊢
      have hfirst := run_written hd hend hplace (hfields f (by simp)) fun b hb =>
        hopen b (by simp [hb])
      rw [run_append]
      exact ih (.inr hfirst) (fun g hg => hfields g (by simp [hg])) fun b hb =>
        hopen b (by simp [hb])

/-- Behind a line that leaves quotes open the reader is between quotes. -/
theorem quoted_of_leavesOpen (hopen : ∀ b ∈ line, endsRow b = false)
    (h : LeavesOpen delimiter line) : (start.run delimiter line).place = .quoted := by
  obtain ⟨fields, text, rfl, hfields, htext⟩ := h
  have hplace := run_delimited hd hend (s := start) (.inl rfl) hfields fun b hb =>
    hopen b (by simp [hb])
  rw [run_append, run_cons]
  exact run_enclosed htext (step_opening hplace)

end Line

/-! ## From the reader to the line -/

/-- What the last field has so far when the reader is in this place. -/
inductive At (delimiter : UInt8) : Place → List UInt8 → Prop where
  | rowStart : At delimiter .rowStart []
  | fieldStart : At delimiter .fieldStart []
  | plain {front rest : List UInt8} (hfront : Quotation front) (hne : rest ≠ [])
      (hrest : rest.head? ≠ some quote) (hno : delimiter ∉ rest) :
      At delimiter .plain (front ++ rest)
  | quoted {text : List UInt8} (h : Enclosed text) : At delimiter .quoted (quote :: text)
  | behindQuote {text : List UInt8} (h : Enclosed text) :
      At delimiter .behindQuote (quote :: text ++ [quote])

/-- Outside quotes the field has a quotation, if any, and a rest. -/
theorem At.cut {place : Place} (h : At delimiter place last) (hq : place ≠ .quoted) :
    ∃ front rest, last = front ++ rest ∧ Quotation front ∧ rest.head? ≠ some quote
      ∧ delimiter ∉ rest ∧ (place = .plain → rest ≠ []) := by
  cases h with
  | rowStart => exact ⟨[], [], rfl, .none, by simp, by simp, by simp⟩
  | fieldStart => exact ⟨[], [], rfl, .none, by simp, by simp, by simp⟩
  | plain hfront hne hrest hno => exact ⟨_, _, rfl, hfront, hrest, hno, fun _ => hne⟩
  | quoted _ => exact absurd rfl hq
  | behindQuote htext => exact ⟨_, [], by simp, .quotes htext, by simp, by simp, by simp⟩

/-- A quote in front of a field, or right behind its quotes, opens quotes. -/
theorem At.step_quote (h : At delimiter s.place last) (hq : s.place ≠ .quoted)
    (hplain : s.place ≠ .plain) :
    At delimiter (s.step delimiter quote).place (last ++ [quote]) := by
  cases hplace : s.place with
  | quoted => exact absurd hplace hq
  | plain => exact absurd hplace hplain
  | behindQuote =>
      rw [hplace] at h
      cases h with
      | @behindQuote text htext =>
          have hstep : (s.step delimiter quote).place = .quoted := by simp [Scan.step, hplace, keep]
          have hlonger : At delimiter .quoted (quote :: (text ++ [quote, quote])) :=
            .quoted (htext.append (.doubled .nil))
          rw [hstep]
          simpa using hlonger
  | _ =>
      rw [hplace] at h
      cases h
      rw [step_opening (by simp [hplace])]
      exact .quoted .nil

/-- A byte of a line ends the field, or the field is longer by this byte. -/
theorem At.step (h : At delimiter s.place last) (hend : endsRow b = false) :
    (b = delimiter ∧ IsWritten delimiter last ∧ (s.step delimiter b).place = .fieldStart)
      ∨ At delimiter (s.step delimiter b).place (last ++ [b]) := by
  by_cases hq : s.place = .quoted
  · rw [hq] at h
    cases h with
    | quoted htext =>
        by_cases hb : b = quote
        · subst hb
          rw [Scan.step, hq]
          exact .inr (.behindQuote htext)
        · rw [step_quoted hq hb]
          exact .inr (.quoted (htext.append (.byte hb .nil)))
  · by_cases hopens : s.place = .plain ∨ b ≠ quote
    · obtain ⟨front, rest, rfl, hfront, hrest, hno, hplain⟩ := h.cut hq
      rw [step_outside hq hopens hend, stepPlain]
      by_cases hb : b = delimiter
      · rw [if_pos hb]
        exact .inl ⟨hb, .intro hfront hrest hno, rfl⟩
      · rw [if_neg hb, if_neg (by simp [hend]), List.append_assoc]
        refine .inr (.plain hfront (by simp) ?_ (by simpa [hno] using Ne.symm hb))
        -- the first byte of the rest is not a quote, also if it is the new one
        cases rest with
        | nil => simpa using hopens.resolve_left fun hp => hplain hp rfl
        | cons c rest => exact hrest
    · obtain ⟨hplain, hquote⟩ := not_or.1 hopens
      obtain rfl := Decidable.not_not.1 hquote
      exact .inr (h.step_quote hq hplain)

/-- The bytes of a line are cut into fields, of which the last one is not at its end. -/
theorem exists_at (h : At delimiter s.place last) (hopen : ∀ b ∈ bytes, endsRow b = false) :
    ∃ fields last', last ++ bytes = delimited delimiter fields ++ last'
      ∧ (∀ f ∈ fields, IsWritten delimiter f)
      ∧ At delimiter (s.run delimiter bytes).place last' := by
  induction bytes generalizing s last with
  | nil => exact ⟨[], last, by simp [delimited], by simp, h⟩
  | cons b bytes ih =>
      have hrest : ∀ c ∈ bytes, endsRow c = false := fun c hc => hopen c (by simp [hc])
      rw [run_cons]
      rcases h.step (hopen b (by simp)) with ⟨rfl, hlast, hplace⟩ | hlonger
      · have hstart : At b (s.step b b).place [] := by
          rw [hplace]
          exact .fieldStart
        obtain ⟨fields, last', heq, hfields, hat⟩ := ih hstart hrest
        refine ⟨last :: fields, last', ?_, by simpa using ⟨hlast, hfields⟩, hat⟩
        rw [delimited_cons, List.append_assoc, ← heq]
        simp
      · obtain ⟨fields, last', heq, hfields, hat⟩ := ih hlonger hrest
        exact ⟨fields, last', by rw [← heq]; simp, hfields, hat⟩

/-- The reader is between quotes behind a line that leaves quotes open, and behind no other
one. -/
theorem quoted_iff_leavesOpen (hd : delimiter ≠ quote) (hend : endsRow delimiter = false)
    (hopen : ∀ b ∈ line, endsRow b = false) :
    (start.run delimiter line).place = .quoted ↔ LeavesOpen delimiter line := by
  constructor
  · intro hq
    have hstart : At delimiter start.place [] := .rowStart
    obtain ⟨fields, last, heq, hfields, hat⟩ := exists_at hstart hopen
    rw [hq] at hat
    cases hat with
    | quoted htext => exact ⟨fields, _, heq, hfields, htext⟩
  · exact quoted_of_leavesOpen hd hend hopen

end Scan

end Populace.Rows
