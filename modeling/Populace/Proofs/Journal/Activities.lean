import Populace.Proofs.Actions

/-!
# Spans and counters of a run

A journal takes a new span at any time, and gives it up again as long as no counter was
running around it. `Awaits` follows a counter inside a span from one item to the next: as
long as items are awaited the next one can be counted, and when none is left the span is
the innermost activity again.
-/

namespace Populace.Journal

/-- No counter is the innermost activity. -/
def NotCounting (j : Journal) : Prop :=
  ∀ c outer, j.running ≠ .counter c :: outer

/-- A span of this name is the innermost activity, inside these others. -/
def InSpan (name : String) (outer : List Activity) (j : Journal) : Prop :=
  ∃ s, s.name = name ∧ j.running = .span s :: outer

/-- So many items are still to be counted in a span of this name, inside these others.
Without any, the counter is gone. -/
def Awaits (name : String) (outer : List Activity) (items : Nat) (j : Journal) : Prop :=
  match items with
  | 0 => j.InSpan name outer
  | items + 1 => ∃ c s, s.name = name ∧ c.done + (items + 1) = c.total
      ∧ j.running = .counter c :: .span s :: outer

variable {name : String} {outer : List Activity} {j : Journal}

theorem InSpan.notCounting (h : j.InSpan name outer) : j.NotCounting := by
  obtain ⟨s, -, hs⟩ := h
  intro c rest hc
  rw [hs] at hc
  cases hc

/-! ## What only adds notes, or looks at the clock -/

@[simp] theorem running_note (j : Journal) (n : Note) : (j.note n).running = j.running := rfl

@[simp] theorem running_log (j : Journal) (l : Level) (o : Origin) (text : String) :
    (j.log l o text).running = j.running := rfl

@[simp] theorem running_print (j : Journal) (text : String) :
    (j.print text).running = j.running := by
  rw [print]
  split <;> rfl

@[simp] theorem running_printLine (j : Journal) (text : String) :
    (j.printLine text).running = j.running :=
  running_print j _

@[simp] theorem running_warn (j : Journal) (text : String) :
    (j.warn text).running = j.running := rfl

@[simp] theorem running_timed (j : Journal) : j.timed.running = j.running := rfl

@[simp] theorem clock_timed (j : Journal) : j.timed.clock = j.reading := rfl

/-- The counter with the time when it was last shown, if it is looked at now. -/
def noticed (now : Nat) (c : Counter) : Counter :=
  { c with shown := if isDue c.shown now then now else c.shown }

@[simp] theorem running_goOn (j : Journal) (c : Counter) (outer : List Activity) :
    (j.goOn c outer).running = .counter (noticed j.clock c) :: outer := by
  rw [goOn, noticed]
  by_cases h : isDue c.shown j.clock
  · rw [if_pos h, if_pos h, running_print]
  · rw [if_neg h, if_neg h]

/-! ## One use at a time -/

theorem inSpan_start (j : Journal) (name : String) :
    (j.start name).InSpan name j.running :=
  ⟨⟨name, (j.printLine (name ++ "...")).reading, []⟩, rfl, by simp [start]⟩

/-- A line can be kept unless a counter is the innermost activity. -/
theorem keep_of_notCounting (h : j.NotCounting) (line : String) (inside : List String) :
    ∃ j', keep line inside j = .ok () j' ∧ j'.NotCounting
      ∧ ∀ name outer, j.InSpan name outer → j'.InSpan name outer := by
  -- outside of all spans the line is a result, in a span it is nested there
  cases hr : j.running with
  | nil =>
      refine ⟨{ j with results := j.results ++ (indented j.running.length line :: inside) },
        ?_, ?_, ?_⟩
      · simp [keep, hr, run_bind]
      · exact fun c outer => h c outer
      · exact fun name outer hs => hs
  | cons a outer =>
      cases a with
      | counter c => exact absurd hr (h c outer)
      | span s =>
          let s' : Span := { s with nested := s.nested ++ (indented j.running.length line :: inside) }
          refine ⟨{ j with running := .span s' :: outer }, ?_, ?_, ?_⟩
          · simp [keep, hr, s', run_bind]
          · intro c rest hc
            cases hc
          · rintro name outer' ⟨t, hname, ht⟩
            rw [hr] at ht
            cases ht
            exact ⟨s', hname, rfl⟩

/-- A span can be ended if no counter is running around it. -/
theorem stop_of_inSpan (h : j.InSpan name outer) (hout : ∀ c rest, outer ≠ .counter c :: rest) :
    ∃ j', stop name j = .ok () j' ∧ j'.NotCounting := by
  obtain ⟨s, rfl, hs⟩ := h
  let line := s.name ++ " took " ++ j.timed.since s.started
  obtain ⟨k, hk, hcount, -⟩ :=
    keep_of_notCounting (j := ({ j with running := outer } : Journal).timed) hout line s.nested
  refine ⟨k.printLine line, ?_, ?_⟩
  · have hkept : keep line s.nested ({ j with running := outer } : Journal).timed = .ok () k := hk
    simp only [stop, bind_of_ok (run_get _), bind_of_ok (run_set _ _), hs, ne_eq,
      not_true_eq_false, if_false]
    exact bind_of_ok hkept
  · simpa [NotCounting] using hcount

/-- No span can be ended that a counter is running around. -/
theorem not_counting_of_stop {j' : Journal} (h : j.InSpan name outer)
    (hstop : stop name j = .ok () j') (c : Counter) (rest : List Activity) :
    outer ≠ .counter c :: rest := by
  obtain ⟨s, rfl, hs⟩ := h
  rintro rfl
  simp [stop, keep, hs, run_bind] at hstop

/-- Counting begins inside a span, and awaits all items. -/
theorem awaits_startCounter (h : j.InSpan name outer) (label : String) (items : Nat) :
    ∃ j', startCounter label items j = .ok () j' ∧ j'.Awaits name outer items := by
  obtain ⟨s, hname, hs⟩ := h
  cases items with
  | zero => exact ⟨j, by simp [startCounter], s, hname, hs⟩
  | succ items =>
      let c : Counter := ⟨label, 0, items + 1, j.reading, j.reading⟩
      refine ⟨{ j.timed with running := .counter c :: j.running }, ?_, ?_⟩
      · simp [startCounter, hs, run_bind, c]
      · exact ⟨c, s, hname, Nat.zero_add _, by rw [hs]⟩

/-- An item that is awaited can be counted, and then one less is awaited. -/
theorem awaits_next {items : Nat} (h : j.Awaits name outer (items + 1)) :
    ∃ j', next j = .ok () j' ∧ j'.Awaits name outer items := by
  obtain ⟨c, s, hname, htotal, hrun⟩ := h
  cases items with
  | zero =>
      -- the last item: the counter goes, and its line is kept in the span
      have hlast : c.done + 1 = c.total := by omega
      let line := c.label ++ " (" ++ Text.grouped c.total ++ ")... " ++ j.timed.since c.started
      let k : Journal :=
        ({ j.timed with running := .span s :: outer } : Journal).print ("\r" ++ line ++ "\n")
      have hk : k.InSpan name outer := ⟨s, hname, by simp [k]⟩
      obtain ⟨j', hj', -, hspan⟩ := keep_of_notCounting hk.notCounting line []
      have hnext : next j = keep line [] k := by
        rw [next, bind_of_ok (run_get j)]
        simp only [hrun]
        rw [if_neg (by omega), if_pos hlast]
        rfl
      exact ⟨j', hnext.trans hj', hspan name outer hk⟩
  | succ items =>
      have hmore : ¬ c.total < c.done + 1 := by omega
      have hnot : c.done + 1 ≠ c.total := by omega
      have hleft : c.done + 1 + (items + 1) = c.total := by omega
      let d : Counter := { c with done := c.done + 1 }
      refine ⟨j.timed.goOn d (.span s :: outer), ?_, noticed j.reading d, s, hname, hleft, ?_⟩
      · rw [next, bind_of_ok (run_get j)]
        simp only [hrun]
        rw [if_neg hmore]
        simp only [if_neg hnot]
        rfl
      · rw [running_goOn, clock_timed]

end Populace.Journal
