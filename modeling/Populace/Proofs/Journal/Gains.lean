import Mathlib.Data.List.Forall2
import Mathlib.Order.Nat
import Populace.Proofs.Journal.Stories

/-!
# What a journal gains

Whoever ends all the spans and counters that he has begun leaves a journal as it was, but
for the lines that it has kept: it `Gains` them. The lines of one part of a run come
behind those of the part before, so what a whole run adds is told by what its parts add. A
span that is ended has gained its own line and, behind that, those of what was over inside
of it; a counter has gained one line, if there was anything to count. What a line says is
known beforehand (`Entry`), but for the time: that lies somewhere in the time that the part
has taken (`Told`).
-/

namespace Populace.Journal

/-! ## Lines and their times -/

/-- A line that is still to come: how deep inside of spans it stands, and what it says in
front of the time. -/
structure Entry where
  depth : Nat
  text : String
  deriving DecidableEq, Repr

/-- The line of what has taken this time. -/
def Entry.line (e : Entry) (started stopped : Nat) : String :=
  setIn e.depth (e.text ++ duration started stopped)

/-- The lines tell of these entries one by one. Whatever has taken time was begun and ended
between the two readings of the clock. -/
def Told (first last : Nat) (entries : List Entry) (lines : List String) : Prop :=
  List.Forall₂ (fun e line => ∃ started stopped, first ≤ started ∧ started ≤ stopped
    ∧ stopped ≤ last ∧ line = e.line started stopped) entries lines

variable {entries more : List Entry} {lines rest : List String} {before after later : Held}
  {j k l : Journal}

theorem Told.mono {a b c d : Nat} (h : Told a b entries lines) (hfirst : c ≤ a) (hlast : b ≤ d) :
    Told c d entries lines := by
  refine h.imp fun e line => ?_
  rintro ⟨started, stopped, hstarted, hbetween, hstopped, hline⟩
  exact ⟨started, stopped, hfirst.trans hstarted, hbetween, hstopped.trans hlast, hline⟩

/-- The lines of two parts in a row. -/
theorem Told.append {a b c : Nat} (h : Told a b entries lines) (h' : Told b c more rest)
    (hab : a ≤ b) (hbc : b ≤ c) : Told a c (entries ++ more) (lines ++ rest) :=
  List.rel_append (h.mono (Nat.le_refl a) hbc) (h'.mono hab (Nat.le_refl c))

/-! ## The clock -/

theorem clock_le_reading (j : Journal) : j.clock ≤ j.reading := Nat.le_add_right _ _

@[simp] theorem clock_print (j : Journal) (text : String) : (j.print text).clock = j.clock := by
  rw [print]
  split <;> rfl

@[simp] theorem clock_printLine (j : Journal) (line : String) :
    (j.printLine line).clock = j.clock :=
  clock_print j _

@[simp] theorem clock_start (j : Journal) (name : String) : (j.start name).clock = j.reading :=
  reading_printLine j _

theorem clock_le_start (j : Journal) (name : String) : j.clock ≤ (j.start name).clock := by
  rw [clock_start]
  exact clock_le_reading j

@[simp] theorem clock_goOn (j : Journal) (c : Counter) (outer : List Activity) :
    (j.goOn c outer).clock = j.clock := by
  rw [goOn]
  split
  · exact clock_print _ _
  · rfl

theorem clock_of_keep {line : String} {inside : List String}
    (h : keep line inside j = .ok () k) : k.clock = j.clock := by
  obtain ⟨own, quiet, clock, passing, running, results, warnings, notes⟩ := j
  cases running with
  | nil =>
      cases h
      rfl
  | cons a outer =>
      cases a with
      | span s =>
          cases h
          rfl
      | counter c => cases h

/-- A span is ended at the next reading. -/
theorem clock_of_stop {name : String} (h : stop name j = .ok () k) : k.clock = j.reading := by
  obtain ⟨own, quiet, clock, passing, running, results, warnings, notes⟩ := j
  cases running with
  | nil => cases h
  | cons a outer =>
      let j : Journal := ⟨own, quiet, clock, passing, outer, results, warnings, notes⟩
      cases a with
      | counter c => cases h
      | span s =>
          by_cases hname : s.name = name
          · subst hname
            have hstop := (stop_own j s).symm.trans h
            obtain ⟨_, i, hkeep, hshown⟩ := bind_eq_ok_iff.1 hstop
            cases hshown
            rw [clock_printLine, clock_of_keep hkeep]
            rfl
          · cases (stop_other j hname).symm.trans h

theorem clock_of_startCounter {label : String} {total : Nat}
    (h : startCounter label (total + 1) j = .ok () k) : k.clock = j.reading := by
  obtain ⟨own, quiet, clock, passing, running, results, warnings, notes⟩ := j
  cases running with
  | nil =>
      cases h
      rfl
  | cons a outer =>
      cases a with
      | span s =>
          cases h
          rfl
      | counter c => cases h

/-- An item is counted at the next reading. -/
theorem clock_of_next (h : next j = .ok () k) : k.clock = j.reading := by
  rw [next, bind_of_ok (run_get j)] at h
  cases hr : j.running with
  | nil =>
      rw [hr] at h
      cases h
  | cons a outer =>
      rw [hr] at h
      cases a with
      | span s => cases h
      | counter c =>
          dsimp only at h
          split at h
          · cases h
          · split at h
            · exact (clock_of_keep h).trans (clock_print _ _)
            · cases h
              exact clock_goOn _ _ _

/-! ## Gaining lines -/

theorem kept_nil (h : j.NotCounting) : Kept [] j.held j.held := by
  obtain ⟨name, quiet, clock, passing, running, results, warnings, notes⟩ := j
  cases running with
  | nil =>
      have hkept := @Kept.outside [] results
      rwa [List.append_nil] at hkept
  | cons a outer =>
      cases a with
      | counter c => exact absurd rfl (h c outer)
      | span s =>
          have hkept := @Kept.inSpan [] s outer results
          rwa [List.append_nil] at hkept

theorem Kept.trans (h : Kept lines before after) (h' : Kept rest after later) :
    Kept (lines ++ rest) before later := by
  cases h with
  | outside =>
      cases h'
      rw [List.append_assoc]
      exact .outside
  | inSpan =>
      cases h'
      rw [List.append_assoc]
      exact .inSpan

theorem Kept.depth (h : Kept lines before after) :
    after.running.length = before.running.length := by
  cases h <;> rfl

/-- The second journal is the first one somewhat later, with more lines kept, which tell of
these entries. -/
structure Gains (entries : List Entry) (j k : Journal) : Prop where
  kept : ∃ lines, Told j.clock k.clock entries lines ∧ Kept lines j.held k.held
  later : j.clock ≤ k.clock

namespace Gains

theorem nil (h : j.NotCounting) : Gains [] j j :=
  ⟨⟨[], .nil, kept_nil h⟩, Nat.le_refl _⟩

theorem trans (h : Gains entries j k) (h' : Gains more k l) : Gains (entries ++ more) j l := by
  obtain ⟨lines, htold, hkept⟩ := h.kept
  obtain ⟨rest, htold', hkept'⟩ := h'.kept
  exact ⟨⟨lines ++ rest, htold.append htold' h.later h'.later, hkept.trans hkept'⟩,
    h.later.trans h'.later⟩

theorem depth (h : Gains entries j k) : k.running.length = j.running.length := by
  obtain ⟨lines, -, hkept⟩ := h.kept
  exact hkept.depth

theorem notCounting (h : Gains entries j k) : k.NotCounting := by
  obtain ⟨lines, -, hkept⟩ := h.kept
  intro c outer hc
  rcases hkept.running_cases with ⟨-, hk⟩ | ⟨s, s', rest, -, hk⟩
  · cases hk.symm.trans hc
  · cases hk.symm.trans hc

/-- Lines are gained in the innermost span. -/
theorem running_eq {s : Span} {outer : List Activity} (h : Gains entries j k)
    (hj : j.running = .span s :: outer) :
    ∃ lines, Told j.clock k.clock entries lines
      ∧ k.running = .span { s with nested := s.nested ++ lines } :: outer
      ∧ k.results = j.results ∧ k.finished = j.finished ++ lines := by
  obtain ⟨lines, htold, hkept⟩ := h.kept
  refine ⟨lines, htold, ?_, ?_, hkept.finished⟩
  all_goals
    rw [held, held, hj] at hkept
    generalize k.running = running at hkept
    generalize k.results = results at hkept
    cases hkept
    rfl

theorem finished (h : Gains entries j k) :
    ∃ lines, Told j.clock k.clock entries lines ∧ k.finished = j.finished ++ lines := by
  obtain ⟨lines, htold, hkept⟩ := h.kept
  exact ⟨lines, htold, hkept.finished⟩

theorem finished_of_nothing (h : Gains [] j k) : k.finished = j.finished := by
  obtain ⟨lines, htold, hfinished⟩ := h.finished
  cases htold
  rw [hfinished, List.append_nil]

/-- What is only noted adds no lines. -/
theorem noted (h : Gains entries j k) (hheld : l.held = k.held) (hclock : l.clock = k.clock) :
    Gains entries j l := by
  obtain ⟨hkept, hlater⟩ := h
  rw [← hheld, ← hclock] at hkept
  rw [← hclock] at hlater
  exact ⟨hkept, hlater⟩

end Gains

/-! ## Spans -/

@[simp] theorem depth_start (j : Journal) (name : String) :
    (j.start name).running.length = j.running.length + 1 :=
  congrArg (fun h => h.running.length) (held_start j name)

theorem gains_start (j : Journal) (name : String) : (j.start name).Gains [] (j.start name) :=
  .nil (inSpan_start j name).notCounting

/-- A span that was begun can be ended, and the line of the span comes before those that
were gained inside. -/
theorem stop_of_gains {name : String} (hj : j.NotCounting)
    (h : Gains entries (j.start name) k) :
    ∃ l, stop name k = .ok () l
      ∧ Gains (⟨j.running.length, name ++ " took "⟩ :: entries) j l := by
  -- the span is the innermost activity, with the lines that it has gained
  obtain ⟨lines, htold, hrunning, hresults, -⟩ :=
    h.running_eq (congrArg Held.running (held_start j name))
  rw [List.nil_append] at hrunning
  rw [show (j.start name).results = j.results from congrArg Held.results (held_start j name)]
    at hresults
  have hbegun : j.reading ≤ k.clock := clock_start j name ▸ h.later
  rcases stop_does k name with ⟨l, hstop, hstep⟩ | ⟨m, l, -, hmisused⟩
  · have hclock := clock_of_stop hstop
    obtain ⟨s, outer, hr, -, hkept⟩ := hstep.of_stop
    cases hr.symm.trans hrunning
    rw [show k.held.results = j.results from hresults] at hkept
    have hbegin := clock_le_reading j
    have hend := clock_le_reading k
    refine ⟨l, hstop, ⟨_, .cons ?_ (htold.mono ?_ ?_), hkept⟩, ?_⟩
    · exact ⟨j.reading, k.reading, hbegin, hbegun.trans hend, hclock.ge, rfl⟩
    · rwa [clock_start]
    · rwa [hclock]
    · rw [hclock]
      exact hbegin.trans (hbegun.trans hend)
  · rw [hrunning] at hmisused
    obtain ⟨c, rest, hcounter⟩ := Misused.of_stop (s := ⟨name, j.reading, lines⟩) hmisused
    exact absurd hcounter (hj c rest)

/-! ## Counters -/

/-- The line of a counter that is over, if there was anything to count. -/
def counterEntries (depth : Nat) (label : String) (total : Nat) : List Entry :=
  if total = 0 then [] else [⟨depth, label ++ " (" ++ Text.grouped total ++ ")... "⟩]

/-- So many items are left of those that were to be counted when the journal was `j`. When
none is left, it has gained the line of the counter. -/
def Counting (label : String) (total : Nat) (j : Journal) (left : Nat) (k : Journal) : Prop :=
  match left with
  | 0 => Gains (counterEntries j.running.length label total) j k
  | left + 1 => ∃ done started shown, done + (left + 1) = total
      ∧ k.held = ⟨.counter ⟨label, done, total, started, shown⟩ :: j.running, j.results⟩
      ∧ j.clock ≤ started ∧ started ≤ k.clock

section Counters

variable {label : String} {total left : Nat}

theorem counting_startCounter (hj : j.NotCounting) (label : String) (total : Nat) :
    ∃ k, startCounter label total j = .ok () k ∧ Counting label total j total k := by
  cases total with
  | zero => exact ⟨j, rfl, .nil hj⟩
  | succ total =>
      rcases startCounter_does j label (total + 1) with ⟨k, hstart, hstep⟩ | ⟨m, k, -, hmisused⟩
      · refine ⟨k, hstart, 0, j.reading, j.reading, Nat.zero_add _, ?_, clock_le_reading j,
          (clock_of_startCounter hstart).ge⟩
        generalize k.held = heldThen at hstep
        cases hstep with
        | count _ => rfl
      · obtain ⟨c, rest, hcounter⟩ := hmisused.of_count
        exact absurd hcounter (hj c rest)

/-- An item that is left can be counted. -/
theorem counting_next (hj : j.NotCounting) (h : Counting label total j (left + 1) k) :
    ∃ l, next k = .ok () l ∧ Counting label total j left l := by
  obtain ⟨done, started, shown, htotal, hk, hbegin, hbegun⟩ := h
  rcases next_does k with ⟨l, hnext, hstep⟩ | ⟨m, l, -, hmisused⟩
  · have hclock := clock_of_next hnext
    have hend := clock_le_reading k
    refine ⟨l, hnext, ?_⟩
    rw [hk] at hstep
    generalize hl : l.held = after at hstep
    cases hstep with
    | next hless =>
        -- the counter goes on
        dsimp only at hless
        obtain ⟨more, rfl⟩ : ∃ more, left = more + 1 := Nat.exists_eq_succ_of_ne_zero (by omega)
        exact ⟨done + 1, started, _, by omega, hl, hbegin, hclock ▸ hbegun.trans hend⟩
    | last hfull hkept =>
        -- this was the last item
        dsimp only at hfull hkept
        obtain rfl : left = 0 := by omega
        refine ⟨⟨_, ?_, by rw [hl]; exact hkept⟩, ?_⟩
        · rw [counterEntries, if_neg (by omega)]
          exact .cons ⟨started, k.reading, hbegin, hbegun.trans hend, hclock.ge, rfl⟩ .nil
        · rw [hclock]
          exact hbegin.trans (hbegun.trans hend)
  · rw [show k.running = _ from congrArg Held.running hk] at hmisused
    obtain ⟨d, rest, hcounter⟩ := hmisused.of_next (by dsimp only; omega)
    exact absurd hcounter (hj d rest)

end Counters

/-! ## As parts of a run -/

section Parts

variable {E : Failure → Journal → Prop}

theorem meets_start (j : Journal) (name : String) :
    Meets (fun _ k => (j.start name).Gains [] k) E
      ((modify (·.start name) : EStateM Failure Journal Unit) j) :=
  gains_start j name

theorem meets_modify {f : Journal → Journal} (h : j.Gains entries k)
    (hheld : (f k).held = k.held) (hclock : (f k).clock = k.clock) :
    Meets (fun _ l => j.Gains entries l) E ((modify f : EStateM Failure Journal Unit) k) :=
  h.noted hheld hclock

theorem meets_stop {name : String} (hj : j.NotCounting) (h : (j.start name).Gains entries k) :
    Meets (fun _ l => j.Gains (⟨j.running.length, name ++ " took "⟩ :: entries) l) E
      (journaled (stop name) k) := by
  obtain ⟨l, hstop, hstopped⟩ := stop_of_gains hj h
  rw [journaled_eq_ok_iff.2 hstop]
  exact hstopped

theorem meets_startCounter (hj : j.NotCounting) (label : String) (total : Nat) :
    Meets (fun _ k => Counting label total j total k) E
      (journaled (startCounter label total) j) := by
  obtain ⟨k, hstart, hcounting⟩ := counting_startCounter hj label total
  rw [journaled_eq_ok_iff.2 hstart]
  exact hcounting

theorem meets_next {label : String} {total left : Nat} (hj : j.NotCounting)
    (h : Counting label total j (left + 1) k) :
    Meets (fun _ l => Counting label total j left l) E (journaled next k) := by
  obtain ⟨l, hnext, hcounting⟩ := counting_next hj h
  rw [journaled_eq_ok_iff.2 hnext]
  exact hcounting

end Parts

end Populace.Journal
