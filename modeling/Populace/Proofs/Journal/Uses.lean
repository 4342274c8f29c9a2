import Populace.Proofs.Journal.Activities

/-!
# Any uses of a journal

What a journal can become by any uses in any order. `Step` says all that a use with a
meaning does to what is running and to the results, and `Misused` which uses have none.
From these comes `Sound`, which holds of every journal that is reached from a new one: a
counter is not full, and there is none around it. A span may begin inside of a counter,
and then it can never end.
-/

namespace Populace.Journal

/-! ## Uses -/

/-- Something that is done with a journal. -/
inductive Use where
  | start (name : String)
  | stop (name : String)
  | count (label : String) (total : Nat)
  | next
  | warn (text : String)
  deriving DecidableEq, Repr

/-- What a use does. -/
def Use.act : Use → Journaling Unit
  | .start name => modify (·.start name)
  | .stop name => Journal.stop name
  | .count label total => startCounter label total
  | .next => Journal.next
  | .warn text => modify (·.warn text)

/-- A use, and the reading of the clock when it comes. -/
structure Timed where
  clock : Nat
  use : Use
  deriving DecidableEq, Repr

/-- The journal at a time when its clock stands. -/
def atTime (j : Journal) (clock : Nat) : Journal :=
  { j with clock, passing := [] }

/-- What a use does at its time. -/
def Timed.act (u : Timed) : Journaling Unit := do
  modify fun j => j.atTime u.clock
  u.use.act

/-- The journal that a new one has become by these uses, of which every one had a meaning. -/
inductive Reached (name : String) (quiet : Bool) : List Timed → Journal → Prop where
  | new : Reached name quiet [] (Journal.new name quiet)
  | use {uses u j k} : Reached name quiet uses j → u.act j = .ok () k →
      Reached name quiet (uses ++ [u]) k

/-! ## What a use does -/

/-- The part of a journal that later uses depend on: what is running, and the results. -/
structure Held where
  running : List Activity
  results : List String

/-- What a journal holds. -/
def held (j : Journal) : Held := ⟨j.running, j.results⟩

/-- Keeps lines with the innermost activity. A counter has no room for them. -/
inductive Kept (lines : List String) : Held → Held → Prop where
  | outside {results} : Kept lines ⟨[], results⟩ ⟨[], results ++ lines⟩
  | inSpan {s outer results} : Kept lines ⟨.span s :: outer, results⟩
      ⟨.span { s with nested := s.nested ++ lines } :: outer, results⟩

/-- A line inside of so many activities: two spaces for each of them, and a dash in front. -/
def setIn : Nat → String → String
  | 0, text => "- " ++ text
  | depth + 1, text => "  " ++ setIn depth text

theorem indented_eq (depth : Nat) (text : String) : indented depth text = setIn depth text := by
  induction depth with
  | zero => rfl
  | succ depth ih =>
      rw [setIn, ← ih]
      simp [indented, Nat.mul_add, List.replicate_succ, ← String.toList_inj]

/-- How long something took, as it is told. -/
def duration (started stopped : Nat) : String :=
  seconds (inSeconds (stopped - started))

/-- What is told of a span that has ended. -/
def spanLine (name : String) (started stopped : Nat) : String :=
  name ++ " took " ++ duration started stopped

/-- What is told of a counter that has ended. -/
def counterLine (label : String) (total started stopped : Nat) : String :=
  label ++ " (" ++ Text.grouped total ++ ")... " ++ duration started stopped

/-- Everything that a use with a meaning can do. -/
inductive Step (clock : Nat) : Use → Held → Held → Prop where
  | start {name running results} :
    Step clock (.start name) ⟨running, results⟩ ⟨.span ⟨name, clock, []⟩ :: running, results⟩
  | stop {s outer results after} :
    Kept (setIn outer.length (spanLine s.name s.started clock) :: s.nested)
        ⟨outer, results⟩ after →
      Step clock (.stop s.name) ⟨.span s :: outer, results⟩ after
  | countNothing {label h} : Step clock (.count label 0) h h
  | count {label total running results} : (∀ c outer, running ≠ .counter c :: outer) →
      Step clock (.count label (total + 1)) ⟨running, results⟩
        ⟨.counter ⟨label, 0, total + 1, clock, clock⟩ :: running, results⟩
  | next {c outer results} : c.done + 1 < c.total →
      Step clock .next ⟨.counter c :: outer, results⟩
        ⟨.counter (noticed clock { c with done := c.done + 1 }) :: outer, results⟩
  | last {c outer results after} : c.done + 1 = c.total →
      Kept [setIn outer.length (counterLine c.label c.total c.started clock)]
        ⟨outer, results⟩ after →
      Step clock .next ⟨.counter c :: outer, results⟩ after
  | warn {text h} : Step clock (.warn text) h h

/-- Every use without a meaning, with what is running then. -/
inductive Misused : Use → List Activity → Misuse → Prop where
  | stopNothing {name} : Misused (.stop name) [] (.stoppedInsideCounter name)
  | stopInCounter {name c outer} :
    Misused (.stop name) (.counter c :: outer) (.stoppedInsideCounter name)
  | stopOther {name s outer} : s.name ≠ name →
      Misused (.stop name) (.span s :: outer) (.stoppedOther s.name name)
  | stopOnCounter {s c outer} :
    Misused (.stop s.name) (.span s :: .counter c :: outer) .finishedInsideCounter
  | countInCounter {label total c outer} :
    Misused (.count label (total + 1)) (.counter c :: outer) (.countedInsideCounter label c.label)
  | nextNothing : Misused .next [] .nothingToCount
  | nextInSpan {s outer} : Misused .next (.span s :: outer) .nothingToCount
  | nextTooMany {c outer} : c.total < c.done + 1 →
      Misused .next (.counter c :: outer) (.tooManyItems c.total c.label)
  | lastOnCounter {c d outer} : c.done + 1 = c.total →
      Misused .next (.counter c :: .counter d :: outer) .finishedInsideCounter

@[simp] theorem held_print (j : Journal) (text : String) : (j.print text).held = j.held := by
  rw [print]
  split <;> rfl

@[simp] theorem held_printLine (j : Journal) (line : String) :
    (j.printLine line).held = j.held :=
  held_print j _

@[simp] theorem reading_printLine (j : Journal) (line : String) :
    (j.printLine line).reading = j.reading := by
  rw [printLine, print]
  split <;> rfl

theorem held_start (j : Journal) (name : String) :
    (j.start name).held = ⟨.span ⟨name, j.reading, []⟩ :: j.running, j.results⟩ := by
  rw [start, held]
  simp only [running_timed, running_printLine, clock_timed, reading_printLine]
  exact congrArg (Held.mk _) (congrArg Held.results (held_printLine j _))

theorem held_goOn (j : Journal) (c : Counter) (outer : List Activity) :
    (j.goOn c outer).held = ⟨.counter (noticed j.clock c) :: outer, j.results⟩ := by
  rw [held, running_goOn, goOn]
  split
  · exact congrArg (Held.mk _) (congrArg Held.results (held_print _ _))
  · rfl

/-- Lines are kept, or a counter has no room for them. -/
theorem keep_cases (line : String) (inside : List String) (j : Journal) :
    (∃ k, keep line inside j = .ok () k
        ∧ Kept (setIn j.running.length line :: inside) j.held k.held)
      ∨ ∃ c outer, j.running = .counter c :: outer
        ∧ keep line inside j = .error .finishedInsideCounter j := by
  rw [← indented_eq]
  obtain ⟨name, quiet, clock, passing, running, results, warnings, notes⟩ := j
  cases running with
  | nil => exact .inl ⟨_, rfl, .outside⟩
  | cons a outer =>
      cases a with
      | span s => exact .inl ⟨_, rfl, .inSpan⟩
      | counter c => exact .inr ⟨c, outer, rfl, rfl⟩

/-- The result is that of a use with a meaning, or the use is a misuse. -/
def Does (j : Journal) (use : Use) (result : EStateM.Result Misuse Journal Unit) : Prop :=
  (∃ k, result = .ok () k ∧ Step j.reading use j.held k.held)
    ∨ ∃ m k, result = .error m k ∧ Misused use j.running m

theorem start_does (j : Journal) (name : String) :
    j.Does (.start name) (.ok () (j.start name)) :=
  .inl ⟨_, rfl, by rw [held_start]; exact .start⟩

/-- The innermost span is taken off if it is ended by its name, and its line is kept with
those inside of it. -/
theorem stop_own (j : Journal) (s : Span) :
    stop s.name { j with running := .span s :: j.running } = (do
      keep (spanLine s.name s.started j.reading) s.nested
      modify fun k => k.printLine (spanLine s.name s.started j.reading) :
        Journaling Unit) j.timed := by
  simp only [stop, bind_of_ok (run_get _), bind_of_ok (run_set _ _), ne_eq, not_true_eq_false,
    if_false]
  rfl

theorem stop_other (j : Journal) {s : Span} {name : String} (hname : s.name ≠ name) :
    stop name { j with running := .span s :: j.running }
      = .error (.stoppedOther s.name name) j := by
  simp only [stop, bind_of_ok (run_get _), bind_of_ok (run_set _ _), ne_eq, hname,
    not_false_eq_true, if_true]
  rfl

theorem stop_does (j : Journal) (name : String) : j.Does (.stop name) (stop name j) := by
  obtain ⟨own, quiet, clock, passing, running, results, warnings, notes⟩ := j
  cases running with
  | nil => exact .inr ⟨_, _, rfl, .stopNothing⟩
  | cons a outer =>
      cases a with
      | counter c => exact .inr ⟨_, _, rfl, .stopInCounter⟩
      | span s =>
          by_cases hname : s.name = name
          · subst hname
            let j : Journal := ⟨own, quiet, clock, passing, outer, results, warnings, notes⟩
            have hstop := stop_own j s
            rcases keep_cases (spanLine s.name s.started j.reading) s.nested j.timed with
              ⟨k, hk, hkept⟩ | ⟨c, rest, hc, hk⟩
            · refine .inl ⟨_, hstop.trans (bind_of_ok hk), ?_⟩
              rw [held_printLine]
              exact .stop hkept
            · obtain rfl : outer = .counter c :: rest := hc
              exact .inr ⟨_, _, hstop.trans (bind_of_error hk), .stopOnCounter⟩
          · let j : Journal := ⟨own, quiet, clock, passing, outer, results, warnings, notes⟩
            exact .inr ⟨_, _, stop_other j hname, .stopOther hname⟩

theorem startCounter_does (j : Journal) (label : String) (total : Nat) :
    j.Does (.count label total) (startCounter label total j) := by
  obtain ⟨own, quiet, clock, passing, running, results, warnings, notes⟩ := j
  cases total with
  | zero => exact .inl ⟨_, rfl, .countNothing⟩
  | succ total =>
      cases running with
      | nil => exact .inl ⟨_, rfl, .count (by simp)⟩
      | cons a outer =>
          cases a with
          | span s => exact .inl ⟨_, rfl, .count (by simp)⟩
          | counter c => exact .inr ⟨_, _, rfl, .countInCounter⟩

theorem next_does (j : Journal) : j.Does .next (next j) := by
  obtain ⟨own, quiet, clock, passing, running, results, warnings, notes⟩ := j
  cases running with
  | nil => exact .inr ⟨_, _, rfl, .nextNothing⟩
  | cons a outer =>
      cases a with
      | span s => exact .inr ⟨_, _, rfl, .nextInSpan⟩
      | counter c =>
          let j : Journal := ⟨own, quiet, clock, passing, outer, results, warnings, notes⟩
          let d : Counter := { c with done := c.done + 1 }
          rcases Nat.lt_trichotomy (c.done + 1) c.total with hless | hfull | hmore
          · refine .inl ⟨j.timed.goOn d outer, ?_, ?_⟩
            · rw [next, bind_of_ok (run_get _)]
              simp only [if_neg (Nat.lt_asymm hless), if_neg (Nat.ne_of_lt hless)]
              rfl
            · rw [held_goOn]
              exact .next hless
          · -- the counter is taken off, and its line is kept
            let line := counterLine c.label c.total c.started j.reading
            let k := j.timed.print ("\r" ++ line ++ "\n")
            have hnext : next { j with running := .counter c :: outer } = keep line [] k := by
              rw [next, bind_of_ok (run_get _)]
              simp only [if_neg (Nat.not_lt.2 (Nat.le_of_eq hfull)), if_pos hfull]
              rfl
            have hheld : k.held = ⟨outer, results⟩ := held_print _ _
            have hrunning : k.running = outer := congrArg Held.running hheld
            rcases keep_cases line [] k with ⟨l, hl, hkept⟩ | ⟨d, rest, hd, hl⟩
            · rw [hheld, hrunning] at hkept
              exact .inl ⟨l, hnext.trans hl, .last hfull hkept⟩
            · obtain rfl : outer = .counter d :: rest := hrunning.symm.trans hd
              exact .inr ⟨_, _, hnext.trans hl, .lastOnCounter hfull⟩
          · refine .inr ⟨.tooManyItems c.total c.label, { j with running := .counter d :: outer }, ?_,
              .nextTooMany hmore⟩
            rw [next, bind_of_ok (run_get _)]
            simp only [if_pos hmore]
            rfl

theorem act_does (use : Use) (j : Journal) : j.Does use (use.act j) := by
  cases use with
  | start name => exact start_does j name
  | stop name => exact stop_does j name
  | count label total => exact startCounter_does j label total
  | next => exact next_does j
  | warn text => exact .inl ⟨_, rfl, .warn⟩

section Timed

variable {u : Timed} {j k : Journal} {m : Misuse}

theorem Timed.act_cases (u : Timed) (j : Journal) :
    (∃ k, u.act j = .ok () k ∧ Step u.clock u.use j.held k.held)
      ∨ ∃ m k, u.act j = .error m k ∧ Misused u.use j.running m :=
  act_does u.use (j.atTime u.clock)

theorem step_of_act (h : u.act j = .ok () k) : Step u.clock u.use j.held k.held := by
  rcases u.act_cases j with ⟨k', hk, hstep⟩ | ⟨m, k', hk, -⟩
  · rw [h] at hk
    cases hk
    exact hstep
  · rw [h] at hk
    cases hk

theorem misused_of_act (h : u.act j = .error m k) : Misused u.use j.running m := by
  rcases u.act_cases j with ⟨k', hk, -⟩ | ⟨m', k', hk, hmisused⟩
  · rw [h] at hk
    cases hk
  · rw [h] at hk
    cases hk
    exact hmisused

end Timed

theorem Step.of_stop {clock : Nat} {name : String} {before after : Held}
    (h : Step clock (.stop name) before after) :
    ∃ s outer, before.running = .span s :: outer ∧ s.name = name
      ∧ Kept (setIn outer.length (spanLine s.name s.started clock) :: s.nested)
        ⟨outer, before.results⟩ after := by
  cases h with
  | stop hkept => exact ⟨_, _, rfl, rfl, hkept⟩

theorem Kept.running_cases {lines : List String} {before after : Held}
    (h : Kept lines before after) :
    before.running = [] ∧ after.running = []
      ∨ ∃ s s' outer, before.running = .span s :: outer ∧ after.running = .span s' :: outer := by
  cases h with
  | outside => exact .inl ⟨rfl, rfl⟩
  | inSpan => exact .inr ⟨_, _, _, rfl, rfl⟩

/-- A misuse of this kind is the end of a span directly inside of a counter, or of a counter
directly inside of another one. -/
theorem Misused.finishedInsideCounter_cases {use : Use} {running : List Activity}
    (h : Misused use running .finishedInsideCounter) :
    (∃ s c outer, use = .stop s.name ∧ running = .span s :: .counter c :: outer)
      ∨ ∃ c d outer, running = .counter c :: .counter d :: outer := by
  cases h with
  | stopOnCounter => exact .inl ⟨_, _, _, rfl, rfl⟩
  | lastOnCounter _ => exact .inr ⟨_, _, _, rfl⟩

theorem Misused.tooManyItems_cases {use : Use} {running : List Activity} {total : Nat}
    {label : String} (h : Misused use running (.tooManyItems total label)) :
    ∃ c outer, running = .counter c :: outer ∧ c.total < c.done + 1 := by
  cases h with
  | nextTooMany hmore => exact ⟨_, _, rfl, hmore⟩

/-- The innermost span can be ended by its name, but for a counter directly around it. -/
theorem Misused.of_stop {s : Span} {outer : List Activity} {m : Misuse}
    (h : Misused (.stop s.name) (.span s :: outer) m) : ∃ c rest, outer = .counter c :: rest := by
  generalize hname : s.name = name at h
  cases h with
  | stopOther hne => exact absurd hname hne
  | stopOnCounter => exact ⟨_, _, rfl⟩

/-- Counting can begin, unless a counter is the innermost activity. -/
theorem Misused.of_count {label : String} {total : Nat} {running : List Activity} {m : Misuse}
    (h : Misused (.count label total) running m) : ∃ c rest, running = .counter c :: rest := by
  cases h with
  | countInCounter => exact ⟨_, _, rfl⟩

/-- A counter that is not full can go on, but for one directly around it. -/
theorem Misused.of_next {c : Counter} {outer : List Activity} {m : Misuse}
    (h : Misused .next (.counter c :: outer) m) (hless : c.done < c.total) :
    ∃ d rest, outer = .counter d :: rest := by
  cases h with
  | nextTooMany hmore => omega
  | lastOnCounter _ => exact ⟨_, _, rfl⟩

/-- A span directly inside of a counter cannot end. -/
theorem act_of_stop_on_counter {u : Timed} {j : Journal} {s : Span} {c : Counter}
    {outer : List Activity} (huse : u.use = .stop s.name)
    (hr : j.running = .span s :: .counter c :: outer) :
    ∃ k, u.act j = .error .finishedInsideCounter k := by
  rcases u.act_cases j with ⟨k, -, hstep⟩ | ⟨m, k, hk, hmisused⟩
  · rw [huse] at hstep
    obtain ⟨s', outer', hr', -, hkept⟩ := hstep.of_stop
    obtain ⟨-, rfl⟩ := List.cons.inj (hr'.symm.trans hr)
    cases hkept
  · rw [huse, hr] at hmisused
    generalize hname : s.name = name at hmisused
    cases hmisused with
    | stopOther hne => exact absurd hname hne
    | stopOnCounter => exact ⟨k, hk⟩

/-! ## What holds of every journal that is reached -/

/-- No counter is full, and none is directly inside of another one. -/
def Sound (running : List Activity) : Prop :=
  ∀ c outer, .counter c :: outer <:+ running →
    c.done < c.total ∧ ∀ d rest, outer ≠ .counter d :: rest

/-- There is a counter that is not the innermost activity. -/
def Covered (running : List Activity) : Prop :=
  ∃ c, .counter c ∈ running.tail

section Invariants

variable {clock : Nat} {use : Use} {before after : Held} {lines : List String}

theorem sound_nil : Sound [] := by
  intro c outer h
  cases List.suffix_nil.1 h

theorem sound_span {s : Span} {outer : List Activity} :
    Sound (.span s :: outer) ↔ Sound outer := by
  constructor
  · exact fun h c rest hc => h c rest (hc.trans (List.suffix_cons _ _))
  · intro h c rest hc
    rcases List.suffix_cons_iff.1 hc with heq | hc
    · cases heq
    · exact h c rest hc

theorem sound_counter {c : Counter} {outer : List Activity} :
    Sound (.counter c :: outer)
      ↔ c.done < c.total ∧ (∀ d rest, outer ≠ .counter d :: rest) ∧ Sound outer := by
  constructor
  · intro h
    obtain ⟨hless, hapart⟩ := h c outer List.suffix_rfl
    exact ⟨hless, hapart, fun d rest hd => h d rest (hd.trans (List.suffix_cons _ _))⟩
  · rintro ⟨hless, hapart, h⟩ d rest hd
    rcases List.suffix_cons_iff.1 hd with heq | hd
    · cases heq
      exact ⟨hless, hapart⟩
    · exact h d rest hd

theorem Kept.sound (h : Kept lines before after) (hs : Sound before.running) :
    Sound after.running := by
  rcases h.running_cases with ⟨-, hafter⟩ | ⟨s, s', outer, hbefore, hafter⟩
  · rw [hafter]
    exact sound_nil
  · rw [hbefore, sound_span] at hs
    rwa [hafter, sound_span]

/-- Uses with a meaning keep a journal sound. -/
theorem Step.sound (h : Step clock use before after) (hs : Sound before.running) :
    Sound after.running := by
  cases h with
  | start => exact sound_span.2 hs
  | stop hkept => exact hkept.sound (sound_span.1 hs)
  | countNothing => exact hs
  | count hapart => exact sound_counter.2 ⟨Nat.succ_pos _, hapart, hs⟩
  | next hless =>
      obtain ⟨-, hapart, hs⟩ := sound_counter.1 hs
      exact sound_counter.2 ⟨hless, hapart, hs⟩
  | last _ hkept => exact hkept.sound (sound_counter.1 hs).2.2
  | warn => exact hs

theorem covered_cons {a : Activity} {outer : List Activity} :
    Covered (a :: outer) ↔ ∃ c, .counter c ∈ outer := Iff.rfl

theorem not_covered_iff {running : List Activity} :
    ¬ Covered running ↔ ∀ c front outer, running = front ++ .counter c :: outer → front = [] := by
  constructor
  · rintro h c (_ | ⟨a, front⟩) outer rfl
    · rfl
    · exact absurd ⟨c, by simp⟩ h
  · rintro h ⟨c, hc⟩
    cases running with
    | nil => cases hc
    | cons a rest =>
        obtain ⟨front, outer, rfl⟩ := List.append_of_mem hc
        cases h c (a :: front) outer rfl

/-- Where no counter is the innermost activity, every counter is covered. -/
theorem covered_iff_of_apart {running : List Activity}
    (h : ∀ c rest, running ≠ .counter c :: rest) :
    Covered running ↔ ∃ c, .counter c ∈ running := by
  constructor
  · rintro ⟨c, hc⟩
    exact ⟨c, List.mem_of_mem_tail hc⟩
  · rintro ⟨c, hc⟩
    cases running with
    | nil => cases hc
    | cons a outer =>
        rcases List.mem_cons.1 hc with rfl | hc
        · exact absurd rfl (h c outer)
        · exact ⟨c, hc⟩

theorem Kept.covered_iff (h : Kept lines before after) :
    Covered after.running ↔ ∃ c, .counter c ∈ before.running := by
  rcases h.running_cases with ⟨hbefore, hafter⟩ | ⟨s, s', outer, hbefore, hafter⟩
  · simp [hbefore, hafter, Covered]
  · simp [hbefore, hafter, covered_cons]

/-- Nothing uncovers a counter, and only a span that begins directly inside of it covers
one. -/
theorem Step.covered_iff (h : Step clock use before after) :
    Covered after.running ↔ Covered before.running
      ∨ (∃ c outer, before.running = .counter c :: outer) ∧ ∃ name, use = .start name := by
  cases h with
  | @start name running results =>
      rw [covered_cons]
      by_cases hcount : ∃ c outer, running = .counter c :: outer
      · refine iff_of_true ?_ (.inr ⟨hcount, name, rfl⟩)
        obtain ⟨c, outer, rfl⟩ := hcount
        exact ⟨c, List.mem_cons_self⟩
      · rw [← covered_iff_of_apart fun c rest hc => hcount ⟨c, rest, hc⟩]
        simp [hcount]
  | stop hkept => simp [hkept.covered_iff, covered_cons]
  | countNothing => simp
  | count hapart => simp [covered_cons, covered_iff_of_apart hapart]
  | next _ => simp [covered_cons]
  | last _ hkept => simp [hkept.covered_iff, covered_cons]
  | warn => simp

end Invariants

variable {name : String} {quiet : Bool} {uses : List Timed} {j k : Journal}

theorem running_new (name : String) (quiet : Bool) :
    (Journal.new name quiet).running = [.span ⟨name, 0, []⟩] :=
  congrArg Held.running (held_start _ name)

theorem Reached.sound (h : Reached name quiet uses j) : Sound j.running := by
  induction h with
  | new =>
      rw [running_new, sound_span]
      exact sound_nil
  | use _ hact ih => exact (step_of_act hact).sound ih

/-- A journal that is reached and then has these uses, each with a meaning, is reached by
all of them. -/
theorem Reached.append {back : List Timed} (h : Reached name quiet uses j)
    (hback : back.forM Timed.act j = .ok () k) : Reached name quiet (uses ++ back) k := by
  induction back generalizing uses j with
  | nil =>
      cases hback
      rwa [List.append_nil]
  | cons u back ih =>
      obtain ⟨_, i, hact, hback⟩ := bind_eq_ok_iff.1 hback
      have hall := ih (h.use hact) hback
      rwa [List.append_assoc, List.singleton_append] at hall

/-- The uses say which journal is reached. -/
theorem Reached.unique (h : Reached name quiet uses j) (h' : Reached name quiet uses k) :
    j = k := by
  induction h generalizing k with
  | new =>
      generalize huses : ([] : List Timed) = uses at h'
      cases h' with
      | new => rfl
      | use _ _ => simp at huses
  | @use uses u j j' _ hact ih =>
      generalize huses : uses ++ [u] = uses' at h'
      cases h' with
      | new => simp at huses
      | @use _ u' i k h' hact' =>
          obtain ⟨rfl, hu⟩ := List.append_inj' huses rfl
          cases hu
          rw [ih h', hact'] at hact
          cases hact
          rfl

/-- One of the uses has begun a span while a counter was the innermost activity. -/
def BegunInCounter (name : String) (quiet : Bool) (uses : List Timed) : Prop :=
  ∃ front u back k, uses = front ++ u :: back ∧ Reached name quiet front k
    ∧ (∃ c outer, k.running = .counter c :: outer) ∧ ∃ span, u.use = .start span

theorem begunInCounter_snoc {u : Timed} (h : Reached name quiet uses j) :
    BegunInCounter name quiet (uses ++ [u]) ↔ BegunInCounter name quiet uses
      ∨ (∃ c outer, j.running = .counter c :: outer) ∧ ∃ span, u.use = .start span := by
  constructor
  · rintro ⟨front, v, back, k, huses, hk, hcounter, hspan⟩
    rcases List.eq_nil_or_concat back with rfl | ⟨back, w, rfl⟩
    · obtain ⟨rfl, hv⟩ := List.append_inj' huses rfl
      cases hv
      rw [← h.unique hk] at hcounter
      exact .inr ⟨hcounter, hspan⟩
    · rw [List.concat_eq_append, ← List.cons_append, ← List.append_assoc] at huses
      obtain ⟨rfl, -⟩ := List.append_inj' huses rfl
      exact .inl ⟨front, v, back, k, rfl, hk, hcounter, hspan⟩
  · rintro (⟨front, v, back, k, rfl, hk, hrest⟩ | hnow)
    · exact ⟨front, v, back ++ [u], k, by simp, hk, hrest⟩
    · exact ⟨uses, u, [], j, rfl, h, hnow⟩

/-- A counter is covered if and only if a span was begun directly inside of one. -/
theorem Reached.covered_iff (h : Reached name quiet uses j) :
    Covered j.running ↔ BegunInCounter name quiet uses := by
  induction h with
  | new =>
      rw [running_new, covered_cons]
      refine iff_of_false (by simp) ?_
      rintro ⟨front, u, back, k, huses, -⟩
      simp at huses
  | use hreached hact ih =>
      rw [begunInCounter_snoc hreached, ← ih]
      exact (step_of_act hact).covered_iff

/-- **What can go wrong with counters.** In every journal that is reached from a new one by
uses with a meaning, no counter is full and none is directly inside of another one, so no
use ever meets a full counter, and none but the end of a span finds a counter where its
line should go. This last happens: a span may begin directly inside of a counter, whatever
is running, and then it cannot end. A counter is the innermost activity, as is expected,
if and only if no span was begun directly inside of one. -/
theorem counters_of_reached (h : Reached name quiet uses j) :
    (∀ c outer, .counter c :: outer <:+ j.running →
        c.done < c.total ∧ ∀ d rest, outer ≠ .counter d :: rest)
      ∧ ((∀ c front outer, j.running = front ++ .counter c :: outer → front = [])
        ↔ ¬ BegunInCounter name quiet uses)
      ∧ ∀ u : Timed,
        (∀ total label k, u.act j ≠ .error (.tooManyItems total label) k)
          ∧ ((∃ k, u.act j = .error .finishedInsideCounter k)
            ↔ ∃ s c outer, u.use = .stop s.name ∧ j.running = .span s :: .counter c :: outer) := by
  have hsound := h.sound
  refine ⟨hsound, ?_, fun u => ⟨?_, ?_, ?_⟩⟩
  · rw [← h.covered_iff, not_covered_iff]
  · intro total label k hact
    obtain ⟨c, outer, hr, hmore⟩ := (misused_of_act hact).tooManyItems_cases
    have hless := (hsound c outer (hr ▸ List.suffix_rfl)).1
    omega
  · rintro ⟨k, hact⟩
    rcases (misused_of_act hact).finishedInsideCounter_cases with hstop | ⟨c, d, outer, hr⟩
    · exact hstop
    · exact absurd rfl ((hsound c _ (hr ▸ List.suffix_rfl)).2 d outer)
  · rintro ⟨s, c, outer, huse, hr⟩
    exact act_of_stop_on_counter huse hr

/-- A span that is begun before the first of two items is counted covers the counter, and
has no end. -/
theorem counters_of_reached_covered :
    ∃ j, Reached "outer" true [⟨1, .count "items" 2⟩, ⟨2, .start "inner"⟩] j
      ∧ BegunInCounter "outer" true [⟨1, .count "items" 2⟩, ⟨2, .start "inner"⟩]
      ∧ ∃ k, Timed.act ⟨3, .stop "inner"⟩ j = .error .finishedInsideCounter k := by
  let covered : Journal :=
    { Journal.new "outer" true with
      clock := 2
      running := [.span ⟨"inner", 2, []⟩, .counter ⟨"items", 0, 2, 1, 1⟩, .span ⟨"outer", 0, []⟩] }
  have hcovered : Reached "outer" true [⟨1, .count "items" 2⟩, ⟨2, .start "inner"⟩] covered :=
    Reached.append .new rfl
  obtain ⟨-, hinnermost, hmisuse⟩ := counters_of_reached hcovered
  refine ⟨covered, hcovered, Classical.byContradiction fun hbegun => ?_, ?_⟩
  · cases hinnermost.2 hbegun ⟨"items", 0, 2, 1, 1⟩ [.span ⟨"inner", 2, []⟩] _ rfl
  · exact (hmisuse ⟨3, .stop "inner"⟩).2.2 ⟨⟨"inner", 2, []⟩, _, _, rfl, rfl⟩

end Populace.Journal
