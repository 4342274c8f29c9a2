import Populace.Proofs.Journal.Steady
import Populace.Proofs.Journal.Stories

/-!
# The end of a journal

A journal is closed in its outermost span, or too early: then something else is running. It
goes by the name of the innermost span alone. So a span that has the journal's name is
taken for the outermost one wherever it is, and what follows depends on what is around it
(`closing_goes_by_name`).
-/

namespace Populace.Journal

variable {name : String} {quiet : Bool} {uses : List Timed} {j k : Journal}

/-! ## What is shown -/

/-- Lines as they are noted when they are shown. -/
def shown (lines : List String) : List Note :=
  lines.map fun line => .printed (line ++ "\n")

/-- The journal when these lines have been shown. -/
def showing (j : Journal) (lines : List String) : Journal :=
  { j with notes := j.notes ++ shown lines }

/-- The warnings as they are shown in the end, if there are any. -/
def warningLines (warnings : List String) : List String :=
  if warnings = [] then [] else (toString warnings.length ++ " warnings:") :: (warnings ++ [""])

/-- What is shown to sum up. -/
def summary (results warnings : List String) : List String :=
  "" :: (results ++ "" :: warningLines warnings)

/-- What is shown when a journal closes too early. -/
def early : List String :=
  ["dropping Timer early"]

@[simp] theorem quiet_showing (j : Journal) (lines : List String) :
    (j.showing lines).quiet = j.quiet := rfl

@[simp] theorem warnings_showing (j : Journal) (lines : List String) :
    (j.showing lines).warnings = j.warnings := rfl

theorem showing_append (j : Journal) (lines more : List String) :
    j.showing (lines ++ more) = (j.showing lines).showing more := by
  simp [showing, shown]

theorem printLine_eq (h : j.quiet = false) (line : String) :
    j.printLine line = j.showing [line] :=
  if_neg (by simp [h])

theorem foldl_printLine (h : j.quiet = false) (lines : List String) :
    lines.foldl printLine j = j.showing lines := by
  induction lines generalizing j with
  | nil => simp [showing, shown]
  | cons line lines ih =>
      have hquiet : (j.showing [line]).quiet = false := h
      rw [List.foldl_cons, printLine_eq h, ih hquiet, ← showing_append, List.singleton_append]

theorem summarize_eq (h : j.quiet = false) :
    j.summarize = j.showing (summary j.results j.warnings) := by
  simp only [summarize, summary, warningLines, printLine_eq, foldl_printLine, quiet_showing,
    warnings_showing, h, ← showing_append]
  split <;> simp

/-! ## Closing -/

section Close

variable {s : Span} {outer : List Activity}

theorem close_of_other (hquiet : j.quiet = false)
    (h : ∀ s outer, j.running = .span s :: outer → s.name ≠ j.name) :
    close j = .ok () (j.showing early) := by
  rw [early, ← printLine_eq hquiet]
  obtain ⟨own, quiet, clock, passing, running, results, warnings, notes⟩ := j
  cases running with
  | nil => rfl
  | cons a outer =>
      cases a with
      | counter c => rfl
      | span s =>
          have hother : (s.name == own) = false := beq_false_of_ne (h s outer rfl)
          simp [close, run_bind, hother]

/-- A span of the journal's name is taken off, and then everything is summed up. -/
theorem close_of_own (hr : j.running = .span s :: outer) (hname : s.name = j.name) :
    close j = (do
      keep (spanLine j.name s.started j.reading) s.nested
      modify fun k => (k.printLine (spanLine j.name s.started j.reading)).summarize :
        Journaling Unit) ({ j with running := outer } : Journal).timed := by
  obtain ⟨own, quiet, clock, passing, running, results, warnings, notes⟩ := j
  dsimp only at hr hname ⊢
  subst hr hname
  let j : Journal := ⟨s.name, quiet, clock, passing, outer, results, warnings, notes⟩
  have hclose : close { j with running := .span s :: j.running } = (do
      stop s.name
      modify summarize : Journaling Unit) { j with running := .span s :: j.running } := by
    simp [close, run_bind, j]
  refine hclose.trans ?_
  let line := spanLine s.name s.started j.reading
  change _ = (keep line s.nested >>= fun _ => modify fun k => (k.printLine line).summarize) j.timed
  rw [run_bind, stop_own, run_bind, run_bind]
  cases keep line s.nested j.timed <;> rfl

/-! ## Keeping the last line -/

theorem keep_outermost (hr : j.running = []) (line : String) (inside : List String) :
    keep line inside j
      = .ok () { j with results := j.results ++ setIn 0 line :: inside } := by
  obtain ⟨own, quiet, clock, passing, running, results, warnings, notes⟩ := j
  cases hr
  rfl

theorem keep_inSpan (hr : j.running = .span s :: outer) (line : String) (inside : List String) :
    ∃ s', keep line inside j = .ok () { j with running := .span s' :: outer } := by
  obtain ⟨own, quiet, clock, passing, running, results, warnings, notes⟩ := j
  cases hr
  exact ⟨_, rfl⟩

theorem keep_inCounter {c : Counter} (hr : j.running = .counter c :: outer) (line : String)
    (inside : List String) : keep line inside j = .error .finishedInsideCounter j := by
  obtain ⟨own, quiet, clock, passing, running, results, warnings, notes⟩ := j
  cases hr
  rfl

/-- What is shown once the line of the journal's own span has been kept. -/
theorem close_of_kept (hr : j.running = .span s :: outer) (hname : s.name = j.name)
    (hkeep : keep (spanLine j.name s.started j.reading) s.nested
      ({ j with running := outer } : Journal).timed = .ok () k) (hquiet : k.quiet = false) :
    close j = .ok ()
      (k.showing (spanLine j.name s.started j.reading :: summary k.results k.warnings)) := by
  rw [close_of_own hr hname, bind_of_ok hkeep, run_modify, printLine_eq hquiet]
  have hshown : (k.showing [spanLine j.name s.started j.reading]).quiet = false := hquiet
  rw [summarize_eq hshown, ← showing_append]
  rfl

/-- In the outermost span everything that has finished is summed up. -/
theorem close_of_last (hquiet : j.quiet = false) (hr : j.running = [.span s])
    (hname : s.name = j.name) :
    ∃ k, close j = .ok () k ∧ k.running = []
      ∧ k.results = j.results ++ setIn 0 (spanLine j.name s.started j.reading) :: s.nested
      ∧ k.notes = j.notes
        ++ shown (spanLine j.name s.started j.reading :: summary k.results j.warnings) :=
  ⟨_, close_of_kept hr hname (keep_outermost rfl _ _) hquiet, rfl, rfl, rfl⟩

/-- In another span of this name only what has finished outside of all spans is summed
up. -/
theorem close_of_namesake {t : Span} (hquiet : j.quiet = false)
    (hr : j.running = .span s :: .span t :: outer) (hname : s.name = j.name) :
    ∃ k, close j = .ok () k
      ∧ k.notes = j.notes
        ++ shown (spanLine j.name s.started j.reading :: summary j.results j.warnings) := by
  obtain ⟨t', ht'⟩ := keep_inSpan
    (j := ({ j with running := .span t :: outer } : Journal).timed) rfl
    (spanLine j.name s.started j.reading) s.nested
  exact ⟨_, close_of_kept hr hname ht' hquiet, rfl⟩

theorem close_of_covering {c : Counter} (hr : j.running = .span s :: .counter c :: outer)
    (hname : s.name = j.name) :
    close j = .error .finishedInsideCounter
      ({ j with running := .counter c :: outer } : Journal).timed :=
  (close_of_own hr hname).trans (bind_of_error (keep_inCounter rfl _ _))

end Close

/-! ## What is left as it was -/

/-- The warnings that are given by uses. -/
def warningsOf (uses : List Timed) : List String :=
  uses.filterMap fun u => match u.use with
    | .warn text => some text
    | _ => none

/-- A use that is no warning changes what is running, what has finished, what was shown and
the clock, and nothing else. -/
theorem Steady.act {α : Type} {part : Journal → α} (steady : Steady part) {u : Timed}
    (huse : ∀ text, u.use ≠ .warn text) (h : u.act j = .ok () k) : part k = part j := by
  obtain ⟨clock, use⟩ := u
  have hclock : part (j.atTime clock) = part j := steady j clock [] _ _ _
  have hkept : ∀ {action : Journaling Unit}, Keeps (Same part) action →
      action (j.atTime clock) = .ok () k → part k = part j := by
    intro action haction hk
    have hsame := haction (j.atTime clock)
    rw [hk] at hsame
    exact Eq.trans hsame hclock
  cases use with
  | start name =>
      cases h
      exact (steady.start _ name).trans hclock
  | stop name => exact hkept (steady.stop name) h
  | count label total => exact hkept (steady.startCounter label total) h
  | next => exact hkept steady.next h
  | warn text => exact absurd rfl (huse text)

theorem warn_or_not (use : Use) : (∃ text, use = .warn text) ∨ ∀ text, use ≠ .warn text := by
  cases use <;> simp

/-- What warnings leave alone as well is as it was in the beginning. -/
theorem Reached.part_eq {α : Type} (part : Journal → α) (steady : Steady part)
    (hother : ∀ (j : Journal) warnings, part { j with warnings } = part j)
    (h : Reached name quiet uses j) : part j = part ⟨name, quiet, 0, [], [], [], [], []⟩ := by
  induction h with
  | new => exact steady.start _ name
  | @use uses u j k _ hact ih =>
      refine Eq.trans ?_ ih
      obtain ⟨clock, use⟩ := u
      rcases warn_or_not use with ⟨text, rfl⟩ | huse
      · cases hact
        exact (steady _ _ _ _ _ _).trans (hother j _)
      · exact steady.act huse hact

theorem Reached.name_eq (h : Reached name quiet uses j) : j.name = name :=
  h.part_eq Journal.name (fun _ _ _ _ _ _ => rfl) fun _ _ => rfl

theorem Reached.quiet_eq (h : Reached name quiet uses j) : j.quiet = quiet :=
  h.part_eq Journal.quiet (fun _ _ _ _ _ _ => rfl) fun _ _ => rfl

/-- A journal has the warnings that its uses have given. -/
theorem Reached.warnings_eq (h : Reached name quiet uses j) : j.warnings = warningsOf uses := by
  induction h with
  | new => exact steady_warnings.start _ name
  | @use uses u j k _ hact ih =>
      obtain ⟨clock, use⟩ := u
      rw [warningsOf, List.filterMap_append, ← warningsOf, ← ih]
      rcases warn_or_not use with ⟨text, rfl⟩ | huse
      · cases hact
        rfl
      · rw [steady_warnings.act huse hact]
        cases use with
        | warn text => exact absurd rfl (huse text)
        | _ => exact (List.append_nil _).symm

/-! ## Spans of the journal's name -/

/-- No span of this name is inside of anything. -/
def Outermost (name : String) (running : List Activity) : Prop :=
  ∀ s outer, .span s :: outer <:+ running → s.name = name → outer = []

section Outermost

variable {s : Span} {c : Counter} {outer : List Activity}

theorem outermost_span :
    Outermost name (.span s :: outer) ↔ (s.name = name → outer = []) ∧ Outermost name outer := by
  constructor
  · intro h
    exact ⟨h s outer List.suffix_rfl, fun t rest ht => h t rest (ht.trans (List.suffix_cons _ _))⟩
  · rintro ⟨htop, h⟩ t rest ht
    rcases List.suffix_cons_iff.1 ht with heq | ht
    · cases heq
      exact htop
    · exact h t rest ht

theorem outermost_counter : Outermost name (.counter c :: outer) ↔ Outermost name outer := by
  constructor
  · exact fun h t rest ht => h t rest (ht.trans (List.suffix_cons _ _))
  · intro h t rest ht
    rcases List.suffix_cons_iff.1 ht with heq | ht
    · cases heq
    · exact h t rest ht

theorem Kept.outermost {lines : List String} {before after : Held} (h : Kept lines before after)
    (ho : Outermost name before.running) : Outermost name after.running := by
  cases h with
  | outside => exact ho
  | inSpan =>
      obtain ⟨htop, houter⟩ := outermost_span.1 ho
      exact outermost_span.2 ⟨htop, houter⟩

theorem Step.outermost {clock : Nat} {use : Use} {before after : Held}
    (h : Step clock use before after) (huse : use ≠ .start name)
    (ho : Outermost name before.running) : Outermost name after.running := by
  cases h with
  | start => exact outermost_span.2 ⟨fun heq => absurd (congrArg Use.start heq) huse, ho⟩
  | stop hkept => exact hkept.outermost (outermost_span.1 ho).2
  | countNothing => exact ho
  | count _ => exact outermost_counter.2 ho
  | next _ => exact outermost_counter.2 (outermost_counter.1 ho)
  | last _ hkept => exact hkept.outermost (outermost_counter.1 ho)
  | warn => exact ho

theorem Reached.outermost (h : Reached name quiet uses j)
    (huses : ∀ u ∈ uses, u.use ≠ .start name) : Outermost name j.running := by
  induction h with
  | new =>
      rw [running_new, outermost_span]
      exact ⟨fun _ => rfl, fun s outer hs => by cases List.suffix_nil.1 hs⟩
  | use _ hact ih =>
      exact (step_of_act hact).outermost (huses _ (by simp)) (ih fun u hu => huses u (by simp [hu]))

end Outermost

/-- **What a journal shows in the end.** If nothing but the outermost span is running when it
closes, it shows the line of that span, all lines there are with that line among them, and all
warnings behind their number, if there are any. If the innermost activity is no span of the
journal's name, it shows that it closes too early, and nothing else. Since the name is all
that is looked at, this goes wrong where a span of this name has begun inside of something
else: inside of another span it is ended, and only the lines outside of all spans are
shown, which look like a summary; inside of a counter it cannot end. Nothing goes wrong if
no span of the journal's name was begun in addition. -/
theorem closing_goes_by_name (h : Reached name false uses j) (clock : Nat) :
    (∀ s, j.running = [.span s] → s.name = name →
        ∃ above below k, close (j.atTime clock) = .ok () k ∧ k.running = []
          ∧ j.finished = above ++ below
          ∧ k.finished = above ++ setIn 0 (spanLine name s.started clock) :: below
          ∧ k.notes = j.notes ++ shown
            (spanLine name s.started clock :: summary k.finished (warningsOf uses)))
      ∧ ((∀ s outer, j.running = .span s :: outer → s.name ≠ name) →
        ∃ k, close (j.atTime clock) = .ok () k ∧ k.notes = j.notes ++ shown early)
      ∧ (∀ s t outer, j.running = .span s :: .span t :: outer → s.name = name →
        ∃ k, close (j.atTime clock) = .ok () k ∧ k.notes = j.notes ++ shown
          (spanLine name s.started clock :: summary j.results (warningsOf uses)))
      ∧ (∀ s c outer, j.running = .span s :: .counter c :: outer → s.name = name →
        ∃ k, close (j.atTime clock) = .error .finishedInsideCounter k ∧ k.notes = j.notes)
      ∧ ((∀ u ∈ uses, u.use ≠ .start name) → ∀ a b outer, j.running = a :: b :: outer →
        ∃ k, close (j.atTime clock) = .ok () k ∧ k.notes = j.notes ++ shown early) := by
  obtain rfl : j.name = name := h.name_eq
  have hquiet : j.quiet = false := h.quiet_eq
  have hearly : (∀ s outer, j.running = .span s :: outer → s.name ≠ j.name) →
      ∃ k, close (j.atTime clock) = .ok () k ∧ k.notes = j.notes ++ shown early :=
    fun hother => ⟨_, close_of_other (j := j.atTime clock) hquiet hother, rfl⟩
  rw [← h.warnings_eq]
  refine ⟨?_, hearly, ?_, ?_, ?_⟩
  · intro s hr hs
    obtain ⟨k, hk, hrunning, hresults, hnotes⟩ := @close_of_last (j.atTime clock) s hquiet hr hs
    have hfinished : k.finished = k.results := by
      rw [Journal.finished, hrunning]
      exact List.append_nil _
    refine ⟨j.results, s.nested, k, hk, hrunning, ?_, hfinished.trans hresults, ?_⟩
    · simp [Journal.finished, hr, Activity.inside]
    · rw [hfinished]
      exact hnotes
  · intro s t outer hr hs
    exact @close_of_namesake (j.atTime clock) s outer t hquiet hr hs
  · intro s c outer hr hs
    exact ⟨_, @close_of_covering (j.atTime clock) s outer c hr hs, rfl⟩
  · intro huses a b outer hr
    refine hearly fun s rest hs hsname => ?_
    have hrest := h.outermost huses s rest (hs ▸ List.suffix_rfl) hsname
    rw [hr] at hs
    cases hs
    cases hrest

/-- A second span of the journal's name is running: nothing of the first one is shown, and
what is shown is no word of an early end. -/
theorem closing_goes_by_name_twice :
    ∃ j k, Reached "outer" false [⟨1, .start "outer"⟩] j ∧ j.running.length = 2
      ∧ close (j.atTime 2) = .ok () k
      ∧ k.notes = j.notes ++ shown [spanLine "outer" 1 2, "", ""] := by
  have hreached : Reached "outer" false [⟨1, .start "outer"⟩] _ := Reached.append .new rfl
  obtain ⟨-, -, hnamesake, -⟩ := closing_goes_by_name hreached 2
  obtain ⟨k, hk, hnotes⟩ := hnamesake ⟨"outer", 1, []⟩ ⟨"outer", 0, []⟩ [] rfl rfl
  exact ⟨_, k, hreached, rfl, hk, hnotes⟩

end Populace.Journal
