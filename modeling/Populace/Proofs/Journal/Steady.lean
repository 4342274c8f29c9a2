import Populace.Proofs.Journal.Uses

/-!
# What uses leave alone

Spans and counters may begin and end, and uses without a meaning may fail, but all that
changes is the clock, what is running, what has finished and what was shown. The warnings
of a journal have nothing to do with that (`Steady`), so they stay as they are.
-/

namespace Populace.Journal

variable {α : Type}

/-- The part is no matter of the clock, what is running, what has finished and what was
shown. -/
def Steady (part : Journal → α) : Prop :=
  ∀ (j : Journal) clock passing running results notes,
    part { j with clock, passing, running, results, notes } = part j

/-- The part is the same in both journals. -/
def Same (part : Journal → α) (j k : Journal) : Prop := part k = part j

theorem Same.trans {part : Journal → α} {j k l : Journal} (h : Same part j k)
    (h' : Same part k l) : Same part j l := Eq.trans h' h

theorem steady_warnings : Steady warnings := fun _ _ _ _ _ _ => rfl

/-- Both journals have the same warnings. -/
def SameWarnings (j k : Journal) : Prop := k.warnings = j.warnings

theorem SameWarnings.trans {j k l : Journal} (h : SameWarnings j k) (h' : SameWarnings k l) :
    SameWarnings j l := Eq.trans h' h

namespace Steady

variable {part : Journal → α} (steady : Steady part)

include steady

theorem print (j : Journal) (text : String) : part (j.print text) = part j := by
  rw [Journal.print]
  split
  · rfl
  · exact steady j _ _ _ _ _

theorem printLine (j : Journal) (line : String) : part (j.printLine line) = part j :=
  steady.print j _

theorem start (j : Journal) (name : String) : part (j.start name) = part j :=
  (steady (j.printLine (name ++ "...")) _ _ _ _ _).trans (steady.printLine j _)

theorem goOn (j : Journal) (c : Counter) (outer : List Activity) :
    part (j.goOn c outer) = part j := by
  rw [Journal.goOn]
  split
  · exact (steady.print _ _).trans (steady j _ _ _ _ _)
  · exact steady j _ _ _ _ _

theorem keep (line : String) (inside : List String) :
    Keeps (Same part) (Journal.keep line inside) := by
  intro j
  rw [Journal.keep, bind_of_ok (run_get j)]
  cases hr : j.running with
  | nil => exact steady j _ _ _ _ _
  | cons a outer =>
      cases a with
      | span s => exact steady j _ _ _ _ _
      | counter c => rfl

theorem stop (name : String) : Keeps (Same part) (Journal.stop name) := by
  intro j
  obtain ⟨own, quiet, clock, passing, running, results, warnings, notes⟩ := j
  cases running with
  | nil => rfl
  | cons a outer =>
      let j : Journal := ⟨own, quiet, clock, passing, outer, results, warnings, notes⟩
      cases a with
      | counter c => exact steady { j with running := .counter c :: outer } _ _ _ _ _
      | span s =>
          -- the span is taken off before its name is looked at
          have htaken : Same part { j with running := .span s :: outer } j :=
            steady { j with running := .span s :: outer } _ _ _ _ _
          by_cases hname : s.name = name
          · subst hname
            have hshown : ∀ line,
                Keeps (Same part) (modify (·.printLine line) : Journaling Unit) :=
              fun line k => steady.printLine k line
            have hstop := (steady.keep (spanLine s.name s.started j.reading) s.nested).bind .trans
              (fun _ => hshown (spanLine s.name s.started j.reading)) j.timed
            rw [← stop_own] at hstop
            exact htaken.trans (Same.trans (steady j _ _ _ _ _) hstop)
          · have hstop := congrArg stateBehind (stop_other j hname)
            exact htaken.trans (congrArg part hstop)

theorem startCounter (label : String) (total : Nat) :
    Keeps (Same part) (Journal.startCounter label total) := by
  intro j
  rw [Journal.startCounter]
  split
  · rw [bind_of_ok (run_get j)]
    cases hr : j.running with
    | nil => exact steady j _ _ _ _ _
    | cons a outer =>
        cases a with
        | span s => exact steady j _ _ _ _ _
        | counter c => rfl
  · rfl

theorem next : Keeps (Same part) Journal.next := by
  intro j
  rw [Journal.next, bind_of_ok (run_get j)]
  cases hr : j.running with
  | nil => rfl
  | cons a outer =>
      cases a with
      | span s => rfl
      | counter c =>
          dsimp only
          split
          · exact steady j _ _ _ _ _
          · split
            · -- the counter ends with a line that is shown and one that is kept
              refine Same.trans ?_ (steady.keep _ _ _)
              exact (steady.print _ _).trans (steady j _ _ _ _ _)
            · exact (steady.goOn _ _ _).trans (steady j _ _ _ _ _)

end Steady

end Populace.Journal
