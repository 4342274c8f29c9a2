import Populace.Proofs.Journal.Uses

/-!
# Journals of which one shows what the other does not

A quiet journal is used like any other, and none is asked for the time, for what it has
kept, or for what it has shown or logged. So two journals in which the same is running
(`Agree`) go on alike: an action that uses them has the same result with both, and leaves
journals that agree again (`Heedless`).
-/

namespace Populace.Journal

/-- An activity without its times, and without what finished inside. -/
def bare : Activity → Activity
  | .span s => .span ⟨s.name, 0, []⟩
  | .counter c => .counter { c with started := 0, shown := 0 }

/-- The same is running in both journals, whatever the time is and whatever they have kept
and shown. -/
def Agree (j k : Journal) : Prop :=
  j.running.map bare = k.running.map bare

variable {j k l : Journal}

namespace Agree

theorem symm (h : Agree j k) : Agree k j := Eq.symm h

theorem trans (h : Agree j k) (h' : Agree k l) : Agree j l := Eq.trans h h'

/-- What agrees with what it was before agrees in both journals. -/
theorem map {f : Journal → Journal} (hf : ∀ j, Agree j (f j)) (h : Agree j k) :
    Agree (f j) (f k) :=
  (hf j).symm.trans (h.trans (hf k))

end Agree

theorem agree_note (j : Journal) (n : Note) : Agree j (j.note n) := rfl

theorem agree_timed (j : Journal) : Agree j j.timed := rfl

theorem agree_printLine (j : Journal) (line : String) : Agree j (j.printLine line) := by
  rw [Agree, running_printLine]

theorem Agree.start (h : Agree j k) (name : String) : Agree (j.start name) (k.start name) := by
  have hrunning : ∀ j : Journal,
      (j.start name).running.map bare = .span ⟨name, 0, []⟩ :: j.running.map bare := by
    intro j
    rw [show (j.start name).running = _ from congrArg Held.running (held_start j name)]
    rfl
  rw [Agree, hrunning, hrunning, h]

theorem keep_alike (h : Agree j k) (line line' : String) (inside inside' : List String) :
    Alike Agree (keep line inside j) (keep line' inside' k) := by
  obtain ⟨own, quiet, clock, passing, running, results, warnings, notes⟩ := j
  obtain ⟨own', quiet', clock', passing', running', results', warnings', notes'⟩ := k
  cases running with
  | nil =>
      obtain rfl : running' = [] := List.map_eq_nil_iff.1 (Eq.symm h)
      exact .ok rfl
  | cons a outer =>
      obtain ⟨b, outer', rfl, hb, houter⟩ := List.map_eq_cons_iff.1 (Eq.symm h)
      cases a with
      | span s =>
          cases b with
          | span t => exact .ok h
          | counter c => cases hb
      | counter c =>
          cases b with
          | span t => cases hb
          | counter d => exact .error h

theorem stop_alike (h : Agree j k) (name : String) :
    Alike Agree (stop name j) (stop name k) := by
  obtain ⟨own, quiet, clock, passing, running, results, warnings, notes⟩ := j
  obtain ⟨own', quiet', clock', passing', running', results', warnings', notes'⟩ := k
  cases running with
  | nil =>
      obtain rfl : running' = [] := List.map_eq_nil_iff.1 (Eq.symm h)
      exact .error rfl
  | cons a outer =>
      obtain ⟨b, outer', rfl, hb, houter⟩ := List.map_eq_cons_iff.1 (Eq.symm h)
      -- the journals without the innermost activity agree as well
      let i : Journal := ⟨own, quiet, clock, passing, outer, results, warnings, notes⟩
      let i' : Journal := ⟨own', quiet', clock', passing', outer', results', warnings', notes'⟩
      have hagree : Agree i i' := houter.symm
      cases a with
      | counter c =>
          cases b with
          | span t => cases hb
          | counter d => exact .error hagree
      | span s =>
          cases b with
          | counter c => cases hb
          | span t =>
              have hsame : t.name = s.name := by simpa [bare] using hb
              have halike : Alike Agree (stop name { i with running := .span s :: i.running })
                  (stop name { i' with running := .span t :: i'.running }) := by
                by_cases hname : s.name = name
                · have hstop := stop_own i s
                  have hstop' := stop_own i' t
                  rw [hsame] at hstop'
                  rw [hname] at hstop hstop'
                  rw [hstop, hstop']
                  have hkept : Agree i.timed i'.timed :=
                    (agree_timed i).symm.trans (hagree.trans (agree_timed i'))
                  exact (keep_alike hkept _ _ _ _).bind fun _ k k' hk => .ok
                    ((agree_printLine k _).symm.trans (hk.trans (agree_printLine k' _)))
                · rw [stop_other i hname, stop_other i' (hsame ▸ hname), hsame]
                  exact .error hagree
              exact halike

/-! ## Actions that do not look -/

/-- The action heeds neither what is shown nor whether it is. -/
def Heedless {ε α : Type} (action : EStateM ε Journal α) : Prop :=
  ∀ j k, Agree j k → Alike Agree (action j) (action k)

namespace Heedless

variable {ε α β : Type}

theorem done (a : α) : Heedless (pure a : EStateM ε Journal α) :=
  fun _ _ h => .ok h

theorem bind {x : EStateM ε Journal α} {f : α → EStateM ε Journal β} (hx : Heedless x)
    (hf : ∀ a, Heedless (f a)) : Heedless (x >>= f) :=
  fun j k h => (hx j k h).bind fun a _ _ h => hf a _ _ h

theorem modify {f : Journal → Journal} (hf : ∀ j k, Agree j k → Agree (f j) (f k)) :
    Heedless (modify f : EStateM ε Journal PUnit) :=
  fun j k h => .ok (hf j k h)

theorem orRefuse (result : Except Cause α) : Heedless (orRefuse result) :=
  fun _ _ h => alike_orRefuse h result

theorem stop (name : String) : Heedless (journaled (Journal.stop name)) := by
  intro j k h
  rw [journaled, journaled]
  rcases (stop_alike h name).cases with ⟨_, j', k', hj, hk, h⟩ | ⟨m, j', k', hj, hk, h⟩
  · rw [hj, hk]
    exact .ok h
  · rw [hj, hk]
    exact .error h

end Heedless

end Populace.Journal
