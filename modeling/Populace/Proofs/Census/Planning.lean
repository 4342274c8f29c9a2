import Populace.Census.Plan
import Populace.Proofs.Census.Shares
import Populace.Proofs.Journal.Activities
import Populace.Proofs.People.Mishaps

/-!
# What there is once a plan is made

Planning refuses ages that are no range of those allowed, and data with nobody online; what
is left is to end its span, which no counter may be running around. So a plan that was made
shares the people out, and its journal can be used on (`Planned`).
-/

namespace Populace.Census

open Populace.People

/-- Telling who gets nobody is only noted. -/
theorem logSkipped_eq (countries : List String) (j : Journal) :
    ∃ notes, logSkipped countries j = { j with notes := notes } := by
  induction countries generalizing j with
  | nil => exact ⟨j.notes, rfl⟩
  | cons country rest ih =>
      obtain ⟨notes, hnotes⟩ := ih (j.log .debug .sharing (skipMessage country))
      exact ⟨notes, hnotes⟩

@[simp] theorem running_logSkipped (countries : List String) (j : Journal) :
    (logSkipped countries j).running = j.running := by
  obtain ⟨notes, hnotes⟩ := logSkipped_eq countries j
  rw [hnotes]

/-- What is known of a plan that was made, and of the journals around the making. -/
structure Planned (data : Reference) (options : Options) (j : Journal) (plan : Plan)
    (k : Journal) : Prop where
  ages : options.HasAges
  quotas : allocate data.users data.locations options.people = .ok plan.quotas
  total : plan.total = plan.quotas.values.foldr (· + ·) 0
  before : j.NotCounting
  behind : k.NotCounting

/-- The state of a journal in which the people have been shared out. -/
def sharedOut (data : Reference) (options : Options) (quotas : Table UInt64) (j : Journal) :
    Journal :=
  (logSkipped (unlocated data.users data.locations) (j.start planningSpan)).log .info .planning
    (planMessage data.users quotas (quotas.values.foldr (· + ·) 0) options.people)

theorem inSpan_sharedOut (data : Reference) (options : Options) (quotas : Table UInt64)
    (j : Journal) : (sharedOut data options quotas j).InSpan planningSpan j.running := by
  obtain ⟨s, hname, hs⟩ := Journal.inSpan_start j planningSpan
  exact ⟨s, hname, by simp [sharedOut, hs]⟩

/-- Planning comes down to the end of its span. -/
theorem new_eq {data : Reference} {options : Options} {quotas : Table UInt64}
    (hages : options.HasAges)
    (hquotas : allocate data.users data.locations options.people = .ok quotas) (j : Journal) :
    Plan.new data options j = (do
      journaled (Journal.stop planningSpan)
      return { quotas, total := quotas.values.foldr (· + ·) 0 } : EStateM Failure Journal Plan)
        (sharedOut data options quotas j) := by
  rw [Plan.new, Options.check_eq_ok_iff.2 hages, bind_of_ok (orRefuse_ok () j), hquotas]
  rfl

theorem new_refused_ages {data : Reference} {options : Options} (hages : ¬ options.HasAges)
    (j : Journal) :
    Plan.new data options j
      = .error (.of (.ages options.leastAge options.greatestAge)) j := by
  rw [Plan.new, Options.check, if_neg hages, bind_of_error (orRefuse_error _ j)]

theorem new_refused_users {data : Reference} {options : Options} {c : Cause}
    (hages : options.HasAges)
    (hquotas : allocate data.users data.locations options.people = .error c) (j : Journal) :
    Plan.new data options j = .error (.of c) (j.start planningSpan) := by
  rw [Plan.new, Options.check_eq_ok_iff.2 hages, bind_of_ok (orRefuse_ok () j), hquotas]
  rfl

theorem planned_of_new {data : Reference} {options : Options} {j k : Journal} {plan : Plan}
    (h : Plan.new data options j = .ok plan k) : Planned data options j plan k := by
  by_cases hages : options.HasAges
  · cases hquotas : allocate data.users data.locations options.people with
    | error c =>
        rw [new_refused_users hages hquotas] at h
        cases h
    | ok quotas =>
        rw [new_eq hages hquotas, bind_eq_ok_iff] at h
        obtain ⟨_, l, hstop, hplan⟩ := h
        have hspan := inSpan_sharedOut data options quotas j
        have hstop : Journal.stop planningSpan (sharedOut data options quotas j) = .ok () l :=
          journaled_eq_ok_iff.1 hstop
        have hbefore : j.NotCounting := Journal.not_counting_of_stop hspan hstop
        obtain ⟨l', hstop', hbehind⟩ := Journal.stop_of_inSpan hspan hbefore
        rw [hstop] at hstop'
        cases hstop'
        cases hplan
        exact ⟨hages, hquotas, rfl, hbefore, hbehind⟩
  · rw [new_refused_ages hages] at h
    cases h

end Populace.Census
