import Populace.Proofs.Census.Course
import Populace.Proofs.Journal.Activities

/-!
# Carrying a plan out

A run that carries a plan out hands over the course of the plan, and the journal never
gets in its way: `Follows` says that a run ends as a delivery does. From this comes what
any sink is called with, and how any run ends.
-/

namespace Populace.Census

open Populace.People Populace.Random

variable {σ : Type}

/-! ## Parts of a run -/

namespace Run

variable {α : Type} {g h : Xorshift} {j k : Journal} {s t : σ} {a : α} {e : Failure}

theorem journaling_of_ok {action : Journaling α} (hj : action j = .ok a k) :
    Run.journaling action (⟨g, j, s⟩ : Run σ) = .ok a ⟨g, k, s⟩ := by
  simp only [Run.journaling, journaled, hj]

theorem drawing_of_ok {action : Drawing α} (hg : action g = .ok a h) :
    Run.drawing action (⟨g, j, s⟩ : Run σ) = .ok a ⟨h, j, s⟩ := by
  simp only [Run.drawing, hg]

theorem drawing_of_error {action : Drawing α} (hg : action g = .error e h) :
    Run.drawing action (⟨g, j, s⟩ : Run σ) = .error e ⟨h, j, s⟩ := by
  simp only [Run.drawing, hg]

theorem sinking_of_ok {action : EStateM Failure σ α} (hs : action s = .ok a t) :
    Run.sinking action (⟨g, j, s⟩ : Run σ) = .ok a ⟨g, j, t⟩ := by
  simp only [Run.sinking, hs]

theorem sinking_of_error {action : EStateM Failure σ α} (hs : action s = .error e t) :
    Run.sinking action (⟨g, j, s⟩ : Run σ) = .error e ⟨g, j, t⟩ := by
  simp only [Run.sinking, hs]

theorem ok_of_journaling {action : Journaling α} {r r' : Run σ}
    (h : Run.journaling action r = .ok a r') : action r.journal = .ok a r'.journal := by
  rw [Run.journaling] at h
  cases hj : journaled action r.journal with
  | error e k => simp [hj] at h
  | ok b k =>
      simp only [hj, EStateM.Result.ok.injEq] at h
      obtain ⟨rfl, rfl⟩ := h
      exact journaled_eq_ok_iff.1 hj

/-- A sink leaves the journal alone. -/
theorem journal_behind_sinking (action : EStateM Failure σ α) (r : Run σ) :
    (stateBehind (Run.sinking action r)).journal = r.journal := by
  rw [Run.sinking]
  cases action r.sink <;> rfl

/-- A draw leaves the journal alone. -/
theorem journal_behind_drawing (action : Drawing α) (r : Run σ) :
    (stateBehind (Run.drawing action r)).journal = r.journal := by
  rw [Run.drawing]
  cases action r.generator <;> rfl

theorem inContext_drawing (c : Context) (action : Drawing α) :
    (inContext c (Run.drawing action) : EStateM Failure (Run σ) α)
      = Run.drawing (inContext c action) := by
  funext ⟨g, j, s⟩
  cases h : action g with
  | ok a g => rw [drawing_of_ok (inContext_of_ok h), inContext_of_ok (drawing_of_ok h)]
  | error e g =>
      rw [drawing_of_error (inContext_of_error h), inContext_of_error (drawing_of_error h)]

end Run

/-! ## A run follows a course -/

/-- The run ends as a delivery does, and with a journal that passes a test if it
succeeds. -/
def Follows (P : Journal → Prop) (run : EStateM.Result Failure (Run σ) Unit) :
    EStateM.Result Failure (Xorshift × σ) Unit → Prop
  | .ok _ (g, s) => ∃ j, P j ∧ run = .ok () ⟨g, j, s⟩
  | .error e (g, s) => ∃ j, run = .error e ⟨g, j, s⟩

/-- Two actions in a row follow two deliveries in a row. -/
theorem Follows.bind {P Q : Journal → Prop} {x y : EStateM Failure (Run σ) Unit} {r : Run σ}
    {d : EStateM.Result Failure (Xorshift × σ) Unit}
    {next : Xorshift → σ → EStateM.Result Failure (Xorshift × σ) Unit}
    (hx : Follows P (x r) d) (hy : ∀ g j s, P j → Follows Q (y ⟨g, j, s⟩) (next g s)) :
    Follows Q ((x >>= fun _ => y) r) (Course.deliverThen d next) := by
  cases d with
  | ok _ gs =>
      obtain ⟨j, hj, hrun⟩ := hx
      rw [bind_of_ok hrun]
      exact hy _ _ _ hj
  | error e gs =>
      obtain ⟨j, hrun⟩ := hx
      exact ⟨j, bind_of_error hrun⟩

section Runs

variable (w : Setting) (sink : Sink σ) {name : String} {outer : List Activity}

/-- The person made next is handed over, unless making it fails. -/
theorem emitPerson_follows (country : String) (shape : Shape) {items : Nat} {j : Journal}
    (hj : j.Awaits name outer (items + 1)) (g : Xorshift) (s : σ) :
    Follows (Journal.Awaits name outer items) (emitPerson w sink country shape ⟨g, j, s⟩)
      ((Course.ofPerson w country shape g).deliver sink s) := by
  obtain ⟨k, hnext, hk⟩ := Journal.awaits_next hj
  rw [emitPerson, bind_of_ok (Run.journaling_of_ok hnext), Run.inContext_drawing,
    Course.ofPerson]
  cases hdraw : inContext (.making country)
      (Person.draw shape w.data.names w.options w.today) g with
  | error e g => exact ⟨k, bind_of_error (Run.drawing_of_error hdraw)⟩
  | ok person g =>
      rw [bind_of_ok (Run.drawing_of_ok hdraw)]
      simp only [Course.deliver_cons]
      cases hemit : sink.emit person s with
      | ok _ t => exact ⟨k, hk, Run.sinking_of_ok hemit⟩
      | error e t => exact ⟨k, Run.sinking_of_error hemit⟩

theorem emitPeople_follows (country : String) (shape : Shape) {items : Nat} {j : Journal}
    (hj : j.Awaits name outer items) (g : Xorshift) (s : σ) :
    Follows (Journal.InSpan name outer) (emitPeople w sink country shape items ⟨g, j, s⟩)
      ((Course.ofPeople w country shape items g).deliver sink s) := by
  induction items generalizing g j s with
  | zero => exact ⟨j, hj, rfl⟩
  | succ items ih =>
      rw [emitPeople, Course.ofPeople, Course.deliver_andThen]
      exact (emitPerson_follows w sink country shape hj g s).bind fun g j s hj => ih hj g s

theorem emitCountry_follows (country : String) (quota : UInt64) {j : Journal}
    (hj : j.InSpan name outer) (g : Xorshift) (s : σ) :
    Follows (Journal.InSpan name outer) (emitCountry w sink country quota ⟨g, j, s⟩)
      ((Course.ofCountry w country quota g).deliver sink s) := by
  rw [emitCountry, Course.ofCountry]
  cases hshape : shape? w.data country w.options.model with
  | none => exact ⟨j, rfl⟩
  | some found =>
      obtain ⟨shape, warning?⟩ := found
      have hcounted : ∀ k : Journal, k.InSpan name outer →
          Follows (Journal.InSpan name outer)
            ((Run.journaling (Journal.startCounter (countryCounter country) quota.toNat)
              >>= fun _ => emitPeople w sink country shape quota.toNat) ⟨g, k, s⟩)
            ((Course.ofPeople w country shape quota.toNat g).deliver sink s) := by
        intro k hk
        obtain ⟨l, hcount, hl⟩ :=
          Journal.awaits_startCounter hk (countryCounter country) quota.toNat
        rw [bind_of_ok (Run.journaling_of_ok hcount)]
        exact emitPeople_follows w sink country shape hl g s
      -- a warning stays within the span
      cases warning? with
      | none => exact hcounted j hj
      | some warning => exact hcounted (j.warn warning) hj

/-- Countries are carried out one behind the other, as their courses are. -/
theorem emitCountries_follows (countries : List (String × UInt64)) {j : Journal}
    (hj : j.InSpan name outer) (g : Xorshift) (s : σ) :
    Follows (Journal.InSpan name outer) (emitCountries w sink countries ⟨g, j, s⟩)
      ((Course.ofCountries w countries g).deliver sink s) := by
  induction countries generalizing g j s with
  | nil => exact ⟨j, hj, rfl⟩
  | cons entry rest ih =>
      obtain ⟨country, quota⟩ := entry
      rw [emitCountries, Course.ofCountries, Course.deliver_andThen]
      exact (emitCountry_follows w sink country quota hj g s).bind fun g j s hj => ih hj g s

end Runs

/-! ## The whole plan -/

section Plans

variable (plan : Plan) (w : Setting) (sink : Sink σ) {g h : Xorshift} {j : Journal} {s t : σ}

/-- What is done once the span of a run has begun. -/
theorem emit_eq (g : Xorshift) (j : Journal) (s : σ) :
    plan.emit w sink ⟨g, j, s⟩ = (do
      emitCountries w sink plan.quotas.entries
      Run.sinking sink.finish
      Run.journaling (Journal.stop generatingSpan)
      return plan.total : EStateM Failure (Run σ) UInt64) ⟨g, j.start generatingSpan, s⟩ :=
  rfl

/-- A run whose delivery fails is over: the sink is not finished. -/
theorem emit_of_deliver_error (j : Journal) {e : Failure}
    (hd : (plan.course w g).deliver sink s = .error e (h, t)) :
    ∃ k, plan.emit w sink ⟨g, j, s⟩ = .error e ⟨h, k, t⟩ := by
  have hspan : (j.start generatingSpan).InSpan generatingSpan j.running :=
    Journal.inSpan_start j generatingSpan
  have hrun := emitCountries_follows w sink plan.quotas.entries hspan g s
  rw [Plan.course] at hd
  rw [hd] at hrun
  obtain ⟨k, hk⟩ := hrun
  exact ⟨k, by rw [emit_eq, bind_of_error hk]⟩

/-- A run that comes to its end finishes the sink, and succeeds if that does. -/
theorem emit_of_deliver_ok (hj : j.NotCounting)
    (hd : (plan.course w g).deliver sink s = .ok () (h, t)) :
    ∃ k, plan.emit w sink ⟨g, j, s⟩ = match sink.finish t with
      | .ok _ u => .ok plan.total ⟨h, k, u⟩
      | .error e u => .error e ⟨h, k, u⟩ := by
  have hspan : (j.start generatingSpan).InSpan generatingSpan j.running :=
    Journal.inSpan_start j generatingSpan
  have hrun := emitCountries_follows w sink plan.quotas.entries hspan g s
  rw [Plan.course] at hd
  rw [hd] at hrun
  obtain ⟨k, hk, hcountries⟩ := hrun
  rw [emit_eq, bind_of_ok hcountries]
  cases hfinish : sink.finish t with
  | error e u => exact ⟨k, bind_of_error (Run.sinking_of_error hfinish)⟩
  | ok _ u =>
      obtain ⟨l, hstop, -⟩ := Journal.stop_of_inSpan hk hj
      refine ⟨l, ?_⟩
      rw [bind_of_ok (Run.sinking_of_ok hfinish), bind_of_ok (Run.journaling_of_ok hstop)]
      rfl

/-- A run that succeeds has not begun inside a counter: its span could not have ended. -/
theorem notCounting_of_emit {n : UInt64} {r : Run σ}
    (h : plan.emit w sink ⟨g, j, s⟩ = .ok n r) : j.NotCounting := by
  have hspan : (j.start generatingSpan).InSpan generatingSpan j.running :=
    Journal.inSpan_start j generatingSpan
  have hrun := emitCountries_follows w sink plan.quotas.entries hspan g s
  rw [emit_eq] at h
  obtain ⟨_, r₁, hcountries, h⟩ := bind_eq_ok_iff.1 h
  obtain ⟨_, r₂, hfinish, h⟩ := bind_eq_ok_iff.1 h
  obtain ⟨_, r₃, hstop, -⟩ := bind_eq_ok_iff.1 h
  -- the journal is still in the span when everybody has been handed over
  have hr₁ : r₁.journal.InSpan generatingSpan j.running := by
    rw [hcountries] at hrun
    cases hd : (Course.ofCountries w plan.quotas.entries g).deliver sink s with
    | error e gs =>
        rw [hd] at hrun
        obtain ⟨k, hk⟩ := hrun
        cases hk
    | ok _ gs =>
        rw [hd] at hrun
        obtain ⟨k, hk, heq⟩ := hrun
        cases heq
        exact hk
  have hr₂ : r₂.journal = r₁.journal := by
    have hkept := Run.journal_behind_sinking sink.finish r₁
    rwa [hfinish] at hkept
  rw [← hr₂] at hr₁
  exact Journal.not_counting_of_stop hr₁ (Run.ok_of_journaling hstop)

end Plans

end Populace.Census
