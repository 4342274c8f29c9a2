import Populace.Proofs.Census.Delivery

/-!
# What a sink is called with

Tracing a sink changes nothing about a run (`emit_untraces`), so the calls that the traced
sink has kept are those that the sink has got. `emit_offers_one_sequence` tells them for any
sink: the people of the course in order, up to the first one who is refused, and then `finish` if
nobody was refused and nobody is missing.
-/

namespace Populace.Census

open Populace.People Populace.Random

variable {σ α β : Type}

/-! ## Tracing changes nothing -/

/-- The run with the calls forgotten. -/
def Run.untraced (r : Run (Traced σ)) : Run σ :=
  ⟨r.generator, r.journal, r.sink.state⟩

/-- With the calls forgotten, the one action does what the other one does. -/
def Untraces (x : EStateM Failure (Run (Traced σ)) α) (y : EStateM Failure (Run σ) α) : Prop :=
  ∀ r, mapState Run.untraced (x r) = y r.untraced

namespace Untraces

theorem bind {x : EStateM Failure (Run (Traced σ)) α} {y : EStateM Failure (Run σ) α}
    {f : α → EStateM Failure (Run (Traced σ)) β} {h : α → EStateM Failure (Run σ) β}
    (hx : Untraces x y) (hf : ∀ a, Untraces (f a) (h a)) : Untraces (x >>= f) (y >>= h) := by
  intro r
  have hr := hx r
  cases hrun : x r with
  | ok a t =>
      rw [hrun] at hr
      rw [bind_of_ok hrun, bind_of_ok hr.symm]
      exact hf a t
  | error e t =>
      rw [hrun] at hr
      rw [bind_of_error hrun, bind_of_error hr.symm]
      rfl

theorem done (a : α) : Untraces (σ := σ) (pure a) (pure a) :=
  fun _ => rfl

theorem refusal (c : Cause) : Untraces (σ := σ) (refuse c : EStateM _ _ α) (refuse c) :=
  fun _ => rfl

theorem journaling (action : Journaling α) :
    Untraces (σ := σ) (Run.journaling action) (Run.journaling action) := by
  intro ⟨g, j, t⟩
  simp only [Run.journaling, Run.untraced]
  cases journaled action j <;> rfl

theorem drawing (action : Drawing α) :
    Untraces (σ := σ) (Run.drawing action) (Run.drawing action) := by
  intro ⟨g, j, t⟩
  simp only [Run.drawing, Run.untraced]
  cases action g <;> rfl

theorem planning (action : EStateM Failure Journal α) :
    Untraces (σ := σ) (Run.planning action) (Run.planning action) := by
  intro ⟨g, j, t⟩
  simp only [Run.planning, Run.untraced]
  cases action j <;> rfl

theorem call (c : Call) (action : EStateM Failure σ Unit) :
    Untraces (Run.sinking (Traced.call c action)) (Run.sinking action) := by
  intro ⟨g, j, t⟩
  simp only [Run.sinking, Run.untraced, Traced.call]
  cases action t.state <;> rfl

end Untraces

section Tracing

variable (w : Setting) (sink : Sink σ)

theorem emitPerson_untraces (country : String) (shape : Shape) :
    Untraces (emitPerson w sink.traced country shape) (emitPerson w sink country shape) := by
  refine (Untraces.journaling _).bind fun _ => ?_
  rw [Run.inContext_drawing, Run.inContext_drawing]
  exact (Untraces.drawing _).bind fun person => Untraces.call (.emit person) _

theorem emitPeople_untraces (country : String) (shape : Shape) (n : Nat) :
    Untraces (emitPeople w sink.traced country shape n) (emitPeople w sink country shape n) := by
  induction n with
  | zero => exact Untraces.done ()
  | succ n ih => exact (emitPerson_untraces w sink country shape).bind fun _ => ih

theorem emitCountry_untraces (country : String) (quota : UInt64) :
    Untraces (emitCountry w sink.traced country quota) (emitCountry w sink country quota) := by
  unfold emitCountry
  cases shape? w.data country w.options.model with
  | none => exact Untraces.refusal _
  | some found =>
      obtain ⟨shape, warning?⟩ := found
      have hpeople := emitPeople_untraces w sink country shape quota.toNat
      cases warning? with
      | none => exact (Untraces.journaling _).bind fun _ => hpeople
      | some warning =>
          exact (Untraces.journaling _).bind fun _ => (Untraces.journaling _).bind fun _ => hpeople

theorem emitCountries_untraces (countries : List (String × UInt64)) :
    Untraces (emitCountries w sink.traced countries) (emitCountries w sink countries) := by
  induction countries with
  | nil => exact Untraces.done ()
  | cons entry rest ih =>
      obtain ⟨country, quota⟩ := entry
      exact (emitCountry_untraces w sink country quota).bind fun _ => ih

theorem emit_untraces (plan : Plan) :
    Untraces (plan.emit w sink.traced) (plan.emit w sink) :=
  (Untraces.journaling _).bind fun _ =>
    (emitCountries_untraces w sink plan.quotas.entries).bind fun _ =>
      (Untraces.call .finish sink.finish).bind fun _ =>
        (Untraces.journaling _).bind fun _ => Untraces.done plan.total

theorem generate_untraces : Untraces (generate w sink.traced) (generate w sink) :=
  (Untraces.planning _).bind fun plan => emit_untraces w sink plan

end Tracing

/-! ## The calls of a run -/

/-- One call for each person. -/
def emissions (people : List Made) : List Call :=
  people.map fun m => .emit m.person

/-- How a run offers the people of a course to a sink in state `s`, what it leaves of the
generator and the sink, and which calls the sink gets. -/
inductive Offers (sink : Sink σ) (total : UInt64) (s : σ) :
    Course → EStateM.Result Failure (Xorshift × Traced σ) UInt64 → Prop
  /-- The sink takes some people and refuses the one behind them. -/
  | refused {front m back ending t e u} :
    sink.Accepts (front.map Made.person) s t → sink.emit m.person t = .error e u →
      Offers sink total s ⟨front ++ m :: back, ending⟩
        (.error e (m.behind, ⟨emissions (front ++ [m]), u⟩))
  /-- The sink takes everybody who can be made, but that is not everybody. -/
  | incomplete {made e h t} :
    sink.Accepts (made.map Made.person) s t →
      Offers sink total s ⟨made, .error e h⟩ (.error e (h, ⟨emissions made, t⟩))
  /-- The sink takes everybody, but cannot be finished. -/
  | unfinished {made h t e u} :
    sink.Accepts (made.map Made.person) s t → sink.finish t = .error e u →
      Offers sink total s ⟨made, .ok () h⟩ (.error e (h, ⟨emissions made ++ [.finish], u⟩))
  /-- The sink takes everybody and is finished. -/
  | finished {made h t u} :
    sink.Accepts (made.map Made.person) s t → sink.finish t = .ok () u →
      Offers sink total s ⟨made, .ok () h⟩ (.ok total (h, ⟨emissions made ++ [.finish], u⟩))

/-- What is left of a run when its journal is `k`. -/
def Run.ofLeft (k : Journal) (left : Xorshift × σ) : Run σ :=
  ⟨left.1, k, left.2⟩

theorem emissions_append (front back : List Made) :
    emissions (front ++ back) = emissions front ++ emissions back :=
  List.map_append

theorem accepts_traced {sink : Sink σ} {made : List Made} {s t : σ}
    (h : sink.Accepts (made.map Made.person) s t) :
    sink.traced.Accepts (made.map Made.person) ⟨[], s⟩ ⟨emissions made, t⟩ := by
  simpa [emissions, Function.comp_def] using h.traced []

section Offering

variable (plan : Plan) (w : Setting) (sink : Sink σ)

/-- A traced run offers the course of its plan. -/
theorem emit_traced_offers {j : Journal} (hj : j.NotCounting) (g : Xorshift) (s : σ) :
    ∃ k left, Offers sink plan.total s (plan.course w g) left
      ∧ plan.emit w sink.traced ⟨g, j, ⟨[], s⟩⟩ = mapState (Run.ofLeft k) left := by
  obtain ⟨made, ending, hc⟩ : ∃ made ending, plan.course w g = ⟨made, ending⟩ := ⟨_, _, rfl⟩
  rw [hc]
  rcases sink.accepts_or_refuses (made.map Made.person) s with
    ⟨t, ht⟩ | ⟨front, p, back, t, e, u, hsplit, ht, hp⟩
  · -- nobody is refused: the end of the course decides
    have hdeliver : (plan.course w g).deliver sink.traced ⟨[], s⟩
        = mapState (·, ⟨emissions made, t⟩) ending := by
      rw [hc]
      exact Course.deliverAll_of_accepts (accepts_traced ht)
    cases ending with
    | error e h =>
        obtain ⟨k, hk⟩ := emit_of_deliver_error plan w sink.traced j hdeliver
        exact ⟨k, _, .incomplete ht, hk⟩
    | ok _ h =>
        obtain ⟨k, hk⟩ := emit_of_deliver_ok plan w sink.traced hj hdeliver
        cases hfinish : sink.finish t with
        | error e u =>
            rw [Sink.traced_finish_of_error hfinish] at hk
            exact ⟨k, _, .unfinished ht hfinish, hk⟩
        | ok _ u =>
            rw [Sink.traced_finish_of_ok hfinish] at hk
            exact ⟨k, _, .finished ht hfinish, hk⟩
  · -- the first one to be refused was made with a generator that is left behind
    obtain ⟨front, rest, rfl, rfl, hrest⟩ := List.map_eq_append_iff.1 hsplit
    obtain ⟨m, back, rfl, rfl, rfl⟩ := List.map_eq_cons_iff.1 hrest
    have hdeliver : (plan.course w g).deliver sink.traced ⟨[], s⟩
        = .error e (m.behind, ⟨emissions (front ++ [m]), u⟩) := by
      rw [hc, emissions_append]
      exact Course.deliverAll_of_refuses (accepts_traced ht) (Sink.traced_emit_of_error hp)
    obtain ⟨k, hk⟩ := emit_of_deliver_error plan w sink.traced j hdeliver
    exact ⟨k, _, .refused ht hp, hk⟩

/-- **One sequence for every sink.** A plan, the data and a generator determine a course:
everybody who can be made, each drawn from the generator that the one before has left, and
how the making ends. Whatever the sink and wherever it fails, a run offers it exactly the
people of that course, in order and once each, up to the first one it refuses; it is
finished only if nobody was refused or is missing, and then the run succeeds if and only
if finishing does. -/
theorem emit_offers_one_sequence (g : Xorshift) :
    ∃ course : Course,
      (∃ groups h, Course.Accounts w plan.quotas.entries g course groups h)
        ∧ ∀ {σ : Type} (sink : Sink σ) (s : σ) (j : Journal), j.NotCounting →
          ∃ left k, Offers sink plan.total s course left
            ∧ plan.emit w sink.traced ⟨g, j, ⟨[], s⟩⟩ = mapState (Run.ofLeft k) left
            ∧ plan.emit w sink ⟨g, j, s⟩
              = mapState Run.untraced (mapState (Run.ofLeft k) left) := by
  refine ⟨plan.course w g, Course.accounts_ofCountries w plan.quotas.entries g, ?_⟩
  intro σ sink s j hj
  obtain ⟨k, left, hoffers, htraced⟩ := emit_traced_offers plan w sink hj g s
  have huntraced := emit_untraces w sink plan ⟨g, j, ⟨[], s⟩⟩
  exact ⟨left, k, hoffers, htraced, by rw [← htraced, huntraced]; rfl⟩

end Offering

/-- Seven people for three countries, one of which nobody knows where to find. -/
def threeCountries : Setting where
  data :=
    { users := .ofList [("Andoria", 2), ("Betazed", 1), ("Cardassia", 1)]
      areas := .empty
      locations := .ofList [("Andoria", ⟨20.0, 10.0⟩), ("Betazed", ⟨30.0, -5.0⟩)]
      names := ⟨#["KATHRYN", "HOSHI"], #["JANEWAY"], by decide, by decide⟩ }
  options := { people := 7 }
  today := ⟨18000, by decide⟩

/-- A sink with room for one person. -/
def singleRoom : Sink Bool where
  emit _ := fun taken => if taken then .error (.of (.outside "no room")) true else .ok () true
  finish := pure ()

/-- Of the two people planned for Andoria the sink takes one and refuses the other, and it
is not called again. -/
theorem emit_offers_one_sequence_single_room :
    ∃ course e r,
      Offers singleRoom 2 false course (.error e (r.generator, r.sink))
        ∧ Plan.emit ⟨.ofList [("Andoria", 2)], 2⟩ threeCountries singleRoom.traced
          ⟨⟨1, 2, 3, 4⟩, Journal.new "run" true, ⟨[], false⟩⟩ = .error e r
        ∧ r.sink.calls.map Call.isEmit = [true, true] := by
  have hfailed : value? (Plan.emit ⟨.ofList [("Andoria", 2)], 2⟩ threeCountries
      singleRoom.traced ⟨⟨1, 2, 3, 4⟩, Journal.new "run" true, ⟨[], false⟩⟩) = none := by
    decide +kernel
  have htwo : (stateBehind (Plan.emit ⟨.ofList [("Andoria", 2)], 2⟩ threeCountries
      singleRoom.traced ⟨⟨1, 2, 3, 4⟩, Journal.new "run" true, ⟨[], false⟩⟩)).sink.calls.map
        Call.isEmit = [true, true] := by decide +kernel
  obtain ⟨course, -, hall⟩ :=
    emit_offers_one_sequence ⟨.ofList [("Andoria", 2)], 2⟩ threeCountries ⟨1, 2, 3, 4⟩
  obtain ⟨left, k, hoffers, hrun, -⟩ := hall singleRoom false (Journal.new "run" true)
    (Journal.inSpan_start _ _).notCounting
  rw [hrun] at hfailed htwo ⊢
  cases left with
  | ok n left => cases hfailed
  | error e left => exact ⟨course, e, _, hoffers, rfl, htwo⟩

end Populace.Census
