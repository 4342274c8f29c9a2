import Populace.Proofs.Census.Offers
import Populace.Proofs.Census.Planning
import Populace.Proofs.Census.Stuck
import Populace.Proofs.Sources.Lines
import Populace.Proofs.Table

/-!
# What planning and carrying a plan out add to a journal

Planning opens a span, and so does carrying a plan out, with a counter inside for each
country that gets anybody. If they succeed, the journal has gained a line for each of these,
and is as it was otherwise; and however they end, no use of the journal is a misuse.
-/

namespace Populace

open Populace.People Populace.Random

variable {σ : Type}

/-- A failure of the sink leaves this state and tells of the misuse. -/
def People.Sink.Raises (sink : Sink σ) (m : Misuse) (s : σ) : Prop :=
  ∃ e t, e.misuse? = some m
    ∧ ((∃ p, sink.emit p t = .error e s) ∨ sink.finish t = .error e s)

namespace Census

/-! ## Planning -/

theorem meets_new (data : Reference) (options : Options) {j : Journal} (hj : j.NotCounting) :
    Meets (fun _ k => j.Gains [⟨j.running.length, "allocate people to countries took "⟩] k)
      (fun e _ => e.misuse? = none) (Plan.new data options j) := by
  refine (Meets.orRefuse (fun _ _ => rfl) options.check j).bind fun _ j₁ h₁ => ?_
  subst h₁
  refine (Journal.meets_start j₁ planningSpan).bind fun _ j₂ h₂ => ?_
  refine (Meets.orRefuse (fun _ _ => rfl) _ j₂).bind fun quotas j₃ h₃ => ?_
  subst h₃
  obtain ⟨notes, hnotes⟩ := logSkipped_eq (unlocated data.users data.locations) j₃
  refine (Journal.meets_modify h₂ (by rw [hnotes]; rfl) (by rw [hnotes])).bind fun _ j₄ h₄ => ?_
  refine (Journal.meets_modify h₄ rfl rfl).bind fun _ j₅ h₅ => ?_
  exact (Journal.meets_stop hj h₅).bind fun _ j₆ h₆ => h₆

/-! ## Carrying out -/

namespace Run

variable {α : Type} {r : Run σ}

theorem meets_journaling {action : Journaling α} {Q : α → Journal → Prop}
    {E : Failure → Run σ → Prop}
    (h : Meets Q (fun e k => E e ⟨r.generator, k, r.sink⟩) (journaled action r.journal)) :
    Meets (fun a r => Q a r.journal) E (Run.journaling action r) := by
  obtain ⟨g, j, s⟩ := r
  dsimp only at h
  rw [Run.journaling]
  cases haction : journaled action j <;> rwa [haction] at h

/-- Whatever misuse the failure tells of, the sink has raised it. -/
def Blamed (sink : Sink σ) : Failure → Run σ → Prop :=
  Blames fun m r => sink.Raises m r.sink

theorem meets_drawing (sink : Sink σ) {shape : Shape} {options : Options} (names : NamePool)
    (today : Calendar.Date) (hsound : shape.Sound options.model) (r : Run σ) :
    Meets (fun _ r' => r'.journal = r.journal) (Blamed sink)
      (Run.drawing (Person.draw shape names options today) r) := by
  obtain ⟨g, j, s⟩ := r
  rw [Run.drawing]
  cases hdraw : Person.draw shape names options today g with
  | ok person h => rfl
  | error e h => exact blames_of_none (misuse?_of_draw hsound hdraw)

theorem meets_sinking {sink : Sink σ} {action : EStateM Failure σ α}
    (hraised : ∀ e m s t, action s = .error e t → e.misuse? = some m → sink.Raises m t)
    (r : Run σ) :
    Meets (fun _ r' => r'.journal = r.journal) (Blamed sink) (Run.sinking action r) := by
  obtain ⟨g, j, s⟩ := r
  rw [Run.sinking]
  cases haction : action s with
  | ok a t => rfl
  | error e t => exact fun m hm => hraised e m s t haction hm

theorem meets_emit (sink : Sink σ) (p : Person) (r : Run σ) :
    Meets (fun _ r' => r'.journal = r.journal) (Blamed sink) (Run.sinking (sink.emit p) r) :=
  meets_sinking (fun e _ s _ h hm => ⟨e, s, hm, .inl ⟨p, h⟩⟩) r

theorem meets_finish (sink : Sink σ) (r : Run σ) :
    Meets (fun _ r' => r'.journal = r.journal) (Blamed sink) (Run.sinking sink.finish r) :=
  meets_sinking (fun e _ s _ h hm => ⟨e, s, hm, .inr h⟩) r

end Run

section Emitting

variable (w : Setting) (sink : Sink σ) {j : Journal} {r : Run σ}

/-- Making a person counts one item. -/
theorem meets_emitPerson {label country : String} {shape : Shape} {total left : Nat}
    (hsound : shape.Sound w.options.model) (hj : j.NotCounting)
    (h : Journal.Counting label total j (left + 1) r.journal) :
    Meets (fun _ r => Journal.Counting label total j left r.journal) (Run.Blamed sink)
      (emitPerson w sink country shape r) := by
  refine (Run.meets_journaling (Journal.meets_next hj h)).bind fun _ r₁ h₁ => ?_
  have hdrawn := Run.meets_drawing sink w.data.names w.today hsound r₁
  refine (hdrawn.inContext fun e r he => he.within _).bind fun person r₂ h₂ => ?_
  refine (Run.meets_emit sink person r₂).imp (fun _ r₃ h₃ => ?_) fun e r₃ he => he
  rw [h₃, h₂]
  exact h₁

theorem meets_emitPeople {label country : String} {shape : Shape} {total left : Nat}
    (hsound : shape.Sound w.options.model) (hj : j.NotCounting)
    (h : Journal.Counting label total j left r.journal) :
    Meets (fun _ r => Journal.Counting label total j 0 r.journal) (Run.Blamed sink)
      (emitPeople w sink country shape left r) := by
  induction left generalizing r with
  | zero => exact h
  | succ left ih => exact (meets_emitPerson w sink hsound hj h).bind fun _ r₁ h₁ => ih h₁

/-- The line that a country adds, if it gets anybody. -/
def countryEntries (depth : Nat) (entry : String × UInt64) : List Journal.Entry :=
  Journal.counterEntries depth ("people in " ++ entry.1) entry.2.toNat

theorem meets_emitCountry {entries : List Journal.Entry} (country : String) (quota : UInt64)
    (h : j.Gains entries r.journal) :
    Meets
      (fun _ r => j.Gains (entries ++ countryEntries j.running.length (country, quota)) r.journal)
      (Run.Blamed sink) (emitCountry w sink country quota r) := by
  rw [emitCountry]
  cases hshape : shape? w.data country w.options.model with
  | none => exact blames_of_none (Failure.misuse?_of _)
  | some found =>
      obtain ⟨shape, warning?⟩ := found
      have hcounted : ∀ r : Run σ, j.Gains entries r.journal →
          Meets
            (fun _ r => j.Gains
              (entries ++ countryEntries j.running.length (country, quota)) r.journal)
            (Run.Blamed sink)
            ((Run.journaling (Journal.startCounter (countryCounter country) quota.toNat)
              >>= fun _ => emitPeople w sink country shape quota.toNat) r) := by
        intro r h
        refine (Run.meets_journaling (Journal.meets_startCounter h.notCounting _ _)).bind
          fun _ r₁ h₁ => ?_
        refine (meets_emitPeople w sink (sound_of_shape hshape) h.notCounting h₁).imp
          (fun _ r₂ h₂ => ?_) fun e r₂ he => he
        rw [Journal.Counting, h.depth] at h₂
        exact h.trans h₂
      -- a warning adds no lines
      cases warning? with
      | none => exact hcounted r h
      | some warning =>
          exact hcounted ⟨r.generator, r.journal.warn warning, r.sink⟩ (h.noted rfl rfl)

theorem meets_emitCountries {entries : List Journal.Entry} (countries : List (String × UInt64))
    (h : j.Gains entries r.journal) :
    Meets
      (fun _ r => j.Gains
        (entries ++ countries.flatMap (countryEntries j.running.length)) r.journal)
      (Run.Blamed sink) (emitCountries w sink countries r) := by
  induction countries generalizing entries r with
  | nil =>
      rw [List.flatMap_nil, List.append_nil]
      exact h
  | cons entry rest ih =>
      obtain ⟨country, quota⟩ := entry
      refine (meets_emitCountry w sink country quota h).bind fun _ r₁ h₁ => ?_
      rw [List.flatMap_cons, ← List.append_assoc]
      exact ih h₁

/-- The countries of a plan that get anybody, in the order of their names. -/
def Plan.peopled (plan : Plan) : List (String × UInt64) :=
  plan.quotas.entries.filter (·.2 ≠ 0)

theorem flatMap_countryEntries (depth : Nat) (countries : List (String × UInt64)) :
    countries.flatMap (countryEntries depth)
      = (countries.filter (·.2 ≠ 0)).map fun entry =>
        ⟨depth, "people in " ++ entry.1 ++ " (" ++ Text.grouped entry.2.toNat ++ ")... "⟩ := by
  induction countries with
  | nil => rfl
  | cons entry rest ih =>
      rw [List.flatMap_cons, ih, countryEntries, Journal.counterEntries]
      by_cases hquota : entry.2 = 0
      · simp [hquota]
      · have hnat : entry.2.toNat ≠ 0 := fun h => hquota (UInt64.toNat_inj.1 h)
        simp [hquota, hnat]

/-- The lines that carrying a plan out adds. -/
def emitEntries (depth : Nat) (plan : Plan) : List Journal.Entry :=
  ⟨depth, "generate people took "⟩ :: plan.peopled.map fun entry =>
    ⟨depth + 1, "people in " ++ entry.1 ++ " (" ++ Text.grouped entry.2.toNat ++ ")... "⟩

theorem meets_emit (plan : Plan) (hr : r.journal.NotCounting) :
    Meets
      (fun _ r' => r.journal.Gains (emitEntries r.journal.running.length plan) r'.journal)
      (Run.Blamed sink) (plan.emit w sink r) := by
  refine (Run.meets_journaling (Journal.meets_start r.journal generatingSpan)).bind
    fun _ r₁ h₁ => ?_
  refine (meets_emitCountries w sink plan.quotas.entries h₁).bind fun _ r₂ h₂ => ?_
  refine (Run.meets_finish sink r₂).bind fun _ r₃ h₃ => ?_
  rw [← h₃, List.nil_append, flatMap_countryEntries, Journal.depth_start] at h₂
  exact (Run.meets_journaling (Journal.meets_stop hr h₂)).bind fun _ r₄ h₄ => h₄

end Emitting

/-! ## All stages -/

/-- What was running is running, and nothing about it is another but that lines have come to
the innermost span, which is `s`. They tell of these entries, each with a time that lies
between the two readings of the clock. -/
def Balanced (s : Span) (outer : List Activity) (entries : List Journal.Entry)
    (j k : Journal) : Prop :=
  ∃ lines, Journal.Told j.clock k.clock entries lines
    ∧ k.running = .span { s with nested := s.nested ++ lines } :: outer
    ∧ k.results = j.results ∧ k.finished = j.finished ++ lines

theorem mem_peopled {plan : Plan} {country : String} {quota : UInt64} :
    (country, quota) ∈ plan.peopled ↔ plan.quotas.get? country = some quota ∧ quota ≠ 0 := by
  rw [Table.get?_eq_some_iff, Plan.peopled, List.mem_filter, decide_eq_true_iff]

/-- **Every stage leaves the journal balanced.** Loading, planning and carrying a plan out,
begun while a span is the innermost activity, never misuse the journal, however they end,
whatever they are given and however the time goes by: a failure that tells of a misuse is one
that the fetcher or the sink has raised. If they succeed, all that was running is running as
before, and the journal has gained the lines of the spans that they have opened; carrying
out adds, in the order of the names, one line for each country that somebody was planned
for, and none for the others. -/
theorem stages_leave_balanced {j : Journal} {s : Span} {outer : List Activity}
    (hj : j.running = .span s :: outer) :
    (∀ {σ : Type} (fetcher : Sources.Fetcher σ) (f : σ),
      Meets
        (fun _ l => Balanced s outer
          (⟨j.running.length, "load reference data took "⟩ :: Sources.Dataset.all.map fun d =>
            ⟨j.running.length + 1, "load " ++ d.description ++ " took "⟩) j l.journal)
        (Blames fetcher.Raises) (Sources.load fetcher ⟨f, j⟩))
      ∧ (∀ (data : Reference) (options : Options),
        Meets
          (fun _ k => Balanced s outer [⟨j.running.length, "allocate people to countries took "⟩]
            j k)
          (fun e _ => e.misuse? = none) (Plan.new data options j))
      ∧ ∀ (plan : Plan),
        Ascending plan.peopled
          ∧ (∀ country quota, (country, quota) ∈ plan.peopled
            ↔ plan.quotas.get? country = some quota ∧ quota ≠ 0)
          ∧ ∀ {σ : Type} (w : Setting) (sink : Sink σ) (g : Xorshift) (t : σ),
            Meets
              (fun _ r => Balanced s outer
                (⟨j.running.length, "generate people took "⟩ :: plan.peopled.map fun entry =>
                  ⟨j.running.length + 1,
                    "people in " ++ entry.1 ++ " (" ++ Text.grouped entry.2.toNat ++ ")... "⟩)
                j r.journal)
              (Blames fun m r => sink.Raises m r.sink) (plan.emit w sink ⟨g, j, t⟩) := by
  have hcounting : j.NotCounting := by
    intro c rest hc
    cases hj.symm.trans hc
  refine ⟨fun fetcher f => ?_, fun data options => ?_, fun plan => ⟨?_, ?_, ?_⟩⟩
  · have hload := Sources.meets_load fetcher (l := ⟨f, j⟩) hcounting
    exact hload.imp (fun _ _ h => h.running_eq hj) fun _ _ he => he
  · exact (meets_new data options hcounting).imp (fun _ _ h => h.running_eq hj) fun _ _ he => he
  · exact plan.quotas.ascending.filter _
  · exact fun country quota => mem_peopled
  · intro σ w sink g t
    have hemit := meets_emit w sink (r := ⟨g, j, t⟩) plan hcounting
    exact hemit.imp (fun _ _ h => h.running_eq hj) fun _ _ he => he

/-- One name in each list, and nothing in the tables. -/
def oneName : Sources.Fetcher Unit := fun dataset _ =>
  let text := match dataset with
    | .firstNames => "KATHRYN\n"
    | .lastNames => "JANEWAY\n"
    | _ => ""
  ⟨[], .ok (.whole text.toUTF8.toList), ()⟩

/-- A new journal, in which half a second passes before each reading of the clock. -/
def steadyPace : Journal :=
  { Journal.new "run" true with passing := List.replicate 12 500000000 }

/-- Everything is loaded, and a plan is carried out in which nobody is planned for one of two
countries. -/
theorem stages_leave_balanced_at_pace :
    steadyPace.running = [.span ⟨"run", 0, []⟩]
      ∧ (∃ data l lines, Sources.load oneName ⟨(), steadyPace⟩ = .ok data l
        ∧ l.journal.running = [.span ⟨"run", 0, lines⟩]
        ∧ lines = ["  - load reference data took 5.5000s",
          "    - load internet users by country took 0.5000s",
          "    - load area by country took 0.5000s", "    - load location by country took 0.5000s",
          "    - load first names took 0.5000s", "    - load last names took 0.5000s"])
      ∧ ∃ r lines, Plan.emit ⟨.ofList [("Andoria", 2), ("Betazed", 0)], 2⟩ threeCountries
          Sink.collect ⟨⟨1, 2, 3, 4⟩, steadyPace, []⟩ = .ok 2 r
        ∧ r.journal.running = [.span ⟨"run", 0, lines⟩]
        ∧ lines = ["  - generate people took 2.0000s",
          "    - people in Andoria (2)... 1.0000s"] := by
  have hrunning : steadyPace.running = [.span ⟨"run", 0, []⟩] := Journal.running_new "run" true
  obtain ⟨hload, -, hemit⟩ := stages_leave_balanced hrunning
  refine ⟨hrunning, ?_, ?_⟩
  · have hloaded : (value? (Sources.load oneName ⟨(), steadyPace⟩)).isSome = true := by
      decide +kernel
    have hlines : (stateBehind (Sources.load oneName ⟨(), steadyPace⟩)).journal.finished
        = ["  - load reference data took 5.5000s",
          "    - load internet users by country took 0.5000s",
          "    - load area by country took 0.5000s", "    - load location by country took 0.5000s",
          "    - load first names took 0.5000s", "    - load last names took 0.5000s"] := by
      decide +kernel
    obtain ⟨data, hdata⟩ := Option.isSome_iff_exists.1 hloaded
    obtain ⟨l, hl⟩ := eq_ok_of_value hdata
    have hbalanced := hload oneName ()
    rw [hl] at hbalanced hlines
    obtain ⟨lines, -, hkept, -, hfinished⟩ := hbalanced
    exact ⟨data, l, lines, hl, hkept, hfinished.symm.trans hlines⟩
  · have htwo : value? (Plan.emit ⟨.ofList [("Andoria", 2), ("Betazed", 0)], 2⟩ threeCountries
        Sink.collect ⟨⟨1, 2, 3, 4⟩, steadyPace, []⟩) = some 2 := by decide +kernel
    have hlines : (stateBehind (Plan.emit ⟨.ofList [("Andoria", 2), ("Betazed", 0)], 2⟩
        threeCountries Sink.collect ⟨⟨1, 2, 3, 4⟩, steadyPace, []⟩)).journal.finished
        = ["  - generate people took 2.0000s", "    - people in Andoria (2)... 1.0000s"] := by
      decide +kernel
    -- what is gained is read off before the plan is known, so nothing is carried out here
    have hgained : ∀ (plan : Plan) (w : Setting) (g : Xorshift) n r,
        plan.emit w Sink.collect ⟨g, steadyPace, []⟩ = .ok n r →
        r.journal.running = [.span ⟨"run", 0, r.journal.finished⟩] := by
      intro plan w g n r hrun
      have hbalanced := (hemit plan).2.2 w Sink.collect g []
      rw [hrun] at hbalanced
      obtain ⟨lines, -, hkept, -, hfinished⟩ := hbalanced
      rw [hfinished]
      exact hkept
    obtain ⟨r, hr⟩ := eq_ok_of_value htwo
    rw [hr] at hlines
    exact ⟨r, _, hr, hgained _ _ _ _ _ hr, hlines⟩

end Census

end Populace
