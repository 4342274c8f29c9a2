import Populace.Proofs.Census.Offers
import Populace.Proofs.Census.Stuck
import Populace.Proofs.Geo.Bounds

/-!
# How a run ends

Nothing is checked again before a plan is carried out, so for any data and options a run
can break off at a country without a location, at unusable ages, at a date of birth that
cannot be represented, or at a half-width that bounds no interval (`Course.Breaks`); a sink
can fail besides. `Ends` tells these endings apart, and every run has exactly one of them.
A plan that was made for the same data and options never meets the first two, and an area
that gives no half-widths never stops anybody.
-/

namespace Populace.Census

open Populace.People Populace.Random

variable {σ : Type}

/-- The ways in which a run can end. -/
inductive Ending where
  /-- A planned country has no location. -/
  | unlocated
  /-- Somebody is to be made, but the ages are no range of those allowed. -/
  | badAges
  /-- A date of birth lies outside the calendar. -/
  | unborn
  /-- The sink has failed. -/
  | sinkFailed
  /-- A half-width bounds no interval to draw from. -/
  | unbounded
  /-- Everybody has been handed over, and the sink is finished. -/
  | complete
  deriving DecidableEq

theorem shape_eq_none_iff {data : Reference} {country : String} {model : Geo.LongitudeModel} :
    shape? data country model = none ↔ data.locations.contains country = false := by
  constructor
  · intro h
    cases hlocated : data.locations.contains country with
    | false => rfl
    | true =>
        obtain ⟨shape, warning?, hshape⟩ := shape_of_located model hlocated
        rw [hshape] at h
        cases h
  · intro h
    rw [Table.contains, Option.isSome_eq_false_iff, Option.isNone_iff_eq_none] at h
    rw [shape?, h]

theorem located_of_shape {data : Reference} {country : String} {model : Geo.LongitudeModel}
    {found : Shape × Option String} (h : shape? data country model = some found) :
    data.locations.contains country = true := by
  cases hlocated : data.locations.contains country with
  | true => rfl
  | false =>
      rw [shape_eq_none_iff.2 hlocated] at h
      cases h

namespace Course

/-- Everybody planned for these countries is made, one behind the other. -/
structure AllMade (w : Setting) (countries : List (String × UInt64)) (g : Xorshift)
    (groups : List (String × List Made)) (h : Xorshift) : Prop where
  drawn : DrawnByCountry w g groups h
  counts : groups.map (fun e => (e.1, e.2.length)) = countries.map fun e => (e.1, e.2.toNat)

/-- Everybody of the countries in front has been made, and some people of this country, but
not all of them. -/
def Due (w : Setting) (countries : List (String × UInt64)) (g : Xorshift) (country : String)
    (shape : Shape) (made : List Made) (l : Xorshift) : Prop :=
  ∃ front quota back groups h people warning?,
    countries = front ++ (country, quota) :: back ∧ AllMade w front g groups h
      ∧ shape? w.data country w.options.model = some (shape, warning?)
      ∧ Drawn w shape h people l ∧ people.length < quota.toNat
      ∧ made = groups.flatMap Prod.snd ++ people

/-- Where a course breaks off and why, whom it has made until then, and what it leaves of
the generator. -/
inductive Breaks (w : Setting) (countries : List (String × UInt64)) (g : Xorshift) :
    Ending → List Made → Failure → Xorshift → Prop
  /-- The first country without a location, whether anybody is planned for it or not. -/
  | unlocated {front country quota back groups h} :
    countries = front ++ (country, quota) :: back →
      (∀ entry ∈ front, w.data.locations.contains entry.1 = true) →
      w.data.locations.contains country = false → AllMade w front g groups h →
      Breaks w countries g .unlocated (groups.flatMap Prod.snd)
        (.refused [] (.noLocation country)) h
  /-- The first country that somebody is planned for. -/
  | badAges {front country quota back} :
    countries = front ++ (country, quota) :: back →
      (∀ entry ∈ front, w.data.locations.contains entry.1 = true ∧ entry.2 = 0) →
      w.data.locations.contains country = true → quota ≠ 0 → ¬ w.options.HasAges →
      Breaks w countries g .badAges []
        (.refused [.making country] (.ages w.options.leastAge w.options.greatestAge)) g
  /-- Somebody so many years old would be born outside the calendar. -/
  | unborn {country shape made l years k} :
    Due w countries g country shape made l →
      yearsDrawn w.data.names w.options l = .ok years k →
      w.today.addDays? (years * daysPerYear) = none →
      Breaks w countries g .unborn made
        (.refused [.making country] (.beforeCalendar (-years) w.today)) k
  /-- A half-width of the country is no number. -/
  | unbounded {country shape made l b k} :
    Due w countries g country shape made l → shape.Unbounded w.options.model b →
      ((w.options.model = .legacy → Geo.ArcCosineInRange) → b.isNaN = true) →
      Person.draw shape w.data.names w.options w.today l
        = .error (.crashed (.noInterval (-b) b)) k →
      Breaks w countries g .unbounded made (.crashed (.noInterval (-b) b)) k

section Breaking

variable {w : Setting} {g h k l : Xorshift} {e : Failure} {country : String} {shape : Shape}
  {countries : List (String × UInt64)} {groups : List (String × List Made)}

/-! ## Where a course breaks off -/

/-- The people of a country break off at one who cannot be made. -/
theorem break_of_people {n : Nat} (hend : (ofPeople w country shape n g).ending = .error e k) :
    ∃ l e', Drawn w shape g (ofPeople w country shape n g).made l
      ∧ (ofPeople w country shape n g).made.length < n
      ∧ Person.draw shape w.data.names w.options w.today l = .error e' k
      ∧ e = e'.within (.making country) := by
  induction n generalizing g with
  | zero => cases hend
  | succ n ih =>
      rw [ofPeople, ofPerson] at hend ⊢
      cases hdraw : Person.draw shape w.data.names w.options w.today g with
      | error e' m =>
          rw [inContext_of_error hdraw] at hend ⊢
          cases hend
          exact ⟨g, e', rfl, Nat.succ_pos n, hdraw, rfl⟩
      | ok person m =>
          rw [inContext_of_ok hdraw] at hend ⊢
          obtain ⟨l, e', hdrawn, hlength, hfail, he⟩ := ih hend
          exact ⟨l, e', ⟨hdraw, hdrawn⟩, Nat.succ_lt_succ hlength, hfail, he⟩

/-- A course breaks off in one of its countries, behind everybody of those in front. -/
theorem break_of_countries (hend : (ofCountries w countries g).ending = .error e k) :
    ∃ front country quota back groups h, countries = front ++ (country, quota) :: back
      ∧ AllMade w front g groups h ∧ (ofCountry w country quota h).ending = .error e k
      ∧ (ofCountries w countries g).made
        = groups.flatMap Prod.snd ++ (ofCountry w country quota h).made := by
  induction countries generalizing g with
  | nil => cases hend
  | cons entry rest ih =>
      obtain ⟨country, quota⟩ := entry
      rw [ofCountries] at hend ⊢
      cases hfirst : (ofCountry w country quota g).ending with
      | error e' m =>
          rw [andThen_of_error hfirst] at hend ⊢
          exact ⟨[], country, quota, rest, [], g, rfl, ⟨rfl, rfl⟩, hend, rfl⟩
      | ok _ m =>
          rw [andThen_of_ok hfirst] at hend ⊢
          obtain ⟨front, c, q, back, groups, h, rfl, hall, hbreak, hmade⟩ := ih hend
          cases hshape : shape? w.data country w.options.model with
          | none =>
              rw [ofCountry, hshape] at hfirst
              cases hfirst
          | some found =>
              obtain ⟨shape, warning?⟩ := found
              have hcountry : ofCountry w country quota g
                  = ofPeople w country shape quota.toNat g := by
                rw [ofCountry, hshape]
              rw [hcountry] at hfirst ⊢
              obtain ⟨m', hdrawn, hfull⟩ := drawn_ofPeople w country shape quota.toNat g
              obtain ⟨rfl, hlength⟩ := hfull m hfirst
              refine ⟨(country, quota) :: front, c, q, back,
                (country, (ofPeople w country shape quota.toNat g).made) :: groups, h, rfl,
                ⟨⟨shape, warning?, m, hshape, hdrawn, hall.drawn⟩, ?_⟩, hbreak, ?_⟩
              · rw [List.map_cons, List.map_cons, hall.counts, hlength]
              · rw [hmade, List.flatMap_cons, List.append_assoc]

/-! ## Who can be made at all -/

theorem located_of_drawn (hdrawn : DrawnByCountry w g groups h) :
    ∀ e ∈ groups, w.data.locations.contains e.1 = true := by
  induction groups generalizing g with
  | nil => simp
  | cons group rest ih =>
      obtain ⟨shape, warning?, k, hshape, -, hrest⟩ := hdrawn
      intro e he
      rcases List.mem_cons.1 he with rfl | he
      · exact located_of_shape hshape
      · exact ih hrest e he

/-- Each country has a group of people, as many as planned for it. -/
theorem AllMade.group_of_entry (hall : AllMade w countries g groups h) {entry : String × UInt64}
    (hentry : entry ∈ countries) :
    ∃ group ∈ groups, group.1 = entry.1 ∧ group.2.length = entry.2.toNat := by
  have hmem : (entry.1, entry.2.toNat) ∈ groups.map fun e => (e.1, e.2.length) := by
    rw [hall.counts]
    exact List.mem_map.2 ⟨entry, hentry, rfl⟩
  obtain ⟨group, hgroup, heq⟩ := List.mem_map.1 hmem
  exact ⟨group, hgroup, Prod.mk.inj heq⟩

theorem located_of_allMade (hall : AllMade w countries g groups h) :
    ∀ entry ∈ countries, w.data.locations.contains entry.1 = true := by
  intro entry hentry
  obtain ⟨group, hgroup, hname, -⟩ := hall.group_of_entry hentry
  rw [← hname]
  exact located_of_drawn hall.drawn group hgroup

/-- Nobody is made with ages out of order, so the generator is not touched. -/
theorem nobody_of_bad_ages (hages : ¬ w.options.HasAges) {people : List Made}
    (hdrawn : Drawn w shape g people h) : people = [] ∧ h = g := by
  cases people with
  | nil => exact ⟨rfl, hdrawn⟩
  | cons m rest =>
      have hdraw := hdrawn.1
      rw [draw_of_bad_ages hages] at hdraw
      cases hdraw

theorem nobody_in_groups (hages : ¬ w.options.HasAges) (hdrawn : DrawnByCountry w g groups h) :
    (∀ e ∈ groups, e.2 = []) ∧ h = g := by
  induction groups generalizing g with
  | nil => exact ⟨by simp, hdrawn⟩
  | cons group rest ih =>
      obtain ⟨shape, warning?, k, -, hpeople, hrest⟩ := hdrawn
      obtain ⟨hnobody, rfl⟩ := nobody_of_bad_ages hages hpeople
      obtain ⟨hothers, rfl⟩ := ih hrest
      refine ⟨fun e he => ?_, rfl⟩
      rcases List.mem_cons.1 he with rfl | he
      · exact hnobody
      · exact hothers e he

theorem nobody_of_allMade (hages : ¬ w.options.HasAges)
    (hall : AllMade w countries g groups h) :
    (∀ entry ∈ countries, entry.2 = 0) ∧ groups.flatMap Prod.snd = [] ∧ h = g := by
  obtain ⟨hnobody, rfl⟩ := nobody_in_groups hages hall.drawn
  refine ⟨fun entry hentry => ?_, List.flatMap_eq_nil_iff.2 hnobody, rfl⟩
  obtain ⟨group, hgroup, -, hlength⟩ := hall.group_of_entry hentry
  rw [hnobody group hgroup] at hlength
  exact UInt64.toNat_inj.1 hlength.symm

/-- With ages in order a course breaks off at the next one due for one of two reasons. -/
theorem breaks_of_draw (hages : w.options.HasAges) {made : List Made} {e' : Failure}
    (hdue : Due w countries g country shape made l)
    (hdraw : Person.draw shape w.data.names w.options w.today l = .error e' k) :
    ∃ ending, Breaks w countries g ending made (e'.within (.making country)) k := by
  obtain ⟨front, quota, back, groups, h, people, warning?, -, -, hshape, -⟩ := id hdue
  obtain ⟨years, m, hyears, ⟨c, hborn, rfl, rfl⟩ | ⟨b, hb, rfl⟩⟩ :=
    draw_error_cases hages (sound_of_shape hshape) hdraw
  · obtain ⟨houtside, rfl⟩ := bornOn_error hborn
    exact ⟨.unborn, .unborn hdue hyears houtside⟩
  · obtain ⟨area, widths, -, hwidths, hwidth⟩ := hb.halfWidth
    have hnan := fun hacos => Geo.isNaN_of_noInterval hwidths hacos hwidth hb.noInterval
    exact ⟨.unbounded, .unbounded hdue hb hnan hdraw⟩

/-- With ages out of order a course breaks off at the first one due. -/
theorem breaks_of_bad_ages (hages : ¬ w.options.HasAges) {made : List Made} {e' : Failure}
    (hdue : Due w countries g country shape made l)
    (hdraw : Person.draw shape w.data.names w.options w.today l = .error e' k) :
    Breaks w countries g .badAges made (e'.within (.making country)) k := by
  obtain ⟨front, quota, back, groups, h, people, warning?, hentries, hall, hshape, hdrawn,
    hlength, rfl⟩ := hdue
  -- nobody has been made, so the countries in front are empty and nothing has been drawn
  obtain ⟨hnobody, hl⟩ := nobody_of_bad_ages hages hdrawn
  obtain ⟨hzero, hgroups, hh⟩ := nobody_of_allMade hages hall
  subst hl hh
  rw [draw_of_bad_ages hages] at hdraw
  cases hdraw
  have hquota : quota ≠ 0 := by
    rintro rfl
    exact absurd hlength (Nat.not_lt_zero _)
  rw [hgroups, hnobody]
  exact .badAges hentries
    (fun entry hentry => ⟨located_of_allMade hall entry hentry, hzero entry hentry⟩)
    (located_of_shape hshape) hquota hages

/-- Whenever a course breaks off, it is for one of these reasons. -/
theorem breaks_of_error (hend : (ofCountries w countries g).ending = .error e k) :
    ∃ ending, Breaks w countries g ending (ofCountries w countries g).made e k := by
  obtain ⟨front, country, quota, back, groups, h, hentries, hall, hcountry, hmade⟩ :=
    break_of_countries hend
  rw [hmade]
  rw [ofCountry] at hcountry ⊢
  cases hshape : shape? w.data country w.options.model with
  | none =>
      rw [hshape] at hcountry
      cases hcountry
      refine ⟨.unlocated, ?_⟩
      rw [show (failed (.of (.noLocation country)) k).made = [] from rfl, List.append_nil]
      exact .unlocated hentries (located_of_allMade hall) (shape_eq_none_iff.1 hshape) hall
  | some found =>
      obtain ⟨shape, warning?⟩ := found
      rw [hshape] at hcountry
      obtain ⟨l, e', hdrawn, hlength, hdraw, rfl⟩ := break_of_people hcountry
      have hdue : Due w countries g country shape
          (groups.flatMap Prod.snd ++ (ofPeople w country shape quota.toNat h).made) l :=
        ⟨front, quota, back, groups, h, _, warning?, hentries, hall, hshape, hdrawn, hlength, rfl⟩
      by_cases hages : w.options.HasAges
      · exact breaks_of_draw hages hdue hdraw
      · exact ⟨.badAges, breaks_of_bad_ages hages hdue hdraw⟩

end Breaking

/-- The failure tells why a course has broken off. -/
theorem Breaks.ending_eq {w : Setting} {countries : List (String × UInt64)} {g h h' : Xorshift}
    {ending ending' : Ending} {made made' : List Made} {e e' : Failure}
    (hbreak : Breaks w countries g ending made e h)
    (hbreak' : Breaks w countries g ending' made' e' h') (heq : e = e') : ending = ending' := by
  cases hbreak <;> cases hbreak' <;> first | rfl | cases heq

end Course

/-! ## What a sink has been called with -/

section Calls

variable {sink : Sink σ} {s t u : σ}

theorem accepts_append {front back : List Person} :
    sink.Accepts (front ++ back) s t ↔ ∃ u, sink.Accepts front s u ∧ sink.Accepts back u t := by
  induction front generalizing s with
  | nil => simp [Sink.Accepts]
  | cons p front ih =>
      constructor
      · rintro ⟨v, hp, hv⟩
        obtain ⟨u, hfront, hback⟩ := ih.1 hv
        exact ⟨u, ⟨v, hp, hfront⟩, hback⟩
      · rintro ⟨u, ⟨v, hp, hfront⟩, hback⟩
        exact ⟨v, hp, ih.2 ⟨u, hfront, hback⟩⟩

theorem accepts_unique {people : List Person} (ht : sink.Accepts people s t)
    (hu : sink.Accepts people s u) : t = u := by
  induction people generalizing s with
  | nil => exact Eq.trans ht hu.symm
  | cons p people ih =>
      obtain ⟨v, hp, hv⟩ := ht
      obtain ⟨v', hp', hv'⟩ := hu
      rw [hp] at hp'
      cases hp'
      exact ih hv hv'

theorem map_person_of_emissions {made made' : List Made} (h : emissions made = emissions made') :
    made.map Made.person = made'.map Made.person := by
  have hinj : Function.Injective Call.emit := fun p q hpq => by cases hpq; rfl
  apply hinj.list_map
  simpa [emissions, Function.comp_def] using h

theorem finish_not_mem_emissions (made : List Made) : Call.finish ∉ emissions made := by
  simp [emissions]

/-- The calls tell whether the last person was refused. -/
theorem emissions_ne_of_refused {made front : List Made} {m : Made} {v : σ} {e : Failure}
    (hmade : sink.Accepts (made.map Made.person) s t)
    (hfront : sink.Accepts (front.map Made.person) s u)
    (hrefused : sink.emit m.person u = .error e v) : emissions made ≠ emissions (front ++ [m]) := by
  intro hcalls
  rw [map_person_of_emissions hcalls, List.map_append, accepts_append] at hmade
  obtain ⟨u', hfront', x, hx, -⟩ := hmade
  rw [accepts_unique hfront' hfront, hrefused] at hx
  cases hx

end Calls

/-! ## How a run ends -/

/-- How a run of a plan ends with a sink in state `s`, what it leaves of the generator and
the sink, and which calls the sink has got. -/
inductive Ends (plan : Plan) (w : Setting) (sink : Sink σ) (g : Xorshift) (s : σ) :
    Ending → EStateM.Result Failure (Xorshift × Traced σ) UInt64 → Prop
  /-- Somebody cannot be made; all those before have been taken, and the sink is not
  finished. -/
  | broken {ending made e h t} :
    Course.Breaks w plan.quotas.entries g ending made e h →
      sink.Accepts (made.map Made.person) s t →
      Ends plan w sink g s ending (.error e (h, ⟨emissions made, t⟩))
  /-- Somebody is refused, for a reason of the sink's own. -/
  | refused {front m back t e u} :
    (plan.course w g).made = front ++ m :: back → sink.Accepts (front.map Made.person) s t →
      sink.emit m.person t = .error e u →
      Ends plan w sink g s .sinkFailed (.error e (m.behind, ⟨emissions (front ++ [m]), u⟩))
  /-- Everybody is taken, but the sink cannot be finished. -/
  | unfinished {groups h t e u} :
    Course.AllMade w plan.quotas.entries g groups h →
      sink.Accepts ((groups.flatMap Prod.snd).map Made.person) s t →
      sink.finish t = .error e u →
      Ends plan w sink g s .sinkFailed
        (.error e (h, ⟨emissions (groups.flatMap Prod.snd) ++ [.finish], u⟩))
  /-- Everybody is taken, and the sink is finished. -/
  | complete {groups h t u} :
    Course.AllMade w plan.quotas.entries g groups h →
      sink.Accepts ((groups.flatMap Prod.snd).map Made.person) s t →
      sink.finish t = .ok () u →
      Ends plan w sink g s .complete
        (.ok plan.total (h, ⟨emissions (groups.flatMap Prod.snd) ++ [.finish], u⟩))

section Ending

variable {plan : Plan} {w : Setting} {sink : Sink σ} {g : Xorshift} {s : σ}
  {left left' : EStateM.Result Failure (Xorshift × Traced σ) UInt64} {ending other : Ending}

/-- A run that offers its course ends in one of the ways. -/
theorem ends_of_offers (h : Offers sink plan.total s (plan.course w g) left) :
    ∃ ending, Ends plan w sink g s ending left := by
  obtain ⟨groups, k, haccounts⟩ := Course.accounts_ofCountries w plan.quotas.entries g
  rw [← Plan.course] at haccounts
  generalize hcourse : plan.course w g = course at h haccounts
  cases h with
  | refused haccepts hrefused =>
      exact ⟨.sinkFailed, .refused (by rw [hcourse]) haccepts hrefused⟩
  | @incomplete made e h t haccepts =>
      have hend : (Course.ofCountries w plan.quotas.entries g).ending = .error e h := by
        rw [← Plan.course, hcourse]
      obtain ⟨ending, hbreaks⟩ := Course.breaks_of_error hend
      rw [← Plan.course, hcourse] at hbreaks
      exact ⟨ending, .broken hbreaks haccepts⟩
  | @unfinished made h t e u haccepts hfinish =>
      obtain ⟨rfl, hcounts⟩ := haccounts.complete _ rfl
      have hmade : made = groups.flatMap Prod.snd := haccounts.made
      subst hmade
      exact ⟨.sinkFailed, .unfinished ⟨haccounts.drawn, hcounts⟩ haccepts hfinish⟩
  | @finished made h t u haccepts hfinish =>
      obtain ⟨rfl, hcounts⟩ := haccounts.complete _ rfl
      have hmade : made = groups.flatMap Prod.snd := haccounts.made
      subst hmade
      exact ⟨.complete, .complete ⟨haccounts.drawn, hcounts⟩ haccepts hfinish⟩

/-- A course that has broken off is not taken for a failure of the sink. -/
theorem not_sinkFailed_of_broken {made : List Made} {e : Failure} {h : Xorshift} {t : σ}
    (haccepts : sink.Accepts (made.map Made.person) s t)
    (hends : Ends plan w sink g s .sinkFailed left)
    (hleft : left = .error e (h, ⟨emissions made, t⟩))
    (hbreaks : Course.Breaks w plan.quotas.entries g ending made e h) : ending = .sinkFailed := by
  cases hends with
  | broken hbreaks' haccepts' =>
      simp only [EStateM.Result.error.injEq] at hleft
      exact hbreaks.ending_eq hbreaks' hleft.1.symm
  | refused hmade hfront hrefused =>
      simp only [EStateM.Result.error.injEq, Prod.mk.injEq, Traced.mk.injEq] at hleft
      exact absurd hleft.2.2.1.symm (emissions_ne_of_refused haccepts hfront hrefused)
  | unfinished hall haccepts' hfinish =>
      simp only [EStateM.Result.error.injEq, Prod.mk.injEq, Traced.mk.injEq] at hleft
      have hmem : Call.finish ∈ emissions made := by
        rw [← hleft.2.2.1]
        simp
      exact absurd hmem (finish_not_mem_emissions made)

/-- The result of a run tells in which way it has ended. -/
theorem ends_unique (h : Ends plan w sink g s ending left)
    (h' : Ends plan w sink g s other left') (heq : left' = left) : other = ending := by
  cases h with
  | broken hbreaks haccepts =>
      cases h' with
      | broken hbreaks' haccepts' =>
          simp only [EStateM.Result.error.injEq] at heq
          exact hbreaks'.ending_eq hbreaks heq.1
      | refused hmade hfront hrefused =>
          exact (not_sinkFailed_of_broken haccepts (.refused hmade hfront hrefused) heq hbreaks).symm
      | unfinished hall hpeople hfinish =>
          exact (not_sinkFailed_of_broken haccepts (.unfinished hall hpeople hfinish) heq hbreaks).symm
      | complete hall hpeople hfinish => cases heq
  | refused hmade hfront hrefused =>
      cases h' with
      | broken hbreaks' haccepts' =>
          exact not_sinkFailed_of_broken haccepts' (.refused hmade hfront hrefused) heq.symm hbreaks'
      | refused _ _ _ => rfl
      | unfinished _ _ _ => rfl
      | complete _ _ _ => cases heq
  | unfinished hall hpeople hfinish =>
      cases h' with
      | broken hbreaks' haccepts' =>
          exact not_sinkFailed_of_broken haccepts' (.unfinished hall hpeople hfinish) heq.symm hbreaks'
      | refused _ _ _ => rfl
      | unfinished _ _ _ => rfl
      | complete _ _ _ => cases heq
  | complete hall hpeople hfinish =>
      cases h' with
      | broken _ _ => cases heq
      | refused _ _ _ => cases heq
      | unfinished _ _ _ => cases heq
      | complete _ _ _ => rfl

/-- A plan that was made for the same data and options has a location for each of its
countries, and ages in order. -/
theorem ending_of_planned {j k : Journal} (hplan : Planned w.data w.options j plan k)
    (h : Ends plan w sink g s ending left) : ending ≠ .unlocated ∧ ending ≠ .badAges := by
  cases h with
  | refused _ _ _ => exact ⟨by decide, by decide⟩
  | unfinished _ _ _ => exact ⟨by decide, by decide⟩
  | complete _ _ _ => exact ⟨by decide, by decide⟩
  | broken hbreaks _ =>
      cases hbreaks with
      | @unlocated front country quota back groups h hentries _ hunlocated _ =>
          have hlocated := located_of_allocate hplan.quotas (country, quota) (by simp [hentries])
          rw [hunlocated] at hlocated
          cases hlocated
      | badAges _ _ _ _ hages => exact absurd hplan.ages hages
      | unborn _ _ _ => exact ⟨by decide, by decide⟩
      | unbounded _ _ _ _ => exact ⟨by decide, by decide⟩

/-- Half-widths that there are none of stop nobody. -/
theorem not_width_of_ends (h : Ends plan w sink g s ending left) (hsink : ending ≠ .sinkFailed)
    (contexts : List Context) (fault : Geo.WidthFault) (x : Xorshift × Traced σ) :
    left ≠ .error (.refused contexts (.width fault)) x := by
  intro hleft
  cases h with
  | refused _ _ _ => exact hsink rfl
  | unfinished _ _ _ => exact hsink rfl
  | complete _ _ _ => cases hleft
  | broken hbreaks _ => cases hbreaks <;> cases hleft

/-- In a run that succeeds everybody is made and handed over, country by country, and the
sink is finished behind the last one. -/
theorem allMade_of_emit {j : Journal} {n : UInt64} {r : Run σ}
    (h : plan.emit w sink ⟨g, j, s⟩ = .ok n r) :
    ∃ groups, Course.AllMade w plan.quotas.entries g groups r.generator
      ∧ plan.emit w sink.traced ⟨g, j, ⟨[], s⟩⟩ = .ok n ⟨r.generator, r.journal,
        ⟨emissions (groups.flatMap Prod.snd) ++ [.finish], r.sink⟩⟩ := by
  obtain ⟨k, left, hoffers, htraced⟩ :=
    emit_traced_offers plan w sink (notCounting_of_emit plan w sink h) g s
  have huntraced := emit_untraces w sink plan ⟨g, j, ⟨[], s⟩⟩
  have hsame : (⟨g, j, ⟨[], s⟩⟩ : Run (Traced σ)).untraced = ⟨g, j, s⟩ := rfl
  rw [htraced, hsame, h] at huntraced
  obtain ⟨ending, hends⟩ := ends_of_offers hoffers
  -- all other endings are failures
  cases hends with
  | broken _ _ => cases huntraced
  | refused _ _ _ => cases huntraced
  | unfinished _ _ _ => cases huntraced
  | complete hall _ _ =>
      cases huntraced
      exact ⟨_, hall, htraced⟩

end Ending

/-- **How a run ends.** Any plan can be carried out with any data and options, whatever it
was made for. Its countries come in the order of their names, and the run ends in exactly
one way: at the first country without a location, at the first country with somebody to
make if the ages are no range, at somebody born outside the calendar, with a failure of the
sink's own, with a crash because a half-width is no number (the arc cosine being what the
library says), or with everybody handed over and the plan's total. The first two do not
happen if the plan was made for the same data and options, and no run ends with a
half-width refused. -/
theorem emit_ends_one_way (plan : Plan) (w : Setting) (sink : Sink σ) (g : Xorshift) (s : σ)
    {j : Journal} (hj : j.NotCounting) :
    plan.quotas.names.Pairwise (· < ·)
      ∧ (∃ groups h, Course.Accounts w plan.quotas.entries g (plan.course w g) groups h)
      ∧ (∀ country, (Failure.refused [] (.noLocation country)).message
        = country ++ " has a quota, but no location")
      ∧ ∃ ending left k,
        plan.emit w sink.traced ⟨g, j, ⟨[], s⟩⟩ = mapState (Run.ofLeft k) left
          ∧ plan.emit w sink ⟨g, j, s⟩ = mapState Run.untraced (mapState (Run.ofLeft k) left)
          ∧ Ends plan w sink g s ending left
          ∧ (∀ other, Ends plan w sink g s other left → other = ending)
          ∧ ((∃ j' k', Plan.new w.data w.options j' = .ok plan k') →
            ending ≠ .unlocated ∧ ending ≠ .badAges)
          ∧ (ending ≠ .sinkFailed → ∀ contexts fault x,
            left ≠ .error (.refused contexts (.width fault)) x) := by
  obtain ⟨k, left, hoffers, htraced⟩ := emit_traced_offers plan w sink hj g s
  obtain ⟨ending, hends⟩ := ends_of_offers hoffers
  have huntraced := emit_untraces w sink plan ⟨g, j, ⟨[], s⟩⟩
  refine ⟨List.pairwise_map.2 plan.quotas.ascending, Course.accounts_ofCountries w _ g,
    fun _ => rfl, ending, left, k, htraced, ?_, hends, ?_, ?_, ?_⟩
  · rw [← htraced, huntraced]
    rfl
  · exact fun other hother => ends_unique hends hother rfl
  · rintro ⟨j', k', hnew⟩
    exact ending_of_planned (planned_of_new hnew) hends
  · exact fun hsink contexts fault x => not_width_of_ends hends hsink contexts fault x

/-- Nobody is planned for Cardassia, and yet the run ends there: its location is unknown. -/
theorem emit_ends_one_way_unlocated :
    ∃ left k, Plan.emit ⟨.ofList [("Cardassia", 0)], 0⟩ threeCountries Sink.collect.traced
        ⟨⟨1, 2, 3, 4⟩, Journal.new "run" true, ⟨[], []⟩⟩ = mapState (Run.ofLeft k) left
      ∧ Ends ⟨.ofList [("Cardassia", 0)], 0⟩ threeCountries Sink.collect ⟨1, 2, 3, 4⟩ []
        .unlocated left := by
  obtain ⟨-, -, -, ending, left, k, htraced, -, hends, hunique, -⟩ :=
    emit_ends_one_way ⟨.ofList [("Cardassia", 0)], 0⟩ threeCountries Sink.collect ⟨1, 2, 3, 4⟩ []
      (j := Journal.new "run" true) (Journal.inSpan_start _ _).notCounting
  have hentries : (Table.ofList [("Cardassia", (0 : UInt64))]).entries
      = [] ++ ("Cardassia", 0) :: [] := by decide +kernel
  have hnowhere : threeCountries.data.locations.contains "Cardassia" = false := by
    decide +kernel
  have hrun : ∃ r, Plan.emit ⟨.ofList [("Cardassia", 0)], 0⟩ threeCountries Sink.collect.traced
      ⟨⟨1, 2, 3, 4⟩, Journal.new "run" true, ⟨[], []⟩⟩
        = .error (.refused [] (.noLocation "Cardassia")) r
      ∧ (r.generator, r.sink) = (⟨1, 2, 3, 4⟩, ⟨[], []⟩) := by
    rw [emit_eq, hentries, List.nil_append, emitCountries, emitCountry,
      shape_eq_none_iff.2 hnowhere]
    exact ⟨_, rfl, rfl⟩
  obtain ⟨r, hrun, hr⟩ := hrun
  rw [hrun] at htraced
  cases left with
  | ok n x => cases htraced
  | error e x =>
      obtain ⟨h, calls, people⟩ := x
      cases htraced
      cases hr
      refine ⟨.error _ (⟨1, 2, 3, 4⟩, ⟨[], []⟩), k, hrun, ?_⟩
      have hnobody : Course.AllMade threeCountries [] ⟨1, 2, 3, 4⟩ [] ⟨1, 2, 3, 4⟩ := ⟨rfl, rfl⟩
      have hhere : Ends ⟨.ofList [("Cardassia", 0)], 0⟩ threeCountries Sink.collect ⟨1, 2, 3, 4⟩
          [] .unlocated (.error (.refused [] (.noLocation "Cardassia"))
            (⟨1, 2, 3, 4⟩, ⟨emissions [], []⟩)) :=
        .broken (.unlocated hentries (by simp) hnowhere hnobody) rfl
      rw [← hunique _ hhere] at hends
      exact hends

end Populace.Census
