import Populace.Proofs.Census.Endings
import Populace.Proofs.Geo.Placing
import Populace.Proofs.Journal.Steady
import Populace.Proofs.People.Drafts

/-!
# Where people are settled

Whether the people of a country are scattered is decided by its location and its area, once
for the country. Everybody is first drawn up and then placed, with the half-widths of the
country's area or at its center (`Settled`), each from the generator that the one before
has left (`Chain`). A country gets a warning if its area gives no half-widths, and no other
country does.
-/

namespace Populace.Census

open Populace.People Populace.Random

variable {σ : Type}

/-- How far the people of a country are scattered, if its area gives half-widths. -/
def Setting.widths? (w : Setting) (country : String) : Option Geo.HalfWidths :=
  match w.data.locations.get? country, w.data.areas.get? country with
  | some center, some area => (Geo.halfWidths center area w.options.model).toOption
  | _, _ => none

/-- The warning about a country whose area gives no half-widths. -/
def Setting.areaWarning? (w : Setting) (country : String) : Option String :=
  match w.data.locations.get? country, w.data.areas.get? country with
  | some center, some area =>
    match Geo.halfWidths center area w.options.model with
    | .ok _ => none
    | .error fault => some (unusableAreaWarning country fault center)
  | _, _ => none

/-- What there is to choose from. -/
def Setting.choices (w : Setting) : Choices :=
  People.choices w.data.names w.options

/-- Somebody of a country is made from this generator: who it is comes first, and then the
place. -/
structure Settled (w : Setting) (country : String) (g : Xorshift) (m : Made) : Prop where
  described : (Draft.draw w.choices g).1.Describes w.data.names w.options w.today m.person
  placed : ∃ center, w.data.locations.get? country = some center
    ∧ Geo.Placed center (w.widths? country) (Draft.draw w.choices g).2 m.person.position m.behind

/-- Everybody is settled in their country, one behind the other. -/
def Chain (w : Setting) : Xorshift → List (String × Made) → Xorshift → Prop
  | g, [], h => h = g
  | g, (country, m) :: rest, h => Settled w country g m ∧ Chain w m.behind rest h

/-- Everybody with their country. -/
def residents (groups : List (String × List Made)) : List (String × Made) :=
  groups.flatMap fun e => e.2.map (e.1, ·)

/-! ## Shapes -/

/-- What goes into the shape of a country, and when there is a warning. -/
theorem shape_eq {w : Setting} {country : String} {shape : Shape} {warning? : Option String}
    (h : shape? w.data country w.options.model = some (shape, warning?)) :
    w.data.locations.get? country = some shape.center
      ∧ (shape.area.bind fun a => (Geo.halfWidths shape.center a w.options.model).toOption)
        = w.widths? country
      ∧ warning? = w.areaWarning? country := by
  rw [shape?] at h
  rw [Setting.widths?, Setting.areaWarning?]
  cases hcenter : w.data.locations.get? country with
  | none => simp [hcenter] at h
  | some center =>
      cases harea : w.data.areas.get? country with
      | none =>
          simp only [hcenter, harea, Option.some.injEq, Prod.mk.injEq] at h
          obtain ⟨rfl, rfl⟩ := h
          exact ⟨rfl, rfl, rfl⟩
      | some area =>
          simp only [hcenter, harea] at h
          cases hwidths : Geo.halfWidths center area w.options.model with
          | ok widths =>
              simp only [hwidths, Option.some.injEq, Prod.mk.injEq] at h
              obtain ⟨rfl, rfl⟩ := h
              exact ⟨rfl, by simp only [hwidths, Option.bind_some], by simp only [hwidths]⟩
          | error fault =>
              simp only [hwidths, Option.some.injEq, Prod.mk.injEq] at h
              obtain ⟨rfl, rfl⟩ := h
              exact ⟨rfl, by simp only [hwidths, Option.bind_none]; rfl, by simp only [hwidths]⟩

/-! ## Everybody in order -/

section Chains

variable {w : Setting} {g h k : Xorshift} {country : String} {shape : Shape}
  {warning? : Option String} {people : List Made} {groups : List (String × List Made)}
  {countries : List (String × UInt64)}

theorem settled_of_draw (hshape : shape? w.data country w.options.model = some (shape, warning?))
    {m : Made}
    (hdraw : Person.draw shape w.data.names w.options w.today g = .ok m.person m.behind) :
    Settled w country g m := by
  obtain ⟨hcenter, hwidths, -⟩ := shape_eq hshape
  obtain ⟨hdescribes, hscatter⟩ := describes_of_draw hdraw
  have hplaced := Geo.placed_of_scatter hscatter
  rw [hwidths] at hplaced
  exact ⟨hdescribes, shape.center, hcenter, hplaced⟩

theorem Chain.append {front back : List (String × Made)} (hfront : Chain w g front k)
    (hback : Chain w k back h) : Chain w g (front ++ back) h := by
  induction front generalizing g with
  | nil =>
      obtain rfl : k = g := hfront
      exact hback
  | cons m front ih =>
      obtain ⟨hm, hrest⟩ := hfront
      exact ⟨hm, ih hrest⟩

theorem chain_of_drawn (hshape : shape? w.data country w.options.model = some (shape, warning?))
    (hdrawn : Course.Drawn w shape g people h) : Chain w g (people.map (country, ·)) h := by
  induction people generalizing g with
  | nil => exact hdrawn
  | cons m people ih =>
      obtain ⟨hdraw, hrest⟩ := hdrawn
      exact ⟨settled_of_draw hshape hdraw, ih hrest⟩

theorem chain_of_groups (hdrawn : Course.DrawnByCountry w g groups h) :
    Chain w g (residents groups) h := by
  induction groups generalizing g with
  | nil => exact hdrawn
  | cons group groups ih =>
      obtain ⟨shape, warning?, k, hshape, hpeople, hrest⟩ := hdrawn
      exact (chain_of_drawn hshape hpeople).append (ih hrest)

theorem map_snd_residents (groups : List (String × List Made)) :
    (residents groups).map Prod.snd = groups.flatMap Prod.snd := by
  rw [residents, List.map_flatMap]
  simp [Function.comp_def]

/-- As many people live in each country as it has been planned for. -/
theorem countries_of_residents
    (hcounts : groups.map (fun e => (e.1, e.2.length)) = countries.map fun e => (e.1, e.2.toNat)) :
    (residents groups).map Prod.fst
      = countries.flatMap fun e => List.replicate e.2.toNat e.1 := by
  have hgroups : (residents groups).map Prod.fst
      = (groups.map fun e => (e.1, e.2.length)).flatMap fun e => List.replicate e.2 e.1 := by
    rw [residents, List.map_flatMap, List.flatMap_map]
    simp [Function.comp_def, List.map_const']
  rw [hgroups, hcounts, List.flatMap_map]

end Chains

/-- In a run that succeeds everybody is settled, in the order of the plan. -/
theorem chain_of_emit {plan : Plan} {w : Setting} {sink : Sink σ} {g : Xorshift} {j : Journal}
    {s : σ} {n : UInt64} {r : Run σ} (h : plan.emit w sink ⟨g, j, s⟩ = .ok n r) :
    ∃ people : List (String × Made),
      people.map Prod.fst = plan.quotas.entries.flatMap (fun e => List.replicate e.2.toNat e.1)
        ∧ plan.emit w sink.traced ⟨g, j, ⟨[], s⟩⟩ = .ok n ⟨r.generator, r.journal,
          ⟨emissions (people.map Prod.snd) ++ [.finish], r.sink⟩⟩
        ∧ Chain w g people r.generator := by
  obtain ⟨groups, hall, htraced⟩ := allMade_of_emit h
  refine ⟨residents groups, countries_of_residents hall.counts, ?_, chain_of_groups hall.drawn⟩
  rw [map_snd_residents]
  exact htraced

/-! ## Warnings -/

section Warnings

variable (w : Setting) (sink : Sink σ)

/-- The journals of both runs have the same warnings. -/
def Run.SameWarnings (r t : Run σ) : Prop := r.journal.SameWarnings t.journal

theorem journaling_sameWarnings {action : Journaling Unit}
    (h : Keeps Journal.SameWarnings action) :
    Keeps (Run.SameWarnings (σ := σ)) (Run.journaling action) := by
  intro ⟨g, j, s⟩
  have hj := h j
  rw [Run.journaling, journaled]
  cases haction : action j with
  | ok _ k =>
      rw [haction] at hj
      exact hj
  | error m k =>
      rw [haction] at hj
      exact hj

theorem emitPerson_sameWarnings (country : String) (shape : Shape) :
    Keeps Run.SameWarnings (emitPerson w sink country shape) := by
  refine (journaling_sameWarnings Journal.steady_warnings.next).bind .trans fun _ => ?_
  refine Keeps.bind (Keeps.inContext fun r => ?_) .trans fun person r => ?_
  · exact congrArg Journal.warnings (Run.journal_behind_drawing _ r)
  · exact congrArg Journal.warnings (Run.journal_behind_sinking _ r)

theorem emitPeople_sameWarnings (country : String) (shape : Shape) (n : Nat) :
    Keeps Run.SameWarnings (emitPeople w sink country shape n) := by
  induction n with
  | zero => exact fun r => rfl
  | succ n ih => exact (emitPerson_sameWarnings w sink country shape).bind .trans fun _ => ih

/-- Counting and making the people of a country, which comes behind its warning. -/
def emitCounted (country : String) (quota : UInt64) (shape : Shape) :
    EStateM Failure (Run σ) Unit := do
  Run.journaling (Journal.startCounter (countryCounter country) quota.toNat)
  emitPeople w sink country shape quota.toNat

theorem emitCounted_sameWarnings (country : String) (quota : UInt64) (shape : Shape) :
    Keeps Run.SameWarnings (emitCounted w sink country quota shape) :=
  (journaling_sameWarnings (Journal.steady_warnings.startCounter _ _)).bind .trans
    fun _ => emitPeople_sameWarnings w sink country shape quota.toNat

/-- A country adds its own warning, if it has one, before anybody is made there. -/
theorem emitCountry_warnings {country : String} {quota : UInt64} {r t : Run σ}
    (h : emitCountry w sink country quota r = .ok () t) :
    t.journal.warnings = r.journal.warnings ++ (w.areaWarning? country).toList := by
  rw [emitCountry] at h
  cases hshape : shape? w.data country w.options.model with
  | none =>
      rw [hshape] at h
      cases h
  | some found =>
      obtain ⟨shape, warning?⟩ := found
      obtain ⟨-, -, rfl⟩ := shape_eq hshape
      rw [hshape] at h
      cases hwarning : w.areaWarning? country with
      | none =>
          rw [hwarning] at h
          have hrun : emitCounted w sink country quota shape r = .ok () t := h
          have hsame := emitCounted_sameWarnings w sink country quota shape r
          rw [hrun] at hsame
          exact Eq.trans hsame (List.append_nil _).symm
      | some warning =>
          rw [hwarning] at h
          obtain ⟨_, u, hwarn, hrest⟩ := bind_eq_ok_iff.1 h
          have hrun : emitCounted w sink country quota shape u = .ok () t := hrest
          have hsame := emitCounted_sameWarnings w sink country quota shape u
          rw [hrun] at hsame
          cases hwarn
          exact hsame

theorem emitCountries_warnings {countries : List (String × UInt64)} {r t : Run σ}
    (h : emitCountries w sink countries r = .ok () t) :
    t.journal.warnings
      = r.journal.warnings ++ (countries.map Prod.fst).filterMap w.areaWarning? := by
  induction countries generalizing r with
  | nil =>
      cases h
      simp
  | cons entry rest ih =>
      obtain ⟨country, quota⟩ := entry
      obtain ⟨_, u, hcountry, hrest⟩ := bind_eq_ok_iff.1 h
      rw [ih hrest, emitCountry_warnings w sink hcountry, List.append_assoc]
      cases hwarning : w.areaWarning? country <;> simp [hwarning]

end Warnings

/-- Carrying a plan out adds the warnings of its countries, and no others. -/
theorem emit_warnings {plan : Plan} {w : Setting} {sink : Sink σ} {g : Xorshift} {j : Journal}
    {s : σ} {n : UInt64} {r : Run σ} (h : plan.emit w sink ⟨g, j, s⟩ = .ok n r) :
    r.journal.warnings = j.warnings ++ plan.quotas.names.filterMap w.areaWarning? := by
  rw [emit_eq] at h
  obtain ⟨_, r₁, hcountries, h⟩ := bind_eq_ok_iff.1 h
  obtain ⟨_, r₂, hfinish, h⟩ := bind_eq_ok_iff.1 h
  obtain ⟨_, r₃, hstop, h⟩ := bind_eq_ok_iff.1 h
  cases h
  have hfinished : r₂.journal = r₁.journal := by
    have hkept := Run.journal_behind_sinking sink.finish r₁
    rwa [hfinish] at hkept
  have hstopped : r.journal.warnings = r₂.journal.warnings := by
    have hkept := journaling_sameWarnings (Journal.steady_warnings.stop generatingSpan) r₂
    rwa [hstop] at hkept
  have hstarted : (j.start generatingSpan).warnings = j.warnings :=
    Journal.steady_warnings.start _ _
  rw [hstopped, hfinished, emitCountries_warnings w sink hcountries, hstarted, Table.names]

/-! ## The policy -/

/-- People of a country that has a location are at its center if and only if the area is
missing or there is a warning about it. -/
theorem widths_eq_none_iff {w : Setting} {country : String}
    (h : w.data.locations.contains country = true) :
    w.widths? country = none
      ↔ w.data.areas.get? country = none ∨ (w.areaWarning? country).isSome = true := by
  rw [Table.contains, Option.isSome_iff_exists] at h
  obtain ⟨center, hcenter⟩ := h
  rw [Setting.widths?, Setting.areaWarning?, hcenter]
  cases w.data.areas.get? country with
  | none => simp
  | some area =>
      simp only
      cases Geo.halfWidths center area w.options.model <;> simp [Except.toOption]

/-- **How people are placed.** In a run that succeeds there is one warning for each country
of the plan whose area gives no half-widths, whatever its quota, in the order of the names,
and no other one. All people come in the order of the countries, each made with the
generator that the one before has left. Where there is such a warning or no area everybody
is at the center, and the generator stays as the drawing up of the person has left it;
everybody else is moved from the center by two draws of one long word each, to the north
first. -/
theorem emit_settles_by_area {plan : Plan} {w : Setting} {sink : Sink σ} {g : Xorshift}
    {j : Journal} {s : σ} {n : UInt64} {r : Run σ}
    (h : plan.emit w sink ⟨g, j, s⟩ = .ok n r) :
    plan.quotas.names.Pairwise (· < ·)
      ∧ r.journal.warnings = j.warnings ++ plan.quotas.names.filterMap w.areaWarning?
      ∧ (∀ country ∈ plan.quotas.names, w.widths? country = none
        ↔ w.data.areas.get? country = none ∨ (w.areaWarning? country).isSome = true)
      ∧ ∃ people : List (String × Made),
        people.map Prod.fst = plan.quotas.entries.flatMap (fun e => List.replicate e.2.toNat e.1)
          ∧ plan.emit w sink.traced ⟨g, j, ⟨[], s⟩⟩ = .ok n ⟨r.generator, r.journal,
            ⟨emissions (people.map Prod.snd) ++ [.finish], r.sink⟩⟩
          ∧ Chain w g people r.generator := by
  obtain ⟨groups, hall, -⟩ := allMade_of_emit h
  refine ⟨List.pairwise_map.2 plan.quotas.ascending, emit_warnings h, fun country hmem => ?_,
    chain_of_emit h⟩
  obtain ⟨entry, hentry, rfl⟩ := List.mem_map.1 hmem
  exact widths_eq_none_iff (Course.located_of_allMade hall entry hentry)

/-- The area of Andoria is of no use, Betazed has none, and nobody is planned for Cardassia,
which has one. -/
def mixedAreas : Setting where
  data :=
    { users := .empty
      areas := .ofList [("Andoria", -1.0), ("Cardassia", 400.0)]
      locations := .ofList
        [("Andoria", ⟨20.0, 10.0⟩), ("Betazed", ⟨30.0, -5.0⟩), ("Cardassia", ⟨0.0, 0.0⟩)]
      names := ⟨#["TOM", "HARRY"], #["PARIS"], by decide, by decide⟩ }
  options := {}
  today := ⟨18100, by decide⟩

/-- Two people of Andoria and one of Betazed, and a warning about Andoria. -/
theorem emit_settles_by_area_mixed :
    ∃ r people, Plan.emit ⟨.ofList [("Andoria", 2), ("Betazed", 1), ("Cardassia", 0)], 3⟩
        mixedAreas Sink.collect ⟨⟨1, 2, 3, 4⟩, Journal.new "run" true, []⟩ = .ok 3 r
      ∧ r.journal.warnings.length = 1
      ∧ people.map Prod.fst = ["Andoria", "Andoria", "Betazed"]
      ∧ Chain mixedAreas ⟨1, 2, 3, 4⟩ people r.generator
      ∧ mixedAreas.widths? "Andoria" = none ∧ (mixedAreas.widths? "Cardassia").isSome = true := by
  have hthree : value? (Plan.emit ⟨.ofList [("Andoria", 2), ("Betazed", 1), ("Cardassia", 0)], 3⟩
      mixedAreas Sink.collect ⟨⟨1, 2, 3, 4⟩, Journal.new "run" true, []⟩) = some 3 := by
    decide +kernel
  have hwarned : ((Table.ofList [("Andoria", (2 : UInt64)), ("Betazed", 1),
      ("Cardassia", 0)]).names.filterMap mixedAreas.areaWarning?).length = 1 := by
    decide +kernel
  have hcountries : (Table.ofList [("Andoria", (2 : UInt64)), ("Betazed", 1),
      ("Cardassia", 0)]).entries.flatMap (fun e => List.replicate e.2.toNat e.1)
      = ["Andoria", "Andoria", "Betazed"] := by
    decide +kernel
  obtain ⟨r, hrun⟩ := eq_ok_of_value hthree
  obtain ⟨-, hwarnings, hcenter, people, hpeople, -, hchain⟩ := emit_settles_by_area hrun
  have hnone : (mixedAreas.areaWarning? "Andoria").isSome = true := by decide +kernel
  refine ⟨r, people, hrun, ?_, hpeople.trans hcountries, hchain, ?_, by decide +kernel⟩
  · rw [hwarnings, List.length_append, hwarned]
    rfl
  · exact (hcenter "Andoria" (by decide +kernel)).2 (.inr hnone)

end Populace.Census
