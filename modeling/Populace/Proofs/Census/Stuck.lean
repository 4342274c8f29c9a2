import Populace.Proofs.Census.Course
import Populace.Proofs.Census.Planning

/-!
# Where a course can break off

The course of a plan that was made for the same data and options breaks off only at a
country that is to get somebody, and only because of a mishap there. A country with a
half-width that bounds no interval always breaks it off (`Plan.Stuck`), and if the
calendar reaches back far enough nothing else does.
-/

namespace Populace.Census

open Populace.People Populace.Random

/-- An area that gives no half-widths does not get into a shape. -/
theorem sound_of_shape {data : Reference} {country : String} {model : Geo.LongitudeModel}
    {shape : Shape} {warning? : Option String}
    (h : shape? data country model = some (shape, warning?)) : shape.Sound model := by
  intro area harea
  rw [shape?] at h
  cases hcenter : data.locations.get? country with
  | none => simp [hcenter] at h
  | some center =>
      cases hknown : data.areas.get? country with
      | none =>
          simp only [hcenter, hknown, Option.some.injEq, Prod.mk.injEq] at h
          obtain ⟨rfl, -⟩ := h
          cases harea
      | some a =>
          simp only [hcenter, hknown] at h
          cases hwidths : Geo.halfWidths center a model with
          | error fault =>
              simp only [hwidths, Option.some.injEq, Prod.mk.injEq] at h
              obtain ⟨rfl, -⟩ := h
              cases harea
          | ok widths =>
              simp only [hwidths, Option.some.injEq, Prod.mk.injEq] at h
              obtain ⟨rfl, -⟩ := h
              cases harea
              exact ⟨widths, hwidths⟩

/-- A country has a shape if and only if it has a location. -/
theorem shape_of_located {data : Reference} {country : String} (model : Geo.LongitudeModel)
    (h : data.locations.contains country) :
    ∃ shape warning?, shape? data country model = some (shape, warning?) := by
  rw [Table.contains, Option.isSome_iff_exists] at h
  obtain ⟨center, hcenter⟩ := h
  rw [shape?, hcenter]
  cases hknown : data.areas.get? country with
  | none => exact ⟨_, _, rfl⟩
  | some area =>
      cases hwidths : Geo.halfWidths center area model with
      | error fault =>
          simp only [hwidths]
          exact ⟨_, _, rfl⟩
      | ok widths =>
          simp only [hwidths]
          exact ⟨_, _, rfl⟩

namespace Course

/-- Somebody of the course cannot be made. -/
def Fails (c : Course) : Prop :=
  ∃ e g, c.ending = .error e g

theorem ending_andThen {c : Course} {next : Xorshift → Course} {e : Failure} {k : Xorshift} :
    (c.andThen next).ending = .error e k
      ↔ c.ending = .error e k ∨ ∃ g, c.ending = .ok () g ∧ (next g).ending = .error e k := by
  cases h : c.ending with
  | ok _ g => simp [andThen_of_ok h]
  | error e' g => simp [andThen_of_error h, h]

section People

variable {w : Setting} {country : String} {shape : Shape}

theorem mishap_of_person (hages : w.options.HasAges) (hsound : shape.Sound w.options.model)
    {g k : Xorshift} {e : Failure} (h : (ofPerson w country shape g).ending = .error e k) :
    ∃ e', Mishap shape w.options w.today e' ∧ e = e'.within (.making country) := by
  rw [ofPerson] at h
  cases hdraw : Person.draw shape w.data.names w.options w.today g with
  | ok person l =>
      rw [inContext_of_ok hdraw] at h
      cases h
  | error e' l =>
      rw [inContext_of_error hdraw] at h
      cases h
      exact ⟨e', mishap_of_draw hages hsound hdraw, rfl⟩

theorem mishap_of_people (hages : w.options.HasAges) (hsound : shape.Sound w.options.model)
    {n : Nat} {g k : Xorshift} {e : Failure}
    (h : (ofPeople w country shape n g).ending = .error e k) :
    n ≠ 0 ∧ ∃ e', Mishap shape w.options w.today e' ∧ e = e'.within (.making country) := by
  induction n generalizing g with
  | zero => cases h
  | succ n ih =>
      refine ⟨n.succ_ne_zero, ?_⟩
      rw [ofPeople, ending_andThen] at h
      rcases h with h | ⟨l, -, h⟩
      · exact mishap_of_person hages hsound h
      · exact (ih h).2

theorem people_fail_of_unbounded {b : Float} (hb : shape.Unbounded w.options.model b) {n : Nat}
    (hn : n ≠ 0) (g : Xorshift) : (ofPeople w country shape n g).Fails := by
  obtain ⟨n, rfl⟩ := Nat.exists_eq_succ_of_ne_zero hn
  obtain ⟨e, k, hdraw⟩ :
      ∃ e k, Person.draw shape w.data.names w.options w.today g = .error e k :=
    draw_of_unbounded hb g
  refine ⟨e.within (.making country), k, ?_⟩
  rw [ofPeople, ending_andThen, ofPerson, inContext_of_error hdraw]
  exact .inl rfl

end People

/-- Nobody is missing from the course of countries unless there is a mishap in one of
them. -/
theorem mishap_of_countries {w : Setting} (hages : w.options.HasAges)
    {countries : List (String × UInt64)}
    (hlocated : ∀ entry ∈ countries, w.data.locations.contains entry.1)
    {g k : Xorshift} {e : Failure} (h : (ofCountries w countries g).ending = .error e k) :
    ∃ country quota shape warning? e', (country, quota) ∈ countries ∧ quota ≠ 0
      ∧ shape? w.data country w.options.model = some (shape, warning?)
      ∧ Mishap shape w.options w.today e' ∧ e = e'.within (.making country) := by
  induction countries generalizing g with
  | nil => cases h
  | cons entry rest ih =>
      obtain ⟨country, quota⟩ := entry
      have hhere := hlocated _ List.mem_cons_self
      obtain ⟨shape, warning?, hshape⟩ := shape_of_located w.options.model hhere
      rw [ofCountries, ending_andThen, ofCountry, hshape] at h
      rcases h with h | ⟨l, -, h⟩
      · obtain ⟨hquota, e', hmishap, he⟩ := mishap_of_people hages (sound_of_shape hshape) h
        refine ⟨country, quota, shape, warning?, e', List.mem_cons_self, ?_, hshape, hmishap, he⟩
        rintro rfl
        exact hquota rfl
      · obtain ⟨c, q, s, v, e', hmem, hrest⟩ :=
          ih (fun entry hentry => hlocated entry (List.mem_cons_of_mem _ hentry)) h
        exact ⟨c, q, s, v, e', List.mem_cons_of_mem _ hmem, hrest⟩

theorem countries_fail_of_unbounded {w : Setting} {countries : List (String × UInt64)}
    {country : String} {quota : UInt64} {shape : Shape} {warning? : Option String} {b : Float}
    (hmem : (country, quota) ∈ countries) (hquota : quota ≠ 0)
    (hshape : shape? w.data country w.options.model = some (shape, warning?))
    (hb : shape.Unbounded w.options.model b) (g : Xorshift) :
    (ofCountries w countries g).Fails := by
  induction countries generalizing g with
  | nil => cases hmem
  | cons entry rest ih =>
      obtain ⟨c, q⟩ := entry
      rw [ofCountries, Fails]
      simp only [ending_andThen]
      cases hend : (ofCountry w c q g).ending with
      | error e k => exact ⟨e, k, .inl rfl⟩
      | ok _ l =>
          rcases List.mem_cons.1 hmem with heq | hmem
          · -- the country itself cannot have come to its end
            cases heq
            have hn : quota.toNat ≠ 0 := fun h => hquota (UInt64.toNat_inj.1 h)
            obtain ⟨e, k, hfail⟩ : (ofPeople w country shape quota.toNat g).Fails :=
              people_fail_of_unbounded hb hn g
            rw [ofCountry, hshape] at hend
            rw [hend] at hfail
            cases hfail
          · obtain ⟨e, k, hfail⟩ := ih hmem l
            exact ⟨e, k, .inr ⟨l, rfl, hfail⟩⟩

end Course

/-! ## The course of a whole plan -/

/-- Somebody is planned for a country where a half-width bounds no interval. -/
def Plan.Stuck (plan : Plan) (w : Setting) : Prop :=
  ∃ country quota shape warning? b, (country, quota) ∈ plan.quotas.entries ∧ quota ≠ 0
    ∧ shape? w.data country w.options.model = some (shape, warning?)
    ∧ shape.Unbounded w.options.model b

theorem fails_of_stuck {plan : Plan} {w : Setting} (h : plan.Stuck w) (g : Xorshift) :
    (plan.course w g).Fails := by
  obtain ⟨country, quota, shape, warning?, b, hmem, hquota, hshape, hb⟩ := h
  exact Course.countries_fail_of_unbounded hmem hquota hshape hb g

/-- Every country of a plan has a location. -/
theorem located_of_allocate {α : Type} {users quotas : Table UInt64} {locations : Table α}
    {people : UInt64} (h : allocate users locations people = .ok quotas) :
    ∀ entry ∈ quotas.entries, locations.contains entry.1 := by
  intro entry hentry
  have hmem : (entry.1, entry.2.toNat) ∈ quotas.entries.map fun e => (e.1, e.2.toNat) :=
    List.mem_map.2 ⟨entry, hentry, rfl⟩
  rw [quotas_of_allocate h] at hmem
  obtain ⟨e, he, heq⟩ := List.mem_map.1 hmem
  have hloc := (List.mem_filter.1 he).2
  rw [Prod.mk.injEq] at heq
  rwa [heq.1] at hloc

/-- The course of a plan fails only in a country where nobody can be placed, or if the
greatest age reaches back to before the calendar. -/
theorem stuck_of_fails {plan : Plan} {w : Setting} {j k : Journal}
    (hplan : Planned w.data w.options j plan k) {g : Xorshift} (h : (plan.course w g).Fails) :
    plan.Stuck w
      ∨ w.today.number < Calendar.earliest + w.options.greatestAge * daysPerYear := by
  obtain ⟨e, l, hend⟩ := h
  obtain ⟨country, quota, shape, warning?, e', hmem, hquota, hshape, hmishap, -⟩ :=
    Course.mishap_of_countries hplan.ages (located_of_allocate hplan.quotas) hend
  cases hmishap with
  | unborn hlow hhigh hborn =>
      refine .inr (Int.not_le.1 fun hday => ?_)
      obtain ⟨born, hok⟩ := bornOn_of_late hplan.ages hday hlow hhigh
      rw [hborn] at hok
      cases hok
  | unplaced hb =>
      exact .inl ⟨country, quota, shape, warning?, _, hmem, hquota, hshape, hb⟩

end Populace.Census
