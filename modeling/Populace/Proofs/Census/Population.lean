import Populace.Proofs.Census.Offers
import Populace.Proofs.Census.Planning

/-!
# Who is made

`generate_population` puts planning and carrying out together: who is handed to the sink
in a run that succeeds, country by country, how many there are, and that the sink is
finished behind the last one.
-/

namespace Populace.Census

open Populace.People Populace.Random

variable {σ : Type}

/-- A plan that was made can be carried out in the journal that planning has left. -/
theorem generate_of_planned {w : Setting} {sink : Sink σ} {g : Xorshift} {j k : Journal} {s : σ}
    {plan : Plan} (h : Plan.new w.data w.options j = .ok plan k) :
    generate w sink ⟨g, j, s⟩ = plan.emit w sink ⟨g, k, s⟩ := by
  have hplanning : (Run.planning (Plan.new w.data w.options) : EStateM Failure (Run σ) Plan)
      ⟨g, j, s⟩ = .ok plan ⟨g, k, s⟩ := by
    simp only [Run.planning, h]
  rw [generate, bind_of_ok hplanning]

theorem generate_of_unplanned {w : Setting} {sink : Sink σ} {g : Xorshift} {j k : Journal}
    {s : σ} {e : Failure} (h : Plan.new w.data w.options j = .error e k) :
    generate w sink ⟨g, j, s⟩ = .error e ⟨g, k, s⟩ := by
  have hplanning : (Run.planning (Plan.new w.data w.options) : EStateM Failure (Run σ) Plan)
      ⟨g, j, s⟩ = .error e ⟨g, k, s⟩ := by
    simp only [Run.planning, h]
  rw [generate, bind_of_error hplanning]

section Groups

variable {users quotas : Table UInt64} {locations : Table Geo.Position} {people : UInt64}
  {groups : List (String × List Made)}

/-- Groups as large as the quotas ask for are those of the countries in both tables, each
of the size of the country's share. -/
theorem shared_groups (h : allocate users locations people = .ok quotas)
    (hgroups : groups.map (fun e => (e.1, e.2.length))
      = quotas.entries.map fun e => (e.1, e.2.toNat)) :
    (groups.map Prod.fst).Pairwise (· < ·)
      ∧ (∀ c, c ∈ groups.map Prod.fst ↔ users.contains c ∧ locations.contains c)
      ∧ (∀ e ∈ groups, ∃ n, users.get? e.1 = some n
        ∧ e.2.length = n.toNat * people.toNat / allUsers users)
      ∧ (groups.flatMap Prod.snd).length = (quotas.values.foldr (· + ·) 0).toNat := by
  have hnames : groups.map Prod.fst = quotas.names := by
    simpa [Table.names, Function.comp_def] using congrArg (List.map Prod.fst) hgroups
  have hshares := hgroups.trans (quotas_of_allocate h)
  refine ⟨?_, fun c => ?_, fun e he => ?_, ?_⟩
  · rw [hnames]
    exact List.pairwise_map.2 quotas.ascending
  · have hlocated : groups.map Prod.fst
        = (users.entries.filter fun e => locations.contains e.1).map Prod.fst := by
      simpa [Function.comp_def] using congrArg (List.map Prod.fst) hshares
    rw [hlocated, Table.contains_iff, Table.names, List.mem_map, List.mem_map]
    constructor
    · rintro ⟨e, he, rfl⟩
      obtain ⟨hmem, hloc⟩ := List.mem_filter.1 he
      exact ⟨⟨e, hmem, rfl⟩, hloc⟩
    · rintro ⟨⟨e, hmem, rfl⟩, hloc⟩
      exact ⟨e, List.mem_filter.2 ⟨hmem, hloc⟩, rfl⟩
  · have he' : (e.1, e.2.length) ∈ groups.map fun e => (e.1, e.2.length) :=
      List.mem_map_of_mem he
    rw [hshares] at he'
    obtain ⟨u, hu, heq⟩ := List.mem_map.1 he'
    obtain ⟨hname, hlength⟩ := Prod.mk.inj heq
    rw [totalUsers_eq] at hlength
    refine ⟨u.2, ?_, hlength.symm⟩
    rw [Table.get?_eq_some_iff, ← hname]
    exact List.mem_of_mem_filter hu
  · have hlengths : groups.map (·.2.length) = quotas.entries.map (·.2.toNat) := by
      simpa [Function.comp_def] using congrArg (List.map Prod.snd) hgroups
    rw [List.length_flatMap, hlengths, toNat_sum_quotas h]

end Groups

/-- **Who is made.** If planning and carrying out succeed, the sink is handed the people of
all countries that have users and a location, in the order of the names; each country has
as many as its share of the people asked for, rounded down, everybody is drawn from the
generator that the one before has left, and the sink is finished once, behind the last
one. This is so for any sink, since one that fails lets no run succeed. -/
theorem generate_population {w : Setting} {sink : Sink σ} {g g' : Xorshift} {j j' : Journal} {s s' : σ} {n : UInt64}
    (h : generate w sink ⟨g, j, s⟩ = .ok n ⟨g', j', s'⟩) :
    ∃ groups : List (String × List Made),
      (groups.map Prod.fst).Pairwise (· < ·)
        ∧ (∀ c, c ∈ groups.map Prod.fst ↔
          w.data.users.contains c ∧ w.data.locations.contains c)
        ∧ (∀ e ∈ groups, ∃ users, w.data.users.get? e.1 = some users
          ∧ e.2.length = users.toNat * w.options.people.toNat / allUsers w.data.users)
        ∧ Course.DrawnByCountry w g groups g'
        ∧ generate w sink.traced ⟨g, j, ⟨[], s⟩⟩
          = .ok n ⟨g', j', ⟨emissions (groups.flatMap Prod.snd) ++ [.finish], s'⟩⟩
        ∧ n.toNat = (groups.flatMap Prod.snd).length
        ∧ (∃ plan k, Plan.new w.data w.options j = .ok plan k ∧ plan.total = n)
        ∧ n ≤ w.options.people := by
  cases hplan : Plan.new w.data w.options j with
  | error e k =>
      rw [generate_of_unplanned hplan] at h
      cases h
  | ok plan k =>
      have hplanned := planned_of_new hplan
      obtain ⟨l, left, hoffers, htraced⟩ := emit_traced_offers plan w sink hplanned.behind g s
      have huntraced : mapState Run.untraced (generate w sink.traced ⟨g, j, ⟨[], s⟩⟩)
          = .ok n ⟨g', j', s'⟩ := (generate_untraces w sink _).trans h
      rw [generate_of_planned hplan, htraced] at huntraced
      obtain ⟨groups, m, haccounts⟩ := Course.accounts_ofCountries w plan.quotas.entries g
      rw [← Plan.course] at haccounts
      generalize plan.course w g = course at hoffers haccounts
      -- a run in which anything is refused or missing fails, so the sink has been finished
      cases hoffers with
      | refused _ _ => cases huntraced
      | incomplete _ => cases huntraced
      | unfinished _ _ => cases huntraced
      | finished haccepts hfinish =>
          cases huntraced
          obtain ⟨rfl, hcounts⟩ := haccounts.complete _ rfl
          obtain ⟨hsorted, hmem, hshares, hlength⟩ := shared_groups hplanned.quotas hcounts
          refine ⟨groups, hsorted, hmem, hshares, haccounts.drawn, ?_, ?_, ?_, ?_⟩
          · rw [generate_of_planned hplan, htraced, ← haccounts.made]
            rfl
          · rw [hlength, hplanned.total]
          · exact ⟨plan, k, rfl, rfl⟩
          · rw [UInt64.le_iff_toNat_le, hplanned.total, toNat_sum_quotas hplanned.quotas]
            exact sum_quotas_le hplanned.quotas

/-- Three of the seven live in Andoria and one in Betazed. -/
theorem generate_population_three_countries :
    ∃ n r groups, generate threeCountries Sink.collect
        ⟨⟨1, 2, 3, 4⟩, Journal.new "run" true, []⟩ = .ok n r
      ∧ n = 4 ∧ n.toNat = (groups.flatMap Prod.snd).length
      ∧ Course.DrawnByCountry threeCountries ⟨1, 2, 3, 4⟩ groups r.generator
      ∧ ∀ c, c ∈ groups.map Prod.fst ↔ threeCountries.data.users.contains c
        ∧ threeCountries.data.locations.contains c := by
  have hfour : value? (generate threeCountries Sink.collect
      ⟨⟨1, 2, 3, 4⟩, Journal.new "run" true, []⟩) = some 4 := by decide +kernel
  obtain ⟨r, hrun⟩ := eq_ok_of_value hfour
  obtain ⟨groups, -, hmem, -, hdrawn, -, hlength, -, -⟩ := generate_population hrun
  exact ⟨4, r, groups, hrun, rfl, hlength, hdrawn, hmem⟩

end Populace.Census
