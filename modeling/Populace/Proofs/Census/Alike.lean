import Mathlib.Data.List.Forall2
import Populace.Proofs.Census.Settling

/-!
# Runs that draw alike

What a run draws depends on how many people are planned, on how much there is to choose
from, and on who is scattered: neither on names nor dates nor coordinates. So two runs that
agree in these things draw the same drafts from the same generator, and leave it in the
same state (`runs_draw_alike`).
-/

namespace Populace.Census

open Populace.People Populace.Random

variable {σ τ : Type}

/-- Draws up people one behind the other; behind those who are scattered, their places are
drawn. -/
def draftAll (c : Choices) : List Bool → Xorshift → List Draft × Xorshift
  | [], g => ([], g)
  | scattered :: rest, g =>
    let drawn := Draft.draw c g
    let others := draftAll c rest (Geo.behindPlacing scattered drawn.2)
    (drawn.1 :: others.1, others.2)

/-- Whether the people of a country are scattered. -/
def Setting.scatters (w : Setting) (country : String) : Bool :=
  (w.widths? country).isSome

/-- For everybody who is planned, in order, whether they are scattered. -/
def Plan.scattered (plan : Plan) (w : Setting) : List Bool :=
  plan.quotas.entries.flatMap fun e => List.replicate e.2.toNat (w.scatters e.1)

/-- Whoever is settled, one behind the other, is described by the drafts drawn up. -/
theorem draftAll_of_chain {w : Setting} {g h : Xorshift} {people : List (String × Made)}
    (hchain : Chain w g people h) :
    ∃ drafts, draftAll w.choices (people.map fun e => w.scatters e.1) g = (drafts, h)
      ∧ List.Forall₂ (fun d p => Draft.Describes d w.data.names w.options w.today p) drafts
        (people.map fun e => e.2.person) := by
  induction people generalizing g with
  | nil =>
      obtain rfl : h = g := hchain
      exact ⟨[], rfl, .nil⟩
  | cons entry people ih =>
      obtain ⟨country, m⟩ := entry
      obtain ⟨⟨hdescribes, center, -, hplaced⟩, hrest⟩ := hchain
      obtain ⟨drafts, hdrafts, hall⟩ := ih hrest
      -- the place takes words of the generator if the country scatters, and none otherwise
      rw [hplaced.behind] at hdrafts
      refine ⟨(Draft.draw w.choices g).1 :: drafts, ?_, .cons hdescribes hall⟩
      rw [List.map_cons, draftAll]
      simp only [Setting.scatters] at hdrafts ⊢
      rw [hdrafts]

/-- A run that succeeds has drawn up everybody who is planned. -/
theorem drafted_of_emit {plan : Plan} {w : Setting} {sink : Sink σ} {g : Xorshift} {j : Journal}
    {s : σ} {n : UInt64} {r : Run σ} (h : plan.emit w sink ⟨g, j, s⟩ = .ok n r) :
    ∃ (drafts : List Draft) (people : List Person),
      draftAll w.choices (plan.scattered w) g = (drafts, r.generator)
        ∧ List.Forall₂ (fun d p => Draft.Describes d w.data.names w.options w.today p) drafts people
        ∧ plan.emit w sink.traced ⟨g, j, ⟨[], s⟩⟩ = .ok n ⟨r.generator, r.journal,
          ⟨people.map .emit ++ [.finish], r.sink⟩⟩ := by
  obtain ⟨people, hcountries, htraced, hchain⟩ := chain_of_emit h
  obtain ⟨drafts, hdrafts, hall⟩ := draftAll_of_chain hchain
  have hscattered : people.map (fun e => w.scatters e.1) = plan.scattered w := by
    have hmap := congrArg (List.map w.scatters) hcountries
    rw [List.map_map, List.map_flatMap] at hmap
    simpa [Plan.scattered, Function.comp_def] using hmap
  rw [hscattered] at hdrafts
  refine ⟨drafts, people.map fun e => e.2.person, hdrafts, hall, ?_⟩
  rw [htraced, emissions, List.map_map, List.map_map]
  rfl

/-- Plans of equal quotas scatter the same people if they scatter the same countries. -/
theorem scattered_congr {p q : Plan} {v w : Setting} (hquotas : p.quotas.values = q.quotas.values)
    (hareas : p.quotas.names.map v.scatters = q.quotas.names.map w.scatters) :
    p.scattered v = q.scattered w := by
  have hpairs : p.quotas.entries.map (fun e => (e.2, v.scatters e.1))
      = q.quotas.entries.map fun e => (e.2, w.scatters e.1) := by
    simp only [Table.names, List.map_map] at hareas
    rw [← List.zip_map', ← List.zip_map']
    exact congrArg₂ List.zip hquotas hareas
  have hflat := congrArg (List.flatMap fun e : UInt64 × Bool => List.replicate e.1.toNat e.2) hpairs
  rwa [List.flatMap_map, List.flatMap_map] at hflat

/-- **Runs that draw alike.** Take two runs that succeed from one state of the generator,
with equal quotas, equally many first and last names, equally many years between the ages,
and the same countries scattered, by position. Whatever else is different, somebody at one
position has in both runs the same identifier, names from the same places of their lists,
and an age by the same number of years below the greatest one, all of which the generator
alone decides; and both runs leave the generator in the same state. -/
theorem runs_draw_alike {p q : Plan} {v w : Setting} {sink : Sink σ} {sink' : Sink τ}
    {g : Xorshift} {j k : Journal} {s : σ} {t : τ} {m n : UInt64} {r : Run σ} {u : Run τ}
    (hquotas : p.quotas.values = q.quotas.values)
    (hfirst : v.data.names.first.size = w.data.names.first.size)
    (hlast : v.data.names.last.size = w.data.names.last.size)
    (hspan : v.options.greatestAge - v.options.leastAge
      = w.options.greatestAge - w.options.leastAge)
    (hareas : p.quotas.names.map v.scatters = q.quotas.names.map w.scatters)
    (hp : p.emit v sink ⟨g, j, s⟩ = .ok m r) (hq : q.emit w sink' ⟨g, k, t⟩ = .ok n u) :
    ∃ (drafts : List Draft) (people people' : List Person),
      draftAll v.choices (p.scattered v) g = (drafts, r.generator)
        ∧ p.emit v sink.traced ⟨g, j, ⟨[], s⟩⟩ = .ok m ⟨r.generator, r.journal,
          ⟨people.map .emit ++ [.finish], r.sink⟩⟩
        ∧ q.emit w sink'.traced ⟨g, k, ⟨[], t⟩⟩ = .ok n ⟨u.generator, u.journal,
          ⟨people'.map .emit ++ [.finish], u.sink⟩⟩
        ∧ List.Forall₂ (fun d x => Draft.Describes d v.data.names v.options v.today x) drafts people
        ∧ List.Forall₂ (fun d x => Draft.Describes d w.data.names w.options w.today x) drafts
          people'
        ∧ r.generator = u.generator := by
  obtain ⟨drafts, people, hdrafts, hpeople, hcalls⟩ := drafted_of_emit hp
  obtain ⟨drafts', people', hdrafts', hpeople', hcalls'⟩ := drafted_of_emit hq
  have hchoices : v.choices = w.choices := by
    rw [Setting.choices, Setting.choices, choices, choices, hfirst, hlast, hspan]
  rw [← hchoices, ← scattered_congr hquotas hareas, hdrafts, Prod.mk.injEq] at hdrafts'
  obtain ⟨rfl, hgenerator⟩ := hdrafts'
  exact ⟨drafts, people, people', hdrafts, hcalls, hcalls', hpeople, hpeople', hgenerator⟩

/-- Another world, with other countries, names, ages, another day and another model of
longitudes. Of its countries the second one has an area, which is of no use. -/
def otherWorld : Setting where
  data :=
    { users := .empty
      areas := .ofList [("Vulcan", -4.0)]
      locations := .ofList [("Earth", ⟨1.0, 2.0⟩), ("Vulcan", ⟨3.0, 4.0⟩)]
      names := ⟨#["SAREK", "TUVOK"], #["XON"], by decide, by decide⟩ }
  options := { leastAge := 8, greatestAge := 90, model := .equirectangular }
  today := ⟨12000, by decide⟩

/-- Three people of two countries in each of two worlds have the same identifiers. -/
theorem runs_draw_alike_other_world :
    ∃ r u drafts people people',
      Plan.emit ⟨.ofList [("Andoria", 2), ("Betazed", 1)], 3⟩ mixedAreas Sink.collect
          ⟨⟨1, 2, 3, 4⟩, Journal.new "run" true, []⟩ = .ok 3 r
        ∧ Plan.emit ⟨.ofList [("Earth", 2), ("Vulcan", 1)], 3⟩ otherWorld Sink.collect
          ⟨⟨1, 2, 3, 4⟩, Journal.new "another run" false, []⟩ = .ok 3 u
        ∧ draftAll mixedAreas.choices [false, false, false] ⟨1, 2, 3, 4⟩ = (drafts, r.generator)
        ∧ List.Forall₂ (fun d x => Draft.Describes d mixedAreas.data.names mixedAreas.options
          mixedAreas.today x) drafts people
        ∧ List.Forall₂ (fun d x => Draft.Describes d otherWorld.data.names otherWorld.options
          otherWorld.today x) drafts people'
        ∧ r.generator = u.generator := by
  have hhere : value? (Plan.emit ⟨.ofList [("Andoria", 2), ("Betazed", 1)], 3⟩ mixedAreas
      Sink.collect ⟨⟨1, 2, 3, 4⟩, Journal.new "run" true, []⟩) = some 3 := by decide +kernel
  have hthere : value? (Plan.emit ⟨.ofList [("Earth", 2), ("Vulcan", 1)], 3⟩ otherWorld
      Sink.collect ⟨⟨1, 2, 3, 4⟩, Journal.new "another run" false, []⟩) = some 3 := by
    decide +kernel
  have hnobody : Plan.scattered ⟨.ofList [("Andoria", 2), ("Betazed", 1)], 3⟩ mixedAreas
      = [false, false, false] := by decide +kernel
  obtain ⟨r, hr⟩ := eq_ok_of_value hhere
  obtain ⟨u, hu⟩ := eq_ok_of_value hthere
  obtain ⟨drafts, people, people', hdrafts, -, -, hpeople, hpeople', hgenerator⟩ :=
    runs_draw_alike (by decide +kernel) (by decide) (by decide) (by decide) (by decide +kernel)
      hr hu
  rw [hnobody] at hdrafts
  exact ⟨r, u, drafts, people, people', hr, hu, hdrafts, hpeople, hpeople', hgenerator⟩

end Populace.Census
