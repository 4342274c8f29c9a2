import Populace.Proofs.People.Drafts
import Populace.Proofs.Random.Uniformity

/-!
# Fair names and ages

Both names of somebody, and the age, are drawn word by word until a word has an answer. The
first words with answers say which names of the lists it is (`first_of_first`,
`last_of_first`) and how many years it is (`yearsDrawn_of_first`). Since each answer has as
many words as any other, each name of a list is as likely as any other, and so is each age.
-/

namespace Populace.People

open Populace.Random

variable {names : NamePool} {options : Options} {shape : Shape} {today : Calendar.Date}
  {g h k : Xorshift} {n i : Nat} {y : Int} {p : Person}

/-! ## Names -/

/-- The places of both names, and the generator behind them. -/
theorem drawPlaces_eq (names : NamePool) (g : Xorshift) :
    names.drawPlaces g
      = (((Draw.index names.first.size g).1,
          (Draw.index names.last.size (Draw.index names.first.size g).2).1),
        (Draw.index names.last.size (Draw.index names.first.size g).2).2) := rfl

/-- The first name stands where the first word with an answer says. -/
theorem first_of_first (hsize : names.first.size < 2 ^ 32)
    (h : FirstAnswer Draw.word (Draw.indexRound names.first.size) g n i) :
    (names.drawPlaces g).1.1 = i := by
  rw [drawPlaces_eq, Draw.index_repeats hsize g n i h]

/-- The last name is drawn behind the first one, and in the same way. -/
theorem last_of_first (hsize : names.last.size < 2 ^ 32)
    (h : FirstAnswer Draw.word (Draw.indexRound names.last.size)
      (Draw.index names.first.size g).2 n i) :
    (names.drawPlaces g).1.2 = i := by
  rw [drawPlaces_eq, Draw.index_repeats hsize _ n i h]

theorem exists_getD {list : Array String} (hi : i < list.size) :
    ∃ name, list[i]? = some name ∧ list.getD i "" = name := by
  rw [Array.getD_eq_getD_getElem?, Array.getElem?_eq_getElem hi]
  exact ⟨_, rfl, rfl⟩

/-- Somebody is called by the names at the two places. -/
theorem name_at_places (names : NamePool) (g : Xorshift) :
    ∃ first last, names.first[(names.drawPlaces g).1.1]? = some first
      ∧ names.last[(names.drawPlaces g).1.2]? = some last
      ∧ (names.draw g).1 = first ++ " " ++ last := by
  obtain ⟨first, hfound, hfirst⟩ := exists_getD (Draw.index_lt names.first_pos g)
  obtain ⟨last, hfound', hlast⟩ :=
    exists_getD (Draw.index_lt names.last_pos (Draw.index names.first.size g).2)
  refine ⟨first, last, hfound, hfound', ?_⟩
  rw [← hfirst, ← hlast]
  rfl

/-! ## Ages -/

/-- The years are what the first long word with an answer says. -/
theorem yearsDrawn_of_first
    (hy : FirstAnswer Draw.longWord (Draw.betweenRound (-options.greatestAge) (-options.leastAge))
      (names.draw (Uuid.draw g).2).2 n y) :
    yearsDrawn names options g
      = .ok y (Draw.longWord.behind (n + 1) (names.draw (Uuid.draw g).2).2) := by
  rw [yearsDrawn, bind_of_ok (run_sure _ g), bind_of_ok (run_sure _ _), run_sure,
    Draw.between_repeats _ _ _ _ _ hy]

/-- Whoever is made has the name and the years that are drawn. -/
theorem name_and_years_of_draw (hdraw : Person.draw shape names options today g = .ok p h)
    (hy : yearsDrawn names options g = .ok y k) :
    p.name = (names.draw (Uuid.draw g).2).1 ∧ today.addDays? (y * 365) = some p.born := by
  obtain ⟨hdescribes, -⟩ := describes_of_draw hdraw
  obtain ⟨d, g₁, g₂, g₃, m, hdraft, hsteps⟩ := Draft.exists_steps (choices names options) g
  rw [hdraft] at hdescribes
  have hyears := yearsDrawn_of_steps hsteps
  rw [hy] at hyears
  cases hyears
  rw [hsteps.id, name_of_steps hsteps]
  exact ⟨hdescribes.name, hdescribes.born⟩

/-! ## Both -/

/-- Each of so many indices has equally many of the `2 ^ 32` words and no other number has any,
and at least half of the words have an index. -/
structure FairIndices (size : Nat) : Prop where
  fair : Fair (Draw.indexRound size) {i | i < size} (2 ^ (31 - size.log2))
  half : 2 ^ 32 ≤ 2 * {word | Draw.indexRound size word ≠ none}.ncard

theorem fairIndices {size : Nat} (hpos : 0 < size) (hsize : size < 2 ^ 32) : FairIndices size :=
  ⟨Draw.fair_indexRound hpos hsize, Draw.half_answered hpos hsize⟩

/-- **Names and ages are drawn uniformly.** Somebody has a first and a last name out of two
lists. Each name stands where the first word points that has an answer: each index of a list
is the answer to equally many of the `2 ^ 32` words, the first and the last one included,
nothing else is an answer, and at least half of the words have one. By how many years somebody
is older than today is what the first long word says that has an answer: equally many of the
`2 ^ 64` long words for each number of years from the greatest age to the least, both
included. -/
theorem draws_are_uniform (names : NamePool) (options : Options) :
    (∀ g, ∃ first last, names.first[(names.drawPlaces g).1.1]? = some first
        ∧ names.last[(names.drawPlaces g).1.2]? = some last
        ∧ (names.draw g).1 = first ++ " " ++ last)
      ∧ (names.first.size < 2 ^ 32 → FairIndices names.first.size
        ∧ ∀ g n i, FirstAnswer Draw.word (Draw.indexRound names.first.size) g n i →
          (names.drawPlaces g).1.1 = i)
      ∧ (names.last.size < 2 ^ 32 → FairIndices names.last.size
        ∧ ∀ g n i,
          FirstAnswer Draw.word (Draw.indexRound names.last.size)
            (Draw.index names.first.size g).2 n i →
          (names.drawPlaces g).1.2 = i)
      ∧ (options.HasAges →
        Fair (Draw.betweenRound (-options.greatestAge) (-options.leastAge))
            (Set.Icc (-options.greatestAge) (-options.leastAge))
            (2 ^ (63 - (options.greatestAge - options.leastAge + 1).toNat.log2))
          ∧ ∀ g n y,
            FirstAnswer Draw.longWord
              (Draw.betweenRound (-options.greatestAge) (-options.leastAge))
              (names.draw (Uuid.draw g).2).2 n y →
            (∃ k, yearsDrawn names options g = .ok y k)
              ∧ ∀ shape today p k, Person.draw shape names options today g = .ok p k →
                p.name = (names.draw (Uuid.draw g).2).1
                  ∧ today.addDays? (y * 365) = some p.born) := by
  refine ⟨name_at_places names, fun hfirst => ?_, fun hlast => ?_, fun hages => ?_⟩
  · exact ⟨fairIndices names.first_pos hfirst, fun g n i h => first_of_first hfirst h⟩
  · exact ⟨fairIndices names.last_pos hlast, fun g n i h => last_of_first hlast h⟩
  · obtain ⟨hnonneg, hordered, hgreatest⟩ := hages
    have hlimit : options.greatestAge ≤ 1000 := hgreatest
    have hspan : -options.leastAge - -options.greatestAge + 1
        = options.greatestAge - options.leastAge + 1 := by omega
    have hyears := Draw.fair_betweenRound (Int.neg_le_neg hordered)
      (show -options.leastAge - -options.greatestAge + 1 < 2 ^ 64 by omega)
    rw [hspan] at hyears
    refine ⟨hyears, fun g n y hy => ?_⟩
    have hdrawn := yearsDrawn_of_first hy
    exact ⟨⟨_, hdrawn⟩, fun shape today p k hdraw => name_and_years_of_draw hdraw hdrawn⟩

/-- Three first names and one last name. -/
def bridge : NamePool :=
  ⟨#["Jean-Luc", "Beverly", "Deanna"], #["Picard"], by decide, by decide⟩

/-- The last one of three names has as many words as the first, and so have ages of 18 and of
100. From one state it is the last name that is drawn, where two words have no answer before
there is one for the other list; and from another state it is the age of 18. -/
theorem draws_are_uniform_on_bridge :
    {word | Draw.indexRound bridge.first.size word = some 2}.ncard = 2 ^ 30
      ∧ {word | Draw.indexRound bridge.first.size word = some 0}.ncard = 2 ^ 30
      ∧ (bridge.draw ⟨0, 0, 0, 0xC0000000⟩).1 = "Deanna Picard"
      ∧ {word | Draw.betweenRound (-100) (-18) word = some (-18)}.ncard = 2 ^ 57
      ∧ {word | Draw.betweenRound (-100) (-18) word = some (-100)}.ncard = 2 ^ 57
      ∧ ∃ k, yearsDrawn bridge {} ⟨1, 2, 3, 2970⟩ = .ok (-18) k := by
  obtain ⟨hname, hfirst, hlast, hages⟩ := draws_are_uniform bridge {}
  obtain ⟨⟨hfair, -⟩, hfirst⟩ := hfirst (by decide)
  obtain ⟨-, hlast⟩ := hlast (by decide)
  obtain ⟨hyears, hdrawn⟩ := hages (by decide)
  refine ⟨hfair.count 2 (by decide), hfair.count 0 (by decide), ?_,
    hyears.count (-18) ⟨by decide, by decide⟩, hyears.count (-100) ⟨by decide, by decide⟩, ?_⟩
  · have hdeanna := hfirst ⟨0, 0, 0, 0xC0000000⟩ 0 2 ⟨nofun, by decide +kernel⟩
    have hpicard := hlast ⟨0, 0, 0, 0xC0000000⟩ 2 0 ⟨by decide +kernel, by decide +kernel⟩
    obtain ⟨first, last, hfound, hfound', hcalled⟩ := hname ⟨0, 0, 0, 0xC0000000⟩
    rw [hdeanna] at hfound
    rw [hpicard] at hfound'
    cases hfound
    cases hfound'
    exact hcalled
  · exact (hdrawn ⟨1, 2, 3, 2970⟩ 0 (-18) ⟨nofun, by decide +kernel⟩).1

end Populace.People
