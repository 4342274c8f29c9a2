import Mathlib
import Populace.Proofs.Random.Rounds

/-!
# Every number gets the same number of words

The words that give a number are those whose product with the range lies in a certain
stretch, and since the stretch is as long as a power of two times the range, they are that
power of two many, one behind the other (`accepted_iff_mem_Ico`). So every number is as
likely as any other, the first and the last included, and at least every second word is
accepted.
-/

namespace Populace.Random

/-! ## Which words give a number -/

section Words

variable {bits range i word : Nat}

/-- How many words give the same number. -/
def wordsEach (bits range : Nat) : Nat :=
  2 ^ (bits - 1 - range.log2)

/-- The first word that gives `i`, if words are not limited. -/
def firstWord (bits range i : Nat) : Nat :=
  (i * 2 ^ bits + (range - 1)) / range

theorem wordsEach_pos (bits range : Nat) : 0 < wordsEach bits range :=
  Nat.two_pow_pos _

/-- The stretch is no longer than all words are, and not shorter than half of them. -/
theorem range_mul_wordsEach (hpos : 0 < range) (hrange : range < 2 ^ bits) :
    range * wordsEach bits range ≤ 2 ^ bits ∧ 2 ^ bits ≤ 2 * (range * wordsEach bits range) := by
  have hlow : 2 ^ range.log2 ≤ range := Nat.log2_self_le (by omega)
  have hhigh : range < 2 ^ (range.log2 + 1) := Nat.lt_log2_self
  have hlog : range.log2 < bits := (Nat.log2_lt (by omega)).2 hrange
  have hsplit : 2 ^ (range.log2 + 1) * wordsEach bits range = 2 ^ bits := by
    rw [wordsEach, ← Nat.pow_add]
    congr 1
    omega
  constructor
  · calc range * wordsEach bits range
        ≤ 2 ^ (range.log2 + 1) * wordsEach bits range := Nat.mul_le_mul_right _ (Nat.le_of_lt hhigh)
      _ = 2 ^ bits := hsplit
  · calc 2 ^ bits = 2 * (2 ^ range.log2 * wordsEach bits range) := by
          rw [← hsplit, Nat.pow_succ, Nat.mul_comm (2 ^ range.log2) 2, Nat.mul_assoc]
      _ ≤ 2 * (range * wordsEach bits range) :=
          Nat.mul_le_mul_left 2 (Nat.mul_le_mul_right _ hlow)

theorem accepted_eq_some_iff : accepted? bits range word = some i
    ↔ word * range / 2 ^ bits = i ∧ word * range % 2 ^ bits < range * wordsEach bits range := by
  rw [accepted?]
  constructor
  · intro h
    split at h
    · exact ⟨Option.some.inj h, ‹_›⟩
    · cases h
  · rintro ⟨rfl, h⟩
    exact if_pos h

/-- A word gives `i` if and only if its product lies in the stretch of `i`. -/
theorem accepted_iff_product (hpos : 0 < range) (hrange : range < 2 ^ bits) :
    accepted? bits range word = some i
      ↔ i * 2 ^ bits ≤ word * range
        ∧ word * range < i * 2 ^ bits + range * wordsEach bits range := by
  have hstretch := (range_mul_wordsEach hpos hrange).1
  have hwords : 0 < 2 ^ bits := Nat.two_pow_pos bits
  have hproduct := Nat.div_add_mod (word * range) (2 ^ bits)
  rw [Nat.mul_comm (2 ^ bits)] at hproduct
  rw [accepted_eq_some_iff]
  constructor
  · rintro ⟨rfl, hlow⟩
    omega
  · rintro ⟨hfrom, hto⟩
    have hi : word * range / 2 ^ bits = i := by
      refine (Nat.div_eq_iff hwords).2 ⟨hfrom, ?_⟩
      omega
    rw [hi] at hproduct
    exact ⟨hi, by omega⟩

/-- Products reach a bound from a certain word on. -/
theorem le_mul_iff_firstWord_le (hpos : 0 < range) :
    i * 2 ^ bits ≤ word * range ↔ firstWord bits range i ≤ word := by
  rw [firstWord, Nat.div_le_iff_le_mul_add_pred hpos, Nat.mul_comm range]
  omega

/-- The words that give `i` are those from the first one on, as many as each number gets. -/
theorem accepted_iff_mem_Ico (hpos : 0 < range) (hrange : range < 2 ^ bits) :
    accepted? bits range word = some i
      ↔ firstWord bits range i ≤ word ∧ word < firstWord bits range i + wordsEach bits range := by
  rw [accepted_iff_product hpos hrange, le_mul_iff_firstWord_le hpos]
  refine and_congr_right fun hfrom => ?_
  by_cases hearly : word < wordsEach bits range
  · have hto : word * range < range * wordsEach bits range := by
      rw [Nat.mul_comm]
      exact Nat.mul_lt_mul_of_pos_left hearly hpos
    constructor
    · intro _
      omega
    · intro _
      omega
  · -- so many words before, the product is smaller by as much as the stretch is long
    obtain ⟨earlier, rfl⟩ := Nat.exists_eq_add_of_le' (Nat.le_of_not_lt hearly)
    have hbefore : earlier * range < i * 2 ^ bits ↔ earlier < firstWord bits range i := by
      rw [← Nat.not_le, ← Nat.not_le, le_mul_iff_firstWord_le hpos]
    rw [Nat.add_mul, Nat.mul_comm (wordsEach bits range) range]
    omega

/-- There are words enough for every number. -/
theorem lt_of_accepted (hpos : 0 < range) (hrange : range < 2 ^ bits) (hi : i < range)
    (h : accepted? bits range word = some i) : word < 2 ^ bits := by
  have hto := ((accepted_iff_product hpos hrange).1 h).2
  have hstretch := (range_mul_wordsEach hpos hrange).1
  have hproduct : word * range < 2 ^ bits * range := by
    calc word * range < i * 2 ^ bits + 2 ^ bits := by omega
      _ = 2 ^ bits * (i + 1) := by rw [Nat.mul_add, Nat.mul_comm, Nat.mul_one]
      _ ≤ 2 ^ bits * range := Nat.mul_le_mul_left _ hi
  exact Nat.lt_of_mul_lt_mul_right hproduct

end Words

/-! ## How many words a round takes for each answer -/

/-- Each of these values is the answer to equally many words, and to some; nothing else is
an answer. -/
structure Fair {α ω : Type} (round : ω → Option α) (values : Set α) (each : Nat) : Prop where
  each_pos : 0 < each
  count : ∀ a ∈ values, {word | round word = some a}.ncard = each
  only : ∀ word a, round word = some a → a ∈ values

section Rounds

variable {α β ω : Type} {round : ω → Option α} {each : Nat}

/-- All words with an answer. -/
theorem Fair.ncard_answered [Fintype ω] {values : Finset α} (h : Fair round values each) :
    {word | round word ≠ none}.ncard = values.card * each := by
  classical
  have hunion : {word | round word ≠ none}
      = ((values.biUnion fun a => Finset.univ.filter fun word => round word = some a) : Set ω) := by
    ext word
    rw [Set.mem_ofPred_eq, Option.ne_none_iff_exists', Finset.mem_coe, Finset.mem_biUnion]
    constructor
    · rintro ⟨a, ha⟩
      exact ⟨a, h.only word a ha, by simpa using ha⟩
    · rintro ⟨a, -, ha⟩
      exact ⟨a, by simpa using ha⟩
  have hdisjoint : (values : Set α).PairwiseDisjoint
      fun a => Finset.univ.filter fun word => round word = some a := by
    intro a _ b _ hne
    rw [Function.onFun, Finset.disjoint_left]
    intro word ha hb
    rw [Finset.mem_filter] at ha hb
    exact hne (Option.some.inj (ha.2.symm.trans hb.2))
  have hcount : ∀ a ∈ values, (Finset.univ.filter fun word => round word = some a).card = each := by
    intro a ha
    rw [← h.count a ha, ← Set.ncard_coe_finset, Finset.coe_filter]
    simp
  rw [hunion, Set.ncard_coe_finset, Finset.card_biUnion hdisjoint, Finset.sum_congr rfl hcount,
    Finset.sum_const, smul_eq_mul]

/-- Answers that are renamed one by one are as fair as before. -/
theorem Fair.map {values : Set α} (h : Fair round values each) {f : α → β}
    (hf : Function.Injective f) : Fair (fun word => (round word).map f) (f '' values) each where
  each_pos := h.each_pos
  count := by
    rintro _ ⟨a, ha, rfl⟩
    have hsame : {word | (round word).map f = some (f a)} = {word | round word = some a} := by
      ext word
      rw [Set.mem_ofPred_eq, Set.mem_ofPred_eq, Option.map_eq_some_iff]
      constructor
      · rintro ⟨b, hb, hfb⟩
        rw [hb, hf hfb]
      · exact fun ha => ⟨a, ha, rfl⟩
    rw [hsame]
    exact h.count a ha
  only word b hb := by
    obtain ⟨a, ha, rfl⟩ := Option.map_eq_some_iff.1 hb
    exact ⟨a, h.only word a ha, rfl⟩

/-- Words of so many bits: every number that has no more of them is one word's. -/
structure HasBits (toNat : ω → Nat) (bits : Nat) : Prop where
  injective : Function.Injective toNat
  lt_iff : ∀ n, n < 2 ^ bits ↔ ∃ word, toNat word = n

theorem hasBits_word : HasBits UInt32.toNat 32 where
  injective _ _ := UInt32.toNat_inj.1
  lt_iff n := ⟨fun h => ⟨UInt32.ofNat n, UInt32.toNat_ofNat_of_lt' h⟩,
    fun ⟨word, h⟩ => h ▸ word.toNat_lt⟩

theorem hasBits_longWord : HasBits UInt64.toNat 64 where
  injective _ _ := UInt64.toNat_inj.1
  lt_iff n := ⟨fun h => ⟨UInt64.ofNat n, UInt64.toNat_ofNat_of_lt' h⟩,
    fun ⟨word, h⟩ => h ▸ word.toNat_lt⟩

/-- A round is fair to all numbers below the range. -/
theorem fair_accepted {toNat : ω → Nat} {bits range : Nat} (hbits : HasBits toNat bits)
    (hpos : 0 < range) (hrange : range < 2 ^ bits) :
    Fair (fun word => accepted? bits range (toNat word)) {i | i < range} (wordsEach bits range) where
  each_pos := wordsEach_pos bits range
  count i hi := by
    have himage : toNat '' {word | accepted? bits range (toNat word) = some i}
        = Finset.Ico (firstWord bits range i)
          (firstWord bits range i + wordsEach bits range) := by
      ext n
      rw [Set.mem_image, Finset.mem_coe, Finset.mem_Ico, ← accepted_iff_mem_Ico hpos hrange]
      constructor
      · rintro ⟨word, hword, rfl⟩
        exact hword
      · intro hn
        obtain ⟨word, rfl⟩ := (hbits.lt_iff n).1 (lt_of_accepted hpos hrange hi hn)
        exact ⟨word, hn, rfl⟩
    rw [← Set.ncard_image_of_injective _ hbits.injective, himage, Set.ncard_coe_finset,
      Nat.card_Ico]
    omega
  only word i h := accepted_lt hpos ((hbits.lt_iff _).2 ⟨word, rfl⟩) h

end Rounds

/-! ## The two draws -/

namespace Draw

variable {size : Nat} {low high : Int}

theorem fair_indexRound (hpos : 0 < size) (hsize : size < 2 ^ 32) :
    Fair (indexRound size) {i | i < size} (wordsEach 32 size) :=
  fair_accepted hasBits_word hpos hsize

/-- At least every second word gives an index. -/
theorem half_answered (hpos : 0 < size) (hsize : size < 2 ^ 32) :
    2 ^ 32 ≤ 2 * {word | indexRound size word ≠ none}.ncard := by
  have hfair : Fair (indexRound size) (Finset.range size) (wordsEach 32 size) := by
    rw [Finset.coe_range]
    exact fair_indexRound hpos hsize
  rw [hfair.ncard_answered, Finset.card_range]
  exact (range_mul_wordsEach hpos hsize).2

theorem fair_betweenRound (h : low ≤ high) (hrange : high - low + 1 < 2 ^ 64) :
    Fair (betweenRound low high) (Set.Icc low high) (wordsEach 64 (high - low + 1).toNat) := by
  have hvalues : (fun n : Nat => low + n) '' {i | i < (high - low + 1).toNat}
      = Set.Icc low high := by
    ext y
    rw [Set.mem_image, Set.mem_Icc]
    constructor
    · rintro ⟨i, hi, rfl⟩
      rw [Set.mem_ofPred_eq] at hi
      omega
    · rintro ⟨hlow, hhigh⟩
      refine ⟨(y - low).toNat, ?_, ?_⟩
      · rw [Set.mem_ofPred_eq]
        omega
      · omega
  have hfair := fair_accepted hasBits_longWord (show 0 < (high - low + 1).toNat by omega)
    (by omega)
  rw [← hvalues]
  exact hfair.map fun m n hmn => by omega

end Draw

end Populace.Random
