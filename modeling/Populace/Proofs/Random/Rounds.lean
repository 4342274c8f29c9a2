import Mathlib
import Populace.Proofs.Random.Bounds

/-!
# Drawing in rounds

A bounded number is drawn in rounds: each takes a fresh word, which gives a number or is
thrown away. The draw is the answer of the first word that is not thrown away, however
late that comes (`index_repeats`, `between_repeats`): the rounds that the draw allows for
are as many as a generator has states, and if all words of so many rounds are thrown away,
then so are all words behind them (`lt_stateCount_of_first`).
-/

namespace Populace.Random

/-! ## Words one after the other -/

namespace Draw

variable {α ω : Type}

/-- The generator behind so many draws. -/
def behind (draw : Draw α) : Nat → Xorshift → Xorshift
  | 0, g => g
  | n + 1, g => behind draw n (draw g).2

/-- What is drawn behind so many draws. -/
def nth (draw : Draw α) (n : Nat) (g : Xorshift) : α :=
  (draw (draw.behind n g)).1

@[simp] theorem behind_zero (draw : Draw α) (g : Xorshift) : draw.behind 0 g = g := rfl

theorem behind_succ (draw : Draw α) (n : Nat) (g : Xorshift) :
    draw.behind (n + 1) g = draw.behind n (draw g).2 := rfl

theorem behind_add (draw : Draw α) (m n : Nat) (g : Xorshift) :
    draw.behind (m + n) g = draw.behind n (draw.behind m g) := by
  induction m generalizing g with
  | zero => rw [Nat.zero_add, behind_zero]
  | succ m ih => rw [Nat.succ_add, behind_succ, behind_succ, ih]

theorem nth_succ (draw : Draw α) (n : Nat) (g : Xorshift) :
    draw.nth (n + 1) g = draw.nth n (draw g).2 := rfl

end Draw

/-! ## The first word that is accepted -/

/-- The first word with an answer is the one behind `n` others, and its answer is this. -/
structure FirstAnswer {α ω : Type} (words : Draw ω) (round : ω → Option α) (g : Xorshift)
    (n : Nat) (a : α) : Prop where
  rejected : ∀ m < n, round (words.nth m g) = none
  accepted : round (words.nth n g) = some a

/-- The draw goes on, one word a round, until a word has an answer. -/
def Repeats {α ω : Type} (draw : Draw α) (words : Draw ω) (round : ω → Option α) : Prop :=
  ∀ g n a, FirstAnswer words round g n a → draw g = (a, words.behind (n + 1) g)

/-- A generator's state as one number. -/
def Xorshift.code (g : Xorshift) : Nat :=
  g.x.toNat + 2 ^ 32 * g.y.toNat + 2 ^ 64 * g.z.toNat + 2 ^ 96 * g.w.toNat

theorem Xorshift.code_lt (g : Xorshift) : g.code < stateCount := by
  have hx := g.x.toNat_lt
  have hy := g.y.toNat_lt
  have hz := g.z.toNat_lt
  have hw := g.w.toNat_lt
  have hcount : stateCount = 2 ^ 128 := rfl
  rw [code, hcount]
  omega

theorem Xorshift.code_injective : Function.Injective Xorshift.code := by
  rintro ⟨x, y, z, w⟩ ⟨x', y', z', w'⟩ h
  have hx := x.toNat_lt
  have hy := y.toNat_lt
  have hz := z.toNat_lt
  have hx' := x'.toNat_lt
  have hy' := y'.toNat_lt
  have hz' := z'.toNat_lt
  simp only [code] at h
  simp only [mk.injEq, ← UInt32.toNat_inj]
  omega

/-- Among more draws than there are states two begin in the same state. -/
theorem exists_same_state {ω : Type} (words : Draw ω) (g : Xorshift) :
    ∃ m n, m < n ∧ n ≤ stateCount ∧ words.behind m g = words.behind n g := by
  have hmore : (Finset.range stateCount).card < (Finset.range (stateCount + 1)).card := by
    rw [Finset.card_range, Finset.card_range]
    exact Nat.lt_succ_self _
  obtain ⟨m, hm, n, hn, hne, hcode⟩ := Finset.exists_ne_map_eq_of_card_lt_of_maps_to hmore
    (f := fun n => (words.behind n g).code)
    fun n _ => Finset.mem_coe.2 (Finset.mem_range.2 (Xorshift.code_lt _))
  have hsame := Xorshift.code_injective hcode
  rw [Finset.mem_range, Nat.lt_succ_iff] at hm hn
  rcases Nat.lt_or_gt_of_ne hne with hlt | hlt
  · exact ⟨m, n, hlt, hn, hsame⟩
  · exact ⟨n, m, hlt, hm, hsame.symm⟩

section Answers

variable {α ω : Type} {words : Draw ω} {round : ω → Option α} {g : Xorshift} {n : Nat} {a : α}

/-- The first answer comes within as many rounds as there are states. -/
theorem lt_stateCount_of_first (h : FirstAnswer words round g n a) : n < stateCount := by
  refine Nat.lt_of_not_le fun hlate => ?_
  obtain ⟨k, l, hlt, hle, hsame⟩ := exists_same_state words g
  -- the answer would have come when the state was first met
  have hearlier : words.nth (k + (n - l)) g = words.nth n g := by
    have hn : n = l + (n - l) := by omega
    rw [Draw.nth, Draw.nth, Draw.behind_add, hsame, ← Draw.behind_add, ← hn]
  have hrejected := h.rejected (k + (n - l)) (by omega)
  rw [hearlier, h.accepted] at hrejected
  cases hrejected

theorem FirstAnswer.later (h : FirstAnswer words round g (n + 1) a) :
    FirstAnswer words round (words g).2 n a where
  rejected m hm := h.rejected (m + 1) (Nat.succ_lt_succ hm)
  accepted := h.accepted

/-- Within the rounds there are, the first word that is accepted decides. -/
theorem belowWithin_of_first {bits range rounds i : Nat} {toNat : ω → Nat}
    (h : FirstAnswer words (fun w => accepted? bits range (toNat w)) g n i) (hn : n < rounds) :
    Draw.belowWithin bits range (toNat <$> words) rounds g = (i, words.behind (n + 1) g) := by
  induction n generalizing g rounds with
  | zero =>
      obtain ⟨rounds, rfl⟩ := Nat.exists_eq_succ_of_ne_zero (Nat.ne_of_gt hn)
      have haccepted : accepted? bits range ((toNat <$> words) g).1 = some i := h.accepted
      rw [Draw.belowWithin_succ, haccepted]
      rfl
  | succ n ih =>
      obtain ⟨rounds, rfl⟩ := Nat.exists_eq_succ_of_ne_zero (Nat.ne_of_gt (Nat.zero_lt_of_lt hn))
      have hrejected : accepted? bits range ((toNat <$> words) g).1 = none :=
        h.rejected 0 (Nat.succ_pos n)
      rw [Draw.belowWithin_succ, hrejected]
      exact ih h.later (Nat.lt_of_succ_lt_succ hn)

end Answers

/-! ## The rounds of the two draws -/

namespace Draw

/-- What a word says about an index below `size`. -/
def indexRound (size : Nat) (word : UInt32) : Option Nat :=
  accepted? 32 size word.toNat

/-- What a long word says about a number from `low` to `high`. -/
def betweenRound (low high : Int) (word : UInt64) : Option Int :=
  (accepted? 64 (high - low + 1).toNat word.toNat).map fun n : Nat => low + n

theorem index_repeats {size : Nat} (hsize : size < 2 ^ 32) :
    Repeats (index size) word (indexRound size) := by
  intro g n i h
  rw [index, if_pos (show size < Nat.pow 2 32 from hsize)]
  exact belowWithin_of_first h (lt_stateCount_of_first h)

theorem between_repeats (low high : Int) :
    Repeats (between low high) longWord (betweenRound low high) := by
  intro g n y h
  obtain ⟨i, haccepted, rfl⟩ := Option.map_eq_some_iff.1 h.accepted
  have hfirst : FirstAnswer longWord
      (fun w => accepted? 64 (high - low + 1).toNat w.toNat) g n i :=
    ⟨fun m hm => Option.map_eq_none_iff.1 (h.rejected m hm), haccepted⟩
  rw [between, bind_of_eq (belowWithin_of_first hfirst (lt_stateCount_of_first h))]
  rfl

end Draw

end Populace.Random
