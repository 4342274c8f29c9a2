import Populace.Decimal.Reader

/-!
# Whole numbers and how they are written

A whole number is read if and only if it is written by digits, with a plus sign in front
or not, and fits (`readWhole_eq_ok_iff`). The reader gives up at the first digit that
makes the number too large; since the number never shrinks, it loses none that fits.
-/

namespace Populace.Decimal

/-- The characters write the number `n`: one digit or more, behind a plus sign or not. -/
def Writes (cs : List Char) (n : Nat) : Prop :=
  ∃ ds, (cs = ds ∨ cs = '+' :: ds) ∧ ds ≠ [] ∧ (∀ c ∈ ds, c.isDigit = true) ∧ digitsValue ds = n

/-- The number behind one more digit. -/
def withDigit (n : Nat) (c : Char) : Nat :=
  n * 10 + (digit? c).getD 0

theorem digitsValue_eq (cs : List Char) : digitsValue cs = cs.foldl withDigit 0 := rfl

theorem digit?_eq_none_iff {c : Char} : digit? c = none ↔ c.isDigit = false := by
  have h : c.isDigit = decide ('0' ≤ c ∧ c ≤ '9') := by
    simp only [Char.isDigit, Char.le_def, Bool.decide_and]
  rw [digit?, h]
  split <;> simp [*]

theorem le_foldl_withDigit (n : Nat) (cs : List Char) : n ≤ cs.foldl withDigit n := by
  induction cs generalizing n with
  | nil => exact Nat.le_refl n
  | cons c cs ih =>
      have hstep : n ≤ withDigit n c := by
        rw [withDigit]
        omega
      exact Nat.le_trans hstep (ih _)

/-- Digits are read behind a number if they are digits and what they make of it fits. -/
theorem wholeFrom_eq_ok_iff {acc n : Nat} {cs : List Char} (hacc : acc < UInt64.size) :
    wholeFrom acc cs = .ok n
      ↔ (∀ c ∈ cs, c.isDigit = true) ∧ cs.foldl withDigit acc = n ∧ n < UInt64.size := by
  induction cs generalizing acc with
  | nil =>
      simp only [wholeFrom, Except.ok.injEq, List.foldl_nil]
      constructor
      · rintro rfl
        exact ⟨by simp, rfl, hacc⟩
      · rintro ⟨-, rfl, -⟩
        rfl
  | cons c cs ih =>
      rw [wholeFrom, List.foldl_cons]
      cases hd : digit? c with
      | none =>
          have hc : c.isDigit = false := digit?_eq_none_iff.1 hd
          simp [hc]
      | some d =>
          have hc : c.isDigit = true := by
            cases h : c.isDigit with
            | true => rfl
            | false =>
                rw [digit?_eq_none_iff.2 h] at hd
                cases hd
          have hvalue : withDigit acc c = acc * 10 + d := by rw [withDigit, hd, Option.getD_some]
          rw [hvalue]
          dsimp only
          by_cases hfits : acc * 10 + d < UInt64.size
          · rw [if_pos hfits, ih hfits]
            simp [hc]
          · rw [if_neg hfits]
            -- more digits do not make it smaller again
            have hlarge := le_foldl_withDigit (acc * 10 + d) cs
            constructor
            · intro h
              cases h
            · rintro ⟨-, rfl, hn⟩
              omega

/-- A number of 64 bits is read from its digits alone, as it is written. -/
theorem map_wholeFrom_eq_ok_iff {cs : List Char} {n : UInt64} :
    (wholeFrom 0 cs).map UInt64.ofNat = .ok n
      ↔ (∀ c ∈ cs, c.isDigit = true) ∧ digitsValue cs = n.toNat := by
  have hread : (wholeFrom 0 cs).map UInt64.ofNat = .ok n ↔ wholeFrom 0 cs = .ok n.toNat := by
    cases h : wholeFrom 0 cs with
    | error e => simp [Except.map]
    | ok m =>
        have hm : m < UInt64.size := ((wholeFrom_eq_ok_iff (by decide)).1 h).2.2
        simp only [Except.map, Except.ok.injEq]
        constructor
        · rintro rfl
          exact (UInt64.toNat_ofNat_of_lt hm).symm
        · rintro rfl
          exact UInt64.ofNat_toNat
  rw [hread, wholeFrom_eq_ok_iff (by decide), ← digitsValue_eq]
  exact ⟨fun h => ⟨h.1, h.2.1⟩, fun h => ⟨h.1, h.2, n.toNat_lt⟩⟩

/-- What is read is what is written. -/
theorem readWhole_eq_ok_iff {text : String} {n : UInt64} :
    readWhole text = .ok n ↔ Writes text.toList n.toNat := by
  have hplus : ('+').isDigit = false := by decide
  rw [readWhole]
  split
  · rename_i htext
    simp [Writes, htext]
  · rename_i htext
    constructor
    · intro h
      cases h
    · rintro ⟨ds, hds, hne, hdigits, -⟩
      rw [htext] at hds
      rcases hds with rfl | hds
      · simp [hplus] at hdigits
      · exact absurd (List.cons.inj hds).2.symm hne
  · rename_i cs hne htext
    rw [map_wholeFrom_eq_ok_iff, Writes, htext]
    constructor
    · rintro ⟨hdigits, hvalue⟩
      exact ⟨cs, .inr rfl, hne, hdigits, hvalue⟩
    · rintro ⟨ds, rfl | hds, -, hdigits, hvalue⟩
      · simp [hplus] at hdigits
      · cases hds
        exact ⟨hdigits, hvalue⟩
  · rename_i hempty hlone hnoPlus
    rw [map_wholeFrom_eq_ok_iff, Writes]
    constructor
    · rintro ⟨hdigits, hvalue⟩
      exact ⟨text.toList, .inl rfl, hempty, hdigits, hvalue⟩
    · rintro ⟨ds, hds | hds, -, hdigits, hvalue⟩
      · rw [hds]
        exact ⟨hdigits, hvalue⟩
      · exact absurd hds (hnoPlus ds)

end Populace.Decimal
