import Populace.Proofs.Sources.RankFile
import Populace.Text.Grouped

/-!
# Digits in groups

The digits of a number are its decimal text, with no zero in front (`isDecimal_digits`).
Commas cut them into groups of three, but for the first group, which has what is left
(`grouped_in_threes`). Since commas do not count for the reader of rank files, the reader
gives back every number that fits (`grouped_read_back`).
-/

namespace Populace.Text

open Populace.Decimal (digitsValue withDigit Writes)

/-! ## The decimal text -/

/-- The characters are the decimal text of `n`: its digits, and a zero in front only if it
is the whole text. -/
structure IsDecimal (cs : List Char) (n : Nat) : Prop where
  ne_nil : cs ≠ []
  digits : ∀ c ∈ cs, c.isDigit = true
  value : digitsValue cs = n
  no_zero_in_front : ∀ rest, cs = '0' :: rest → rest = []

theorem isDigit_digitChar {d : Nat} (h : d < 10) : d.digitChar.isDigit = true := by
  revert h d
  decide

theorem withDigit_digitChar (m : Nat) {d : Nat} (h : d < 10) :
    withDigit m d.digitChar = m * 10 + d := by
  have hd : Decimal.digit? d.digitChar = some d := by
    revert h d
    decide
  rw [withDigit, hd, Option.getD_some]

theorem isDecimal_digitChar {d : Nat} (h : d < 10) : IsDecimal [d.digitChar] d where
  ne_nil := List.cons_ne_nil _ _
  digits := by simpa using isDigit_digitChar h
  value := by
    rw [Decimal.digitsValue_eq, List.foldl_cons, List.foldl_nil, withDigit_digitChar 0 h]
    omega
  no_zero_in_front := by
    intro rest hrest
    exact (List.cons.inj hrest).2.symm

/-- One more digit behind the text of a number that is not zero. -/
theorem IsDecimal.concat {cs : List Char} {n d : Nat} (h : IsDecimal cs n) (hn : 0 < n)
    (hd : d < 10) : IsDecimal (cs ++ [d.digitChar]) (10 * n + d) where
  ne_nil := by simp
  digits := by
    intro c hc
    rcases List.mem_append.1 hc with hc | hc
    · exact h.digits c hc
    · rw [List.mem_singleton.1 hc]
      exact isDigit_digitChar hd
  value := by
    have hvalue := h.value
    rw [Decimal.digitsValue_eq] at hvalue ⊢
    rw [List.foldl_append, hvalue, List.foldl_cons, List.foldl_nil, withDigit_digitChar n hd]
    omega
  no_zero_in_front := by
    intro rest hrest
    obtain ⟨c, more, rfl⟩ := List.exists_cons_of_ne_nil h.ne_nil
    obtain ⟨rfl, -⟩ := List.cons.inj hrest
    -- the text in front would be a zero and nothing else, but its number is not zero
    obtain rfl := h.no_zero_in_front more rfl
    have hvalue : (0 : Nat) = n := h.value
    omega

theorem isDecimal_digits (n : Nat) : IsDecimal (digits n) n := by
  rw [digits]
  induction n using Nat.base_induction 10 (by decide) with
  | single m hm =>
      rw [Nat.toDigits_of_lt_base hm]
      exact isDecimal_digitChar hm
  | digit m k hk hm ih =>
      rw [← Nat.toDigits_append_toDigits (by decide) hm hk, Nat.toDigits_of_lt_base hk]
      exact ih.concat hm hk

/-! ## Groups of three -/

/-- A group of one to three, and groups of exactly three behind it. -/
def InThrees : List (List Char) → Prop
  | [] => False
  | first :: rest =>
    (1 ≤ first.length ∧ first.length ≤ 3) ∧ ∀ group ∈ rest, group.length = 3

theorem InThrees.ne_nil {groups : List (List Char)} (h : InThrees groups) : groups ≠ [] := by
  rintro rfl
  exact h

theorem InThrees.concat {groups : List (List Char)} {group : List Char} (h : InThrees groups)
    (hgroup : group.length = 3) : InThrees (groups ++ [group]) := by
  cases groups with
  | nil => exact h.elim
  | cons first rest =>
      refine ⟨h.1, fun g hg => ?_⟩
      rcases List.mem_append.1 hg with hg | hg
      · exact h.2 g hg
      · rw [List.mem_singleton.1 hg, hgroup]

theorem intercalate_concat {groups : List (List Char)} (h : groups ≠ []) (group : List Char) :
    [','].intercalate (groups ++ [group]) = [','].intercalate groups ++ ',' :: group := by
  induction groups with
  | nil => exact absurd rfl h
  | cons first rest ih =>
      cases rest with
      | nil => simp
      | cons next rest =>
          have hrest := ih (List.cons_ne_nil _ _)
          rw [List.cons_append, List.cons_append, List.intercalate_cons_cons,
            List.intercalate_cons_cons, ← List.cons_append, hrest]
          simp

/-- Commas counted from the last digit cut off threes behind what is left in front. -/
theorem reverse_commaEveryThree (ds : List Char) (h : ds ≠ []) :
    ∃ groups, InThrees groups ∧ groups.flatten = ds.reverse
      ∧ (commaEveryThree ds).reverse = [','].intercalate groups := by
  fun_induction commaEveryThree ds with
  | case1 a b c d rest ih =>
      obtain ⟨groups, hthrees, hflatten, hcommas⟩ := ih (List.cons_ne_nil _ _)
      refine ⟨groups ++ [[c, b, a]], hthrees.concat rfl, ?_, ?_⟩
      · rw [List.flatten_append, hflatten]
        simp
      · rw [intercalate_concat hthrees.ne_nil, ← hcommas]
        simp
  | case2 short hshort =>
      refine ⟨[short.reverse], ⟨⟨?_, ?_⟩, by simp⟩, by simp, by simp⟩
      · rw [List.length_reverse]
        exact List.length_pos_iff.2 h
      · rw [List.length_reverse]
        rcases short with _ | ⟨a, _ | ⟨b, _ | ⟨c, _ | ⟨d, rest⟩⟩⟩⟩
        · simp
        · simp
        · simp
        · simp
        · exact (hshort a b c d rest rfl).elim

theorem grouped_in_threes (n : Nat) :
    ∃ groups, InThrees groups ∧ groups.flatten = digits n
      ∧ (grouped n).toList = [','].intercalate groups := by
  have hne : (digits n).reverse ≠ [] := by
    rw [ne_eq, List.reverse_eq_nil_iff]
    exact (isDecimal_digits n).ne_nil
  obtain ⟨groups, hthrees, hflatten, hcommas⟩ := reverse_commaEveryThree _ hne
  rw [List.reverse_reverse] at hflatten
  exact ⟨groups, hthrees, hflatten, by rw [grouped, String.toList_ofList, hcommas]⟩

/-! ## Reading it back -/

/-- Without the commas the digits are left. -/
theorem withoutCommas_grouped (n : Nat) : Sources.withoutCommas (grouped n) = digits n := by
  have hplain : ∀ c ∈ (digits n).reverse, c ≠ ',' := by
    rintro c hc rfl
    have hdigit := (isDecimal_digits n).digits _ (List.mem_reverse.1 hc)
    exact absurd hdigit (by decide)
  rw [Sources.withoutCommas, grouped, String.toList_ofList, List.filter_reverse,
    filter_commaEveryThree _ hplain, List.reverse_reverse]

theorem writes_digits (n : Nat) : Writes (digits n) n :=
  have h := isDecimal_digits n
  ⟨digits n, .inl rfl, h.ne_nil, h.digits, h.value⟩

/-- A number of 64 bits is printed as its decimal text with no zeros in front, which single
commas cut into a group of one to three digits and groups of three behind it; and the
reader of rank files gives the number back. -/
theorem grouped_read_back (n : UInt64) :
    (∃ groups, InThrees groups ∧ IsDecimal groups.flatten n.toNat
      ∧ (grouped n.toNat).toList = [','].intercalate groups)
    ∧ Sources.readNumber (grouped n.toNat) = .ok n := by
  obtain ⟨groups, hthrees, hflatten, hcommas⟩ := grouped_in_threes n.toNat
  refine ⟨⟨groups, hthrees, ?_, hcommas⟩, ?_⟩
  · rw [hflatten]
    exact isDecimal_digits n.toNat
  · rw [Sources.readNumber_eq_ok_iff, withoutCommas_grouped]
    exact writes_digits n.toNat

example : grouped 10000000 = "10,000,000" := by decide +kernel

end Populace.Text
