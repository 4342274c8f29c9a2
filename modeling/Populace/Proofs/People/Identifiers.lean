import Populace.People.Uuid
import Populace.Proofs.Text.Utf8

/-!
# The text of an identifier

An identifier is written with 32 lowercase hexadecimal digits and hyphens between them, so
its text has no character that means anything in a table: no comma, no quote, no line
end, no blank.
-/

namespace Populace.People.Uuid

open Populace.Text

/-- The digits an identifier is written with. -/
def lowercase : List Char :=
  ['0', '1', '2', '3', '4', '5', '6', '7', '8', '9', 'a', 'b', 'c', 'd', 'e', 'f']

/-- Groups of 8, 4, 4, 4 and 12 digits with hyphens between them. -/
def IsHyphenated (text : String) : Prop :=
  ∃ groups : List (List Char), groups.map List.length = [8, 4, 4, 4, 12]
    ∧ (∀ group ∈ groups, ∀ c ∈ group, c ∈ lowercase)
    ∧ text = String.ofList (['-'].intercalate groups)

theorem digitChar_mem_lowercase {d : Nat} (h : d < 16) : Nat.digitChar d ∈ lowercase := by
  revert h d
  decide

theorem mem_lowercase_of_toDigits {n : Nat} {c : Char} (h : c ∈ Nat.toDigits 16 n) :
    c ∈ lowercase := by
  -- the last digit is below the base, and those in front are digits of a smaller number
  induction n using Nat.strongRecOn with
  | ind n ih =>
      rw [Nat.toDigits_eq_if (by decide)] at h
      by_cases hn : n < 16
      · rw [if_pos hn, List.mem_singleton] at h
        rw [h]
        exact digitChar_mem_lowercase hn
      · rw [if_neg hn, List.mem_append, List.mem_singleton] at h
        rcases h with h | h
        · exact ih (n / 16) (by omega) h
        · rw [h]
          exact digitChar_mem_lowercase (Nat.mod_lt n (by decide))

theorem mem_lowercase_of_hexDigits {u : Uuid} {c : Char} (h : c ∈ u.hexDigits) :
    c ∈ lowercase := by
  rw [hexDigits, List.mem_append] at h
  rcases h with h | h
  · rw [List.eq_of_mem_replicate h]
    decide
  · exact mem_lowercase_of_toDigits h

theorem length_hexDigits (u : Uuid) : u.hexDigits.length = 32 := by
  have hle : (Nat.toDigits 16 u.bits.toNat).length ≤ 32 :=
    (Nat.length_toDigits_le_iff (by decide) (by decide)).2 u.bits.isLt
  rw [hexDigits, List.length_append, zeros, List.length_replicate]
  omega

theorem isHyphenated_text (u : Uuid) : IsHyphenated u.text := by
  have hlength : u.hexDigits.length = 32 := length_hexDigits u
  refine ⟨[u.hexDigits.take 8, (u.hexDigits.drop 8).take 4, (u.hexDigits.drop 12).take 4,
    (u.hexDigits.drop 16).take 4, u.hexDigits.drop 20], ?_, ?_, ?_⟩
  · simp [hlength]
  · intro group hgroup c hc
    apply mem_lowercase_of_hexDigits (u := u)
    simp only [List.mem_cons, List.not_mem_nil, or_false] at hgroup
    rcases hgroup with rfl | rfl | rfl | rfl | rfl
    · exact List.mem_of_mem_take hc
    · exact List.mem_of_mem_drop (List.mem_of_mem_take hc)
    · exact List.mem_of_mem_drop (List.mem_of_mem_take hc)
    · exact List.mem_of_mem_drop (List.mem_of_mem_take hc)
    · exact List.mem_of_mem_drop hc
  · rw [text]
    simp [List.intercalate]

/-- The characters of groups with hyphens between them. -/
theorem mem_of_mem_intercalate {groups : List (List Char)} {c : Char}
    (h : c ∈ ['-'].intercalate groups) : c = '-' ∨ ∃ group ∈ groups, c ∈ group := by
  induction groups with
  | nil => simp at h
  | cons group rest ih =>
      cases rest with
      | nil =>
          rw [List.intercalate_singleton] at h
          exact .inr ⟨group, by simp, h⟩
      | cons next rest =>
          simp only [List.intercalate_cons_cons, List.mem_append, List.mem_singleton] at h
          rcases h with (h | h) | h
          · exact .inr ⟨group, by simp, h⟩
          · exact .inl h
          · rcases ih h with hc | ⟨g, hg, hc⟩
            · exact .inl hc
            · exact .inr ⟨g, List.mem_cons_of_mem _ hg, hc⟩

theorem mem_of_isHyphenated {text : String} (h : IsHyphenated text) {c : Char}
    (hc : c ∈ text.toList) : c ∈ '-' :: lowercase := by
  obtain ⟨groups, -, hdigits, rfl⟩ := h
  rw [String.toList_ofList] at hc
  rcases mem_of_mem_intercalate hc with rfl | ⟨group, hgroup, hmem⟩
  · exact List.mem_cons_self
  · exact List.mem_cons_of_mem _ (hdigits group hgroup c hmem)

theorem ne_empty_of_isHyphenated {text : String} (h : IsHyphenated text) : text ≠ "" := by
  obtain ⟨groups, hlengths, -, rfl⟩ := h
  rintro hempty
  rcases groups with - | ⟨group, - | ⟨next, rest⟩⟩
  · simp at hlengths
  · simp at hlengths
  · simp [List.intercalate_cons_cons] at hempty

end Populace.People.Uuid
