import Populace.People.Uuid
import Populace.Proofs.Random.Rounds

/-!
# What is random in an identifier

Six bits of a random identifier say that it is one (`Marked`): its version is four, its
variant the common one. All other bits are the generator's: the bytes of the identifier,
the first one in front, are the low bytes of sixteen words (`isRandom_draw`).
-/

namespace Populace.People.Uuid

open Populace.Random

/-- The places, from the last bit on, of the bits that do not depend on the generator. -/
def Marked (place : Nat) : Prop :=
  (62 ≤ place ∧ place < 64) ∨ (76 ≤ place ∧ place < 80)

instance (place : Nat) : Decidable (Marked place) :=
  inferInstanceAs (Decidable (_ ∨ _))

/-- The place of a bit in one of the sixteen bytes; both bits and bytes have numbers from
zero on, the lowest bit and the first byte being zero. -/
def place (byte bit : Nat) : Nat :=
  8 * (15 - byte) + bit

/-- A random identifier from this generator. -/
structure IsRandom (id : Uuid) (g : Xorshift) : Prop where
  version : id.bits.extractLsb' 76 4 = 4#4
  variant : id.bits.extractLsb' 62 2 = 2#2
  others : ∀ byte < 16, ∀ bit < 8, ¬ Marked (place byte bit) →
    id.bits.getLsbD (place byte bit) = (Draw.word.nth byte g).toNat.testBit bit

/-! ## The marks -/

theorem getLsbD_markMask {i : Nat} (h : i < 128) : markMask.getLsbD i = decide (Marked i) := by
  have hall : ∀ i : Fin 128, markMask.getLsbD i = decide (Marked i) := by decide +kernel
  exact hall ⟨i, h⟩

theorem getLsbD_randomMark {i : Nat} (h : i < 128) :
    randomMark.getLsbD i = decide (i = 63 ∨ i = 78) := by
  have hall : ∀ i : Fin 128, randomMark.getLsbD i = decide ((i : Nat) = 63 ∨ (i : Nat) = 78) := by
    decide +kernel
  exact hall ⟨i, h⟩

theorem getLsbD_ofRandom {i : Nat} (h : i < 128) (raw : BitVec 128) :
    (ofRandom raw).bits.getLsbD i
      = if Marked i then decide (i = 63 ∨ i = 78) else raw.getLsbD i := by
  rw [ofRandom, BitVec.getLsbD_or, BitVec.getLsbD_and, BitVec.getLsbD_not, getLsbD_markMask h,
    getLsbD_randomMark h]
  by_cases hmarked : Marked i
  · simp [hmarked]
  · have hfree : ¬ (i = 63 ∨ i = 78) := by
      rintro (rfl | rfl) <;> exact hmarked (by decide)
    rw [if_neg hmarked, decide_eq_false hmarked, decide_eq_false hfree]
    simp [h]

theorem version_ofRandom (raw : BitVec 128) : (ofRandom raw).bits.extractLsb' 76 4 = 4#4 := by
  refine BitVec.eq_of_getLsbD_eq fun i hi => ?_
  rw [BitVec.getLsbD_extractLsb', getLsbD_ofRandom (by omega), if_pos (.inr ⟨by omega, by omega⟩)]
  revert i
  decide

theorem variant_ofRandom (raw : BitVec 128) : (ofRandom raw).bits.extractLsb' 62 2 = 2#2 := by
  refine BitVec.eq_of_getLsbD_eq fun i hi => ?_
  rw [BitVec.getLsbD_extractLsb', getLsbD_ofRandom (by omega), if_pos (.inl ⟨by omega, by omega⟩)]
  revert i
  decide

/-! ## The bytes -/

theorem drawBytes_succ (front : BitVec 128) (n : Nat) (g : Xorshift) :
    drawBytes front (n + 1) g
      = drawBytes ((front <<< 8) ||| BitVec.ofNat 128 ((Draw.word g).1.toNat % 256)) n
        (Draw.word g).2 := rfl

/-- A byte is put behind the bits there are. -/
theorem getLsbD_behind {i : Nat} (h : i < 128) (front : BitVec 128) (word : Nat) :
    ((front <<< 8) ||| BitVec.ofNat 128 (word % 256)).getLsbD i
      = if i < 8 then word.testBit i else front.getLsbD (i - 8) := by
  rw [BitVec.getLsbD_or, BitVec.getLsbD_shiftLeft, BitVec.getLsbD_ofNat,
    show (256 : Nat) = 2 ^ 8 from rfl, Nat.testBit_mod_two_pow]
  by_cases hlow : i < 8
  · simp [hlow, h]
  · simp [hlow, h]

/-- Bytes behind those there are: the first one drawn is the farthest from the end. -/
theorem getLsbD_drawBytes (n : Nat) (front : BitVec 128) (g : Xorshift) {i : Nat} (h : i < 128) :
    (drawBytes front n g).1.getLsbD i
      = if i < 8 * n then (Draw.word.nth (n - 1 - i / 8) g).toNat.testBit (i % 8)
        else front.getLsbD (i - 8 * n) := by
  induction n generalizing front g with
  | zero => rfl
  | succ n ih =>
      rw [drawBytes_succ, ih]
      by_cases hdeep : i < 8 * n
      · have hbyte : n + 1 - 1 - i / 8 = n - 1 - i / 8 + 1 := by omega
        rw [if_pos hdeep, if_pos (show i < 8 * (n + 1) by omega), hbyte, Draw.nth_succ]
      · rw [if_neg hdeep, getLsbD_behind (by omega)]
        by_cases hbyte : i < 8 * (n + 1)
        · have hfirst : n + 1 - 1 - i / 8 = 0 := by omega
          have hbit : i - 8 * n = i % 8 := by omega
          rw [if_pos (show i - 8 * n < 8 by omega), if_pos hbyte, hfirst, hbit]
          rfl
        · rw [if_neg (show ¬ i - 8 * n < 8 by omega), if_neg hbyte,
            show i - 8 * n - 8 = i - 8 * (n + 1) by omega]

theorem draw_eq (g : Xorshift) : (draw g).1 = ofRandom (drawBytes 0 16 g).1 := by
  obtain ⟨raw, k, hraw⟩ : ∃ raw k, drawBytes 0 16 g = (raw, k) := ⟨_, _, (Prod.eta _).symm⟩
  rw [draw, Draw.bind_of_eq hraw, hraw]
  rfl

/-- An identifier that is drawn is a random one from the generator. -/
theorem isRandom_draw (g : Xorshift) : (draw g).1.IsRandom g := by
  rw [draw_eq]
  refine ⟨version_ofRandom _, variant_ofRandom _, fun byte hbyte bit hbit hfree => ?_⟩
  have hplace : place byte bit < 8 * 16 := by
    rw [place]
    omega
  have hnth : 16 - 1 - place byte bit / 8 = byte ∧ place byte bit % 8 = bit := by
    rw [place]
    omega
  rw [getLsbD_ofRandom hplace, if_neg hfree, getLsbD_drawBytes 16 0 g hplace, if_pos hplace,
    hnth.1, hnth.2]

example : ((List.range 128).filter fun i => ¬ Marked i).length = 122 := by decide +kernel

end Populace.People.Uuid
