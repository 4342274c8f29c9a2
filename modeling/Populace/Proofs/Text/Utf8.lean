import Populace.Text.Utf8

/-!
# Plain text as bytes

The bytes of a text are those of its characters one behind the other. A plain character,
one below 128, is a single byte, and a text of plain characters is read back from its
bytes.
-/

namespace Populace.Text

/-- A character below 128. -/
def IsPlain (c : Char) : Prop := c.val ≤ 127

instance (c : Char) : Decidable (IsPlain c) :=
  inferInstanceAs (Decidable (c.val ≤ 127))

/-- The byte of a plain character. -/
def plainByte (c : Char) : UInt8 := c.val.toUInt8

theorem bytesOf_eq_flatMap (text : String) :
    bytesOf text = text.toList.flatMap String.utf8EncodeChar := by
  rw [bytesOf, String.toUTF8_eq_toByteArray, ← String.utf8Encode_toList, List.utf8Encode]
  simp

/-- Plain characters are their bytes. -/
theorem bytesOf_of_plain {text : String} (h : ∀ c ∈ text.toList, IsPlain c) :
    bytesOf text = text.toList.map plainByte := by
  rw [bytesOf_eq_flatMap]
  generalize text.toList = cs at h
  induction cs with
  | nil => rfl
  | cons c cs ih =>
      have hc : String.utf8EncodeChar c = [plainByte c] :=
        String.utf8EncodeChar_eq_singleton (Char.utf8Size_eq_one_iff.2 (h c (by simp)))
      rw [List.flatMap_cons, hc, ih fun c hmem => h c (by simp [hmem])]
      rfl

theorem toNat_plainByte {c : Char} (h : IsPlain c) : (plainByte c).toNat = c.toNat := by
  have hle : c.toNat ≤ 127 := UInt32.le_iff_toNat_le.1 h
  show c.val.toNat % 2 ^ 8 = c.toNat
  exact Nat.mod_eq_of_lt (by show c.toNat < 2 ^ 8; omega)

theorem plainByte_lt {c : Char} (h : IsPlain c) : plainByte c < 0x80 := by
  have hle : c.toNat ≤ 127 := UInt32.le_iff_toNat_le.1 h
  rw [UInt8.lt_iff_toNat_lt, toNat_plainByte h]
  show c.toNat < 128
  omega

/-- A plain byte is read as its character, and nothing behind it belongs to it. -/
theorem readChar_plainByte {c : Char} (h : IsPlain c) (rest : List UInt8) :
    readChar (plainByte c) rest = (some c, 0) := by
  rw [readChar, if_pos (plainByte_lt h), toNat_plainByte h, Char.ofNat_toNat]

/-- Plain text is read back from its bytes. -/
theorem lossy_bytesOf {text : String} (h : ∀ c ∈ text.toList, IsPlain c) :
    lossy (bytesOf text) = text := by
  have hchars : ∀ cs : List Char, (∀ c ∈ cs, IsPlain c) → charsOf 0 (cs.map plainByte) = cs := by
    intro cs hcs
    induction cs with
    | nil => rfl
    | cons c cs ih =>
        rw [List.map_cons, charsOf, readChar_plainByte (hcs c (by simp))]
        simp only [Option.getD_some]
        rw [ih fun c hmem => hcs c (by simp [hmem])]
  rw [lossy, bytesOf_of_plain h, hchars _ h, String.ofList_toList]

end Populace.Text
