import Populace.Text.Utf8
import Populace.Text.Visible

/-!
Text and bytes between quotes, for messages that must show exactly what was there:
what does not show as itself is written as an escape.
-/

namespace Populace.Text

/-- A number in lowercase hexadecimal. -/
def hex (n : Nat) : List Char :=
  Nat.toDigits 16 n

/-- The escape of a character between quotes, of a single quote only when `single`. -/
def escapedChar (single : Bool) (c : Char) : List Char :=
  if c = '\x00' then ['\\', '0']
  else if c = '\t' then ['\\', 't']
  else if c = '\r' then ['\\', 'r']
  else if c = '\n' then ['\\', 'n']
  else if c = '"' ∨ c = '\\' ∨ (c = '\'' ∧ single) then ['\\', c]
  else if isVisible c then [c]
  else ['\\', 'u', '\x7b'] ++ hex c.toNat ++ ['\x7d']

/-- A text between double quotes. -/
def quoted (text : String) : String :=
  String.ofList ('"' :: text.toList.flatMap (escapedChar false) ++ ['"'])

/-- A byte as two hexadecimal digits. -/
def escapedByte (b : UInt8) : List Char :=
  ['\\', 'x'] ++ (if b < 16 then ['0'] else []) ++ hex b.toNat

/-- Is it one of the control characters that are written as bytes in a row? -/
def isByteControl (c : Char) : Bool :=
  let n := c.toNat
  (0x01 ≤ n && n ≤ 0x08) || n == 0x0B || n == 0x0C || (0x0E ≤ n && n ≤ 0x19) || n == 0x7F

/-- The escapes of some bytes, after leaving out the first `skip` of them: characters
where they are text, single bytes where they are not. -/
def escapedBytes : Nat → List UInt8 → List Char
  | _, [] => []
  | skip + 1, _ :: bs => escapedBytes skip bs
  | 0, b :: bs =>
    match readChar b bs with
    | (some c, n) =>
      (if isByteControl c then escapedByte b else escapedChar true c) ++ escapedBytes n bs
    | (none, _) => escapedByte b ++ escapedBytes 0 bs

/-- Bytes between double quotes. -/
def quotedBytes (bytes : List UInt8) : String :=
  String.ofList ('"' :: escapedBytes 0 bytes ++ ['"'])

end Populace.Text
