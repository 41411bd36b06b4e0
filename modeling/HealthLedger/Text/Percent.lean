import HealthLedger.Text.Utf8

/-!
# Percent encoding

In an address a character that may not stand for itself is written as its UTF-8 bytes, each as
a percent sign and two digits to the base 16. A percent sign stands for itself, so that text
that is encoded already stays as it is.
-/

namespace HealthLedger.Text.Percent

/-- The digits to the base 16. -/
def digits : List Char := "0123456789ABCDEF".toList

/-- A number below 16 as a digit. -/
def digit (n : Nat) : Char := digits[n]?.getD '0'

/-- A byte as a percent sign and two digits. -/
def encodeByte (byte : UInt8) : List Char :=
  ['%', digit (byte.toNat / 16), digit (byte.toNat % 16)]

/-- Encode the characters that are reserved, and all that are control characters or outside of
ASCII. -/
def encodeChar (reserved : List Char) (c : Char) : List Char :=
  if c.toNat < 0x20 || 0x7F ≤ c.toNat || reserved.contains c then
    (Utf8.encode (String.singleton c)).flatMap encodeByte
  else [c]

/-- Encode the reserved characters of a text. -/
def encode (reserved chars : List Char) : List Char := chars.flatMap (encodeChar reserved)

/-- Texts are encoded piece by piece. -/
theorem encode_append (reserved left right : List Char) :
    encode reserved (left ++ right) = encode reserved left ++ encode reserved right := by
  simp [encode]

end HealthLedger.Text.Percent
