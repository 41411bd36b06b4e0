import HealthLedger.Proofs.Text.Utf8
import HealthLedger.Text.Percent

/-!
# What percent encoding keeps

A text without percent signs can be told from its encoding: the bytes that the encoding stands for
are those of the text (`Percent.bytes_encode`), so two such texts are encoded differently
(`Percent.encode_inj`). With percent signs this fails, as they stand for themselves.
-/

namespace HealthLedger.Text.Percent

/-- The value of a digit to the base 16, in either case. -/
def value (c : Char) : Nat := digits.idxOf c.toUpper

/-- The bytes that an encoded text stands for. -/
def bytes : List Char → List UInt8
  | '%' :: high :: low :: rest => UInt8.ofNat (value high * 16 + value low) :: bytes rest
  | c :: rest => String.utf8EncodeChar c ++ bytes rest
  | [] => []

/-- A digit has the value that it was written for. -/
theorem value_digit {n : Nat} (small : n < 16) : value (digit n) = n := by
  have all : ∀ n : Fin 16, value (digit n) = n := by decide
  exact all ⟨n, small⟩

/-- A character other than a percent sign stands for its own bytes. -/
theorem bytes_cons {c : Char} (plain : c ≠ '%') (rest : List Char) :
    bytes (c :: rest) = String.utf8EncodeChar c ++ bytes rest := by
  rw [bytes]
  intro high low others percent
  exact absurd percent plain

/-- An encoded byte stands for itself. -/
theorem bytes_encodeByte (byte : UInt8) (rest : List Char) :
    bytes (encodeByte byte ++ rest) = byte :: bytes rest := by
  have bound := byte.toNat_lt
  have high := value_digit (n := byte.toNat / 16) (by omega)
  have low := value_digit (n := byte.toNat % 16) (by omega)
  have whole : byte.toNat / 16 * 16 + byte.toNat % 16 = byte.toNat := by omega
  change bytes ('%' :: digit _ :: digit _ :: rest) = _
  rw [bytes, high, low, whole, UInt8.ofNat_toNat]

/-- Encoded bytes stand for themselves. -/
theorem bytes_encodeBytes (encoded : List UInt8) (rest : List Char) :
    bytes (encoded.flatMap encodeByte ++ rest) = encoded ++ bytes rest := by
  induction encoded with
  | nil => rfl
  | cons byte others ih =>
    rw [List.flatMap_cons, List.append_assoc, bytes_encodeByte, ih, List.cons_append]

/-- An encoded character stands for its bytes. -/
theorem bytes_encodeChar (reserved : List Char) {c : Char} (plain : c ≠ '%') (rest : List Char) :
    bytes (encodeChar reserved c ++ rest) = String.utf8EncodeChar c ++ bytes rest := by
  have own : Utf8.encode (String.singleton c) = String.utf8EncodeChar c := by simp [Utf8.encode]
  rw [encodeChar]
  split
  · rw [own, bytes_encodeBytes]
  · exact bytes_cons plain rest

/-- The encoding of a text without percent signs stands for the bytes of the text. -/
theorem bytes_encode (reserved : List Char) {chars : List Char} (plain : '%' ∉ chars) :
    bytes (encode reserved chars) = chars.flatMap String.utf8EncodeChar := by
  induction chars with
  | nil => rfl
  | cons c rest ih =>
    have here : c ≠ '%' := Ne.symm (List.ne_of_not_mem_cons plain)
    rw [encode, List.flatMap_cons, bytes_encodeChar reserved here, List.flatMap_cons]
    exact congrArg (_ ++ ·) (ih (List.not_mem_of_not_mem_cons plain))

/-- Characters with the same bytes are the same. -/
theorem utf8_inj {chars others : List Char}
    (same : chars.flatMap String.utf8EncodeChar = others.flatMap String.utf8EncodeChar) :
    chars = others := by
  have read := congrArg Utf8.decode? same
  rw [Utf8.decode?_encodeChars, Utf8.decode?_encodeChars] at read
  exact Option.some.inj read

/-- Texts without percent signs that are encoded to the same are the same. -/
theorem encode_inj {reserved chars others : List Char} (plain : '%' ∉ chars)
    (plainAlso : '%' ∉ others) (same : encode reserved chars = encode reserved others) :
    chars = others := by
  refine utf8_inj ?_
  rw [← bytes_encode reserved plain, same, bytes_encode reserved plainAlso]

/-- A digit is among the digits. -/
theorem digit_mem {n : Nat} (small : n < 16) : digit n ∈ digits := by
  have all : ∀ n : Fin 16, digit n ∈ digits := by decide
  exact all ⟨n, small⟩

/-- A reserved character does not occur in an encoded text, unless encoding uses it. -/
theorem notMem_encode {reserved : List Char} {c : Char} (held : c ∈ reserved) (percent : c ≠ '%')
    (other : c ∉ digits) (chars : List Char) : c ∉ encode reserved chars := by
  intro found
  obtain ⟨d, -, within⟩ := List.mem_flatMap.1 found
  rw [encodeChar] at within
  split at within
  · obtain ⟨byte, -, inside⟩ := List.mem_flatMap.1 within
    have bound := byte.toNat_lt
    simp only [encodeByte, List.mem_cons, List.not_mem_nil, or_false] at inside
    obtain rfl | rfl | rfl := inside
    · exact percent rfl
    · exact other (digit_mem (by omega))
    · exact other (digit_mem (by omega))
  · next free =>
    obtain rfl := List.mem_singleton.1 within
    exact free (by simp [held])

end HealthLedger.Text.Percent
