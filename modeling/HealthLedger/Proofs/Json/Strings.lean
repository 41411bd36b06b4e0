import HealthLedger.Json.Printer
import HealthLedger.Json.Tree.Scan
import HealthLedger.Proofs.Text.Utf8

/-!
# Reading back a printed string

The bytes of a printed character take a reader of strings from one character to the next: plain
bytes are gathered as they are, an escape stands for the character it was made of, and a skipper
finds nothing wrong. So the string that ends at the next quotation mark is the string that was
printed (`scanString_printed`).
-/

namespace HealthLedger.Json

/-- The bytes of some characters. -/
def bytesOf (chars : List Char) : List UInt8 := chars.flatMap String.utf8EncodeChar

/-- The bytes of a text are the bytes of its characters. -/
theorem encode_eq (text : String) : Text.Utf8.encode text = bytesOf text.toList := rfl

/-- Bytes stand one after the other as the characters do. -/
@[simp] theorem bytesOf_append (first second : List Char) :
    bytesOf (first ++ second) = bytesOf first ++ bytesOf second :=
  List.flatMap_append

/-- There are no bytes without characters. -/
@[simp] theorem bytesOf_nil : bytesOf [] = [] := rfl

/-- A character of ASCII is one byte. -/
theorem encodeChar_ascii {c : Char} (ascii : c.toNat < 0x80) :
    String.utf8EncodeChar c = [byteOf c] := by
  have small : c.val.toNat ≤ 0x7F := Nat.le_of_lt_succ ascii
  simp only [String.utf8EncodeChar, if_pos small]
  rfl

/-- The bytes of a character of ASCII and what follows it. -/
theorem bytesOf_ascii {c : Char} (ascii : c.toNat < 0x80) (rest : List Char) :
    bytesOf (c :: rest) = byteOf c :: bytesOf rest := by
  rw [bytesOf, List.flatMap_cons, encodeChar_ascii ascii]
  rfl

/-- A byte that stands for itself in a string. -/
def IsPlainByte (byte : UInt8) : Prop := byte ≠ byteOf '"' ∧ byte ≠ byteOf '\\' ∧ ¬ byte < 0x20

/-- A byte of a number from 128 on stands for itself. -/
theorem isPlainByte_ofNat {n : Nat} (low : 0x20 ≤ n) (high : n < 0x100) (quote : n ≠ 0x22)
    (backslash : n ≠ 0x5C) : IsPlainByte (UInt8.ofNat n) := by
  have value : (UInt8.ofNat n).toNat = n := by
    rw [UInt8.toNat_ofNat']
    omega
  refine ⟨fun same => ?_, fun same => ?_, fun less => ?_⟩
  · have := congrArg UInt8.toNat same
    rw [value] at this
    exact quote this
  · have := congrArg UInt8.toNat same
    rw [value] at this
    exact backslash this
  · have := UInt8.lt_iff_toNat_lt.1 less
    rw [value] at this
    exact Nat.not_lt.2 low this

/-- The bytes of a character that needs no escape stand for themselves. -/
theorem isPlainByte_of_mem {c : Char} (quote : c ≠ '"') (backslash : c ≠ '\\')
    (visible : ¬ c.toNat < 0x20) : ∀ byte ∈ String.utf8EncodeChar c, IsPlainByte byte := by
  have quoteNumber : c.toNat ≠ 0x22 := fun same => quote (Char.toNat_inj.1 same)
  have backslashNumber : c.toNat ≠ 0x5C := fun same => backslash (Char.toNat_inj.1 same)
  have number : c.val.toNat = c.toNat := rfl
  intro byte found
  unfold String.utf8EncodeChar at found
  simp only [number] at found
  split at found
  · obtain rfl := List.mem_singleton.1 found
    exact isPlainByte_ofNat (by omega) (by omega) quoteNumber backslashNumber
  · split at found
    · simp only [List.mem_cons, List.not_mem_nil, or_false] at found
      rcases found with rfl | rfl <;>
        exact isPlainByte_ofNat (by omega) (by omega) (by omega) (by omega)
    · split at found
      · simp only [List.mem_cons, List.not_mem_nil, or_false] at found
        rcases found with rfl | rfl | rfl <;>
          exact isPlainByte_ofNat (by omega) (by omega) (by omega) (by omega)
      · simp only [List.mem_cons, List.not_mem_nil, or_false] at found
        rcases found with rfl | rfl | rfl | rfl <;>
          exact isPlainByte_ofNat (by omega) (by omega) (by omega) (by omega)

/-- A reader gathers bytes that stand for themselves. -/
theorem readString_plain {bytes : List UInt8} (plain : ∀ byte ∈ bytes, IsPlainByte byte)
    (offset : Nat) (gathered rest : List UInt8) :
    readString .plain offset gathered (bytes ++ rest) =
      readString .plain (offset + bytes.length) (bytes.reverse ++ gathered) rest := by
  induction bytes generalizing offset gathered with
  | nil => rfl
  | cons byte more ih =>
    obtain ⟨quote, backslash, visible⟩ := plain byte List.mem_cons_self
    have others := ih fun other found => plain other (List.mem_cons_of_mem _ found)
    rw [List.cons_append, readString]
    simp only [beq_iff_eq, if_neg quote, if_neg backslash, if_neg visible, others]
    rw [List.length_cons, List.reverse_cons, List.append_assoc, Nat.add_assoc, Nat.add_comm 1]
    rfl

/-- A skipper passes over bytes that stand for themselves. -/
theorem skipString_plain {bytes : List UInt8} (plain : ∀ byte ∈ bytes, IsPlainByte byte)
    (offset : Nat) (rest : List UInt8) :
    skipString .plain offset (bytes ++ rest) =
      skipString .plain (offset + bytes.length) rest := by
  induction bytes generalizing offset with
  | nil => rfl
  | cons byte more ih =>
    obtain ⟨quote, backslash, visible⟩ := plain byte List.mem_cons_self
    have others := ih fun other found => plain other (List.mem_cons_of_mem _ found)
    rw [List.cons_append, skipString]
    simp only [beq_iff_eq, if_neg quote, if_neg backslash, if_neg visible, others]
    rw [List.length_cons, Nat.add_assoc, Nat.add_comm 1]

/-- A backslash begins an escape for a reader. -/
theorem readString_backslash (offset : Nat) (gathered rest : List UInt8) :
    readString .plain offset gathered (byteOf '\\' :: rest) =
      readString .escape (offset + 1) gathered rest := by
  have quote : (byteOf '\\' == byteOf '"') = false := by decide
  rw [readString]
  simp only [quote, beq_self_eq_true, if_pos, Bool.false_eq_true, if_false]

/-- A backslash begins an escape for a skipper. -/
theorem skipString_backslash (offset : Nat) (rest : List UInt8) :
    skipString .plain offset (byteOf '\\' :: rest) = skipString .escape (offset + 1) rest := by
  have quote : (byteOf '\\' == byteOf '"') = false := by decide
  rw [skipString]
  simp only [quote, beq_self_eq_true, if_pos, Bool.false_eq_true, if_false]

/-- An escape of one letter stands for its meaning. -/
theorem readString_letter {letter meant : UInt8} (means : escapeByte? letter = some meant)
    (offset : Nat) (gathered rest : List UInt8) :
    readString .plain offset gathered (byteOf '\\' :: letter :: rest) =
      readString .plain (offset + 2) (meant :: gathered) rest := by
  rw [readString_backslash, readString]
  simp only [means]

/-- A skipper passes over an escape of one letter. -/
theorem skipString_letter {letter meant : UInt8} (means : escapeByte? letter = some meant)
    (offset : Nat) (rest : List UInt8) :
    skipString .plain offset (byteOf '\\' :: letter :: rest) =
      skipString .plain (offset + 2) rest := by
  rw [skipString_backslash, skipString]
  simp only [means, Option.isSome_some, if_pos]

/-- The digits of a byte below 32 in an escape of four. -/
theorem fourHexDigits_of_lt {n : Nat} (small : n < 0x20) :
    fourHexDigits n = ['0', '0', Nat.digitChar (n / 16), Nat.digitChar (n % 16)] := by
  have first : n / 4096 % 16 = 0 := by omega
  have second : n / 256 % 16 = 0 := by omega
  have third : n / 16 % 16 = n / 16 := by omega
  simp only [fourHexDigits, first, second, third]
  rfl

/-- The byte of a digit to the base 16 is read as the digit. -/
theorem hexDigitOf?_digitChar {n : Nat} (small : n < 16) :
    (Nat.digitChar n).toNat < 0x80 ∧ hexDigitOf? (byteOf (Nat.digitChar n)) = some n := by
  have all : ∀ n : Fin 16, (Nat.digitChar n).toNat < 0x80 ∧
      hexDigitOf? (byteOf (Nat.digitChar n)) = some n.val := by decide
  exact all ⟨n, small⟩

/-- A digit of an escape that is not the last one is taken into its number. -/
theorem readString_digit {n digit count : Nat} {byte : UInt8} (more : count < 3)
    (written : hexDigitOf? byte = some digit) (lead : Option Nat) (offset : Nat)
    (gathered rest : List UInt8) :
    readString (.hex lead count (some n)) offset gathered (byte :: rest) =
      readString (.hex lead (count + 1) (some (n * 16 + digit))) (offset + 1) gathered rest := by
  have value : addHexDigit (some n) byte = some (n * 16 + digit) := by
    rw [addHexDigit, Option.bind_some, written, Option.map_some]
  rw [readString.eq_def]
  simp only [if_pos more, value]

/-- The last digit of an escape ends a character that is no half of a pair. -/
theorem readString_lastDigit {n digit : Nat} {byte : UInt8}
    (written : hexDigitOf? byte = some digit) (small : n * 16 + digit < 0xD800) (offset : Nat)
    (gathered rest : List UInt8) :
    readString (.hex none 3 (some n)) offset gathered (byte :: rest) =
      readString .plain (offset + 1) (codePointBytes (n * 16 + digit) ++ gathered) rest := by
  have second : ¬ (0xDC00 ≤ n * 16 + digit ∧ n * 16 + digit ≤ 0xDFFF) := by omega
  have first : ¬ (0xD800 ≤ n * 16 + digit ∧ n * 16 + digit ≤ 0xDBFF) := by omega
  have value : addHexDigit (some n) byte = some (n * 16 + digit) := by
    rw [addHexDigit, Option.bind_some, written, Option.map_some]
  rw [readString.eq_def]
  simp only [Nat.lt_irrefl, if_false, value, if_neg second, if_neg first]

/-- A skipper takes a digit of an escape that is not the last one. -/
theorem skipString_digit {digit count : Nat} {byte : UInt8} (more : count < 3)
    (written : hexDigitOf? byte = some digit) (offset : Nat) (rest : List UInt8) :
    skipString (.hex count true) offset (byte :: rest) =
      skipString (.hex (count + 1) true) (offset + 1) rest := by
  rw [skipString]
  simp only [if_pos more, written, Option.isSome_some, Bool.and_self]

/-- A skipper takes the last digit of an escape. -/
theorem skipString_lastDigit {digit : Nat} {byte : UInt8}
    (written : hexDigitOf? byte = some digit) (offset : Nat) (rest : List UInt8) :
    skipString (.hex 3 true) offset (byte :: rest) = skipString .plain (offset + 1) rest := by
  rw [skipString]
  simp only [Nat.lt_irrefl, if_false, written, Option.isSome_some, Bool.and_self, if_pos]

/-- The bytes of an escape of four digits. -/
theorem bytesOf_fourHexDigits {n : Nat} (small : n < 0x20) :
    bytesOf (fourHexDigits n) =
      [byteOf '0', byteOf '0', byteOf (Nat.digitChar (n / 16)),
        byteOf (Nat.digitChar (n % 16))] := by
  have high := hexDigitOf?_digitChar (n := n / 16) (by omega)
  have low := hexDigitOf?_digitChar (n := n % 16) (by omega)
  rw [fourHexDigits_of_lt small, bytesOf_ascii (by decide), bytesOf_ascii (by decide),
    bytesOf_ascii high.1, bytesOf_ascii low.1, bytesOf_nil]

/-- An escape of four digits stands for the character of their number. -/
theorem readString_unicode {n : Nat} (small : n < 0x20) (offset : Nat)
    (gathered rest : List UInt8) :
    readString .plain offset gathered
        (byteOf '\\' :: byteOf 'u' :: (bytesOf (fourHexDigits n) ++ rest)) =
      readString .plain (offset + 6) (codePointBytes n ++ gathered) rest := by
  have high := (hexDigitOf?_digitChar (n := n / 16) (by omega)).2
  have low := (hexDigitOf?_digitChar (n := n % 16) (by omega)).2
  have zero : hexDigitOf? (byteOf '0') = some 0 := by decide
  have letter : escapeByte? (byteOf 'u') = none := by decide
  have number : ((0 * 16 + 0) * 16 + 0) * 16 + n / 16 = n / 16 := by omega
  have whole : n / 16 * 16 + n % 16 = n := by omega
  rw [bytesOf_fourHexDigits small, readString_backslash, readString]
  simp only [letter, beq_self_eq_true, if_pos, List.cons_append, List.nil_append]
  rw [readString_digit (by decide) zero, readString_digit (by decide) zero,
    readString_digit (by decide) high, number, readString_lastDigit low (by omega), whole]

/-- A skipper passes over an escape of four digits. -/
theorem skipString_unicode {n : Nat} (small : n < 0x20) (offset : Nat) (rest : List UInt8) :
    skipString .plain offset
        (byteOf '\\' :: byteOf 'u' :: (bytesOf (fourHexDigits n) ++ rest)) =
      skipString .plain (offset + 6) rest := by
  have high := (hexDigitOf?_digitChar (n := n / 16) (by omega)).2
  have low := (hexDigitOf?_digitChar (n := n % 16) (by omega)).2
  have zero : hexDigitOf? (byteOf '0') = some 0 := by decide
  have letter : escapeByte? (byteOf 'u') = none := by decide
  rw [bytesOf_fourHexDigits small, skipString_backslash, skipString]
  simp only [letter, Option.isSome_none, Bool.false_eq_true, if_false, beq_self_eq_true, if_pos,
    List.cons_append, List.nil_append]
  rw [skipString_digit (by decide) zero, skipString_digit (by decide) zero,
    skipString_digit (by decide) high, skipString_lastDigit low]

/-- The bytes of a printed character. -/
def escaped (c : Char) : List UInt8 := bytesOf (escapeChar c)

/-- How a printed character is read: as an escape of one letter, as an escape of four digits, or
as it is. -/
theorem escaped_cases (c : Char) :
    (∃ letter meant, escaped c = [byteOf '\\', letter] ∧ escapeByte? letter = some meant ∧
        String.utf8EncodeChar c = [meant]) ∨
      (c.toNat < 0x20 ∧
        escaped c = byteOf '\\' :: byteOf 'u' :: bytesOf (fourHexDigits c.toNat)) ∨
      (escaped c = String.utf8EncodeChar c ∧
        ∀ byte ∈ String.utf8EncodeChar c, IsPlainByte byte) := by
  unfold escaped escapeChar
  by_cases quote : c = '"'
  · subst quote
    exact .inl ⟨byteOf '"', byteOf '"', by decide, by decide, by decide⟩
  · by_cases backslash : c = '\\'
    · subst backslash
      exact .inl ⟨byteOf '\\', byteOf '\\', by decide, by decide, by decide⟩
    · rw [if_neg quote, if_neg backslash]
      split
      · next same =>
        subst same
        exact .inl ⟨byteOf 'b', 0x08, by decide, by decide, by decide⟩
      · split
        · next _ same =>
          subst same
          exact .inl ⟨byteOf 'f', 0x0C, by decide, by decide, by decide⟩
        · split
          · next _ _ same =>
            subst same
            exact .inl ⟨byteOf 'n', 0x0A, by decide, by decide, by decide⟩
          · split
            · next _ _ _ same =>
              subst same
              exact .inl ⟨byteOf 'r', 0x0D, by decide, by decide, by decide⟩
            · split
              · next _ _ _ _ same =>
                subst same
                exact .inl ⟨byteOf 't', 0x09, by decide, by decide, by decide⟩
              · split
                · next control =>
                  refine .inr (.inl ⟨control, ?_⟩)
                  rw [bytesOf_ascii (by decide), bytesOf_ascii (by decide)]
                · next visible =>
                  refine .inr (.inr ⟨?_, isPlainByte_of_mem quote backslash visible⟩)
                  rw [bytesOf, List.flatMap_cons, List.flatMap_nil, List.append_nil]

/-- A reader gathers the bytes of the character that was printed. -/
theorem readString_escaped (c : Char) (offset : Nat) (gathered rest : List UInt8) :
    ∃ stop, readString .plain offset gathered (escaped c ++ rest) =
      readString .plain stop ((String.utf8EncodeChar c).reverse ++ gathered) rest := by
  rcases escaped_cases c with ⟨letter, meant, written, means, bytes⟩ | ⟨control, written⟩ |
    ⟨written, plain⟩
  · refine ⟨offset + 2, ?_⟩
    rw [written, bytes]
    exact readString_letter means offset gathered rest
  · have point : codePointBytes c.toNat = (String.utf8EncodeChar c).reverse := by
      rw [codePointBytes, Char.ofNat_toNat, encode_eq, String.toList_ofList, bytesOf,
        List.flatMap_cons, List.flatMap_nil, List.append_nil]
    refine ⟨offset + 6, ?_⟩
    rw [written, ← point]
    exact readString_unicode control offset gathered rest
  · refine ⟨offset + (String.utf8EncodeChar c).length, ?_⟩
    rw [written]
    exact readString_plain plain offset gathered rest

/-- A skipper passes over the character that was printed. -/
theorem skipString_escaped (c : Char) (offset : Nat) (rest : List UInt8) :
    ∃ stop, skipString .plain offset (escaped c ++ rest) = skipString .plain stop rest := by
  rcases escaped_cases c with ⟨letter, meant, written, means, bytes⟩ | ⟨control, written⟩ |
    ⟨written, plain⟩
  · refine ⟨offset + 2, ?_⟩
    rw [written]
    exact skipString_letter means offset rest
  · refine ⟨offset + 6, ?_⟩
    rw [written]
    exact skipString_unicode control offset rest
  · refine ⟨offset + (String.utf8EncodeChar c).length, ?_⟩
    rw [written]
    exact skipString_plain plain offset rest

/-- A reader gathers the bytes of the characters that were printed. -/
theorem readString_chars (chars : List Char) (offset : Nat) (gathered rest : List UInt8) :
    ∃ stop, readString .plain offset gathered (bytesOf (chars.flatMap escapeChar) ++ rest) =
      readString .plain stop ((bytesOf chars).reverse ++ gathered) rest := by
  induction chars generalizing offset gathered with
  | nil => exact ⟨offset, rfl⟩
  | cons c more ih =>
    obtain ⟨middle, first⟩ := readString_escaped c offset gathered
      (bytesOf (more.flatMap escapeChar) ++ rest)
    obtain ⟨stop, others⟩ := ih middle ((String.utf8EncodeChar c).reverse ++ gathered)
    refine ⟨stop, ?_⟩
    rw [List.flatMap_cons, bytesOf_append, List.append_assoc]
    refine first.trans (others.trans ?_)
    rw [bytesOf, bytesOf, List.flatMap_cons, List.reverse_append, List.append_assoc]

/-- A skipper passes over the characters that were printed. -/
theorem skipString_chars (chars : List Char) (offset : Nat) (rest : List UInt8) :
    ∃ stop, skipString .plain offset (bytesOf (chars.flatMap escapeChar) ++ rest) =
      skipString .plain stop rest := by
  induction chars generalizing offset with
  | nil => exact ⟨offset, rfl⟩
  | cons c more ih =>
    obtain ⟨middle, first⟩ := skipString_escaped c offset
      (bytesOf (more.flatMap escapeChar) ++ rest)
    obtain ⟨stop, others⟩ := ih middle
    refine ⟨stop, ?_⟩
    rw [List.flatMap_cons, bytesOf_append, List.append_assoc]
    exact first.trans others

/-- The bytes of a printed string: its characters between quotation marks. -/
theorem encode_stringText (text : String) :
    Text.Utf8.encode (stringText text) =
      byteOf '"' :: (bytesOf (text.toList.flatMap escapeChar) ++ [byteOf '"']) := by
  rw [encode_eq, stringText, String.toList_ofList, List.cons_append, bytesOf_ascii (by decide),
    bytesOf_append, bytesOf_ascii (by decide), bytesOf_nil]

/-- Scanning a printed string finds the string, and what stands behind it. -/
theorem scanString_printed (text : String) (offset : Nat) (rest : List UInt8) :
    ∃ stop, scanString
        ⟨offset, bytesOf (text.toList.flatMap escapeChar) ++ byteOf '"' :: rest⟩ =
      ⟨.ok text, .ok ⟨stop, rest⟩⟩ := by
  obtain ⟨readStop, read⟩ := readString_chars text.toList offset [] (byteOf '"' :: rest)
  obtain ⟨skipStop, skipped⟩ := skipString_chars text.toList offset (byteOf '"' :: rest)
  have gathered : Text.Utf8.decode? ((bytesOf text.toList).reverse ++ []).reverse =
      some text.toList := by
    rw [List.append_nil, List.reverse_reverse]
    exact Text.Utf8.decode?_encode text
  refine ⟨skipStop + 1, ?_⟩
  rw [scanString, read, skipped, readString, skipString]
  simp only [beq_self_eq_true, if_pos, gathered, String.ofList_toList]

end HealthLedger.Json
