import HealthLedger.Proofs.Json.Numbers
import HealthLedger.Proofs.Json.Strings

/-!
# Reading back an integer

An integer is printed as its decimal digits, the first of which is zero only if it stands alone.
Its digits are taken into a word one by one, and the word is the magnitude of the integer at the
end. So an integer that fits 64 bits is read as it is printed (`Number.readable_integer`).
-/

namespace HealthLedger.Json

/-- Digits are a numeral of a number: they are below ten, they have its value, and they do not
start with a zero unless it stands alone. -/
structure Writes (digits : List Nat) (n : Nat) : Prop where
  /-- Every digit is below ten. -/
  small : ∀ digit ∈ digits, digit < 10
  /-- The digits have the value of the number. -/
  value : Numeral.digitsValue digits = n
  /-- There are no leading zeros. -/
  leading : digits = [0] ∨ ∃ first rest, digits = (first + 1) :: rest

/-- The decimal digits of a number are a numeral of it. -/
theorem exists_writes (n : Nat) :
    ∃ digits, Writes digits n ∧ Nat.toDigits 10 n = digits.map Nat.digitChar := by
  induction n using Nat.strongRecOn with
  | _ n smaller =>
    rw [Nat.toDigits_eq_if (by decide)]
    by_cases single : n < 10
    · rw [if_pos single]
      refine ⟨[n], ⟨?_, ?_, ?_⟩, rfl⟩
      · intro digit found
        obtain rfl := List.mem_singleton.1 found
        exact single
      · simp [Numeral.digitsValue]
      · cases n with
        | zero => exact .inl rfl
        | succ n => exact .inr ⟨n, [], rfl⟩
    · rw [if_neg single]
      obtain ⟨digits, writes, same⟩ := smaller (n / 10) (by omega)
      refine ⟨digits ++ [n % 10], ⟨?_, ?_, ?_⟩, ?_⟩
      · intro digit found
        rcases List.mem_append.1 found with inside | last
        · exact writes.small digit inside
        · obtain rfl := List.mem_singleton.1 last
          omega
      · have value := writes.value
        rw [Numeral.digitsValue] at value ⊢
        rw [List.foldl_append, value, List.foldl_cons, List.foldl_nil]
        omega
      · rcases writes.leading with rfl | ⟨first, rest, rfl⟩
        · have value := writes.value
          simp only [Numeral.digitsValue, List.foldl_cons, List.foldl_nil] at value
          omega
        · exact .inr ⟨first, rest ++ [n % 10], rfl⟩
      · rw [same, List.map_append]
        rfl

/-- The byte of a decimal digit is read as the digit. -/
theorem digitOf?_digitChar {digit : Nat} (small : digit < 10) :
    (Nat.digitChar digit).toNat < 0x80 ∧ digitOf? (byteOf (Nat.digitChar digit)) = some digit := by
  have all : ∀ digit : Fin 10, (Nat.digitChar digit).toNat < 0x80 ∧
      digitOf? (byteOf (Nat.digitChar digit)) = some digit.val := by decide
  exact all ⟨digit, small⟩

/-- The bytes of decimal digits are read as the digits. -/
theorem read_digits {digits : List Nat} (small : ∀ digit ∈ digits, digit < 10) :
    (bytesOf (digits.map Nat.digitChar)).takeWhile (fun byte => (digitOf? byte).isSome) =
        bytesOf (digits.map Nat.digitChar) ∧
      (bytesOf (digits.map Nat.digitChar)).filterMap digitOf? = digits ∧
      (bytesOf (digits.map Nat.digitChar)).length = digits.length := by
  induction digits with
  | nil => exact ⟨rfl, rfl, rfl⟩
  | cons digit rest ih =>
    obtain ⟨taken, read, length⟩ := ih fun other found => small other (List.mem_cons_of_mem _ found)
    obtain ⟨ascii, first⟩ := digitOf?_digitChar (small digit List.mem_cons_self)
    rw [List.map_cons, bytesOf_ascii ascii]
    refine ⟨?_, ?_, ?_⟩
    · rw [List.takeWhile_cons, first, taken]
      rfl
    · rw [List.filterMap_cons, first, read]
    · rw [List.length_cons, length, List.length_cons]

/-- Digits that stand alone are all taken. -/
theorem digits_of_bytes {digits : List Nat} (small : ∀ digit ∈ digits, digit < 10)
    (offset : Nat) :
    ∃ stop, Cursor.digits ⟨offset, bytesOf (digits.map Nat.digitChar)⟩ =
      (digits, ⟨stop, []⟩) := by
  obtain ⟨taken, read, length⟩ := read_digits small
  refine ⟨offset + digits.length, ?_⟩
  rw [Cursor.digits]
  simp only [taken, read, Cursor.advance, ← length, List.drop_length]

/-- The value of digits is at least the word they are put behind. -/
theorem le_foldl_digits (digits : List Nat) (word : Nat) :
    word ≤ digits.foldl (fun n digit => n * 10 + digit) word := by
  induction digits generalizing word with
  | nil => exact Nat.le_refl word
  | cons digit rest ih =>
    have further := ih (word * 10 + digit)
    rw [List.foldl_cons]
    omega

/-- Digits whose value fits a word are all taken into it. -/
theorem absorb_of_fits (digits : List Nat) (word : Nat)
    (fits : digits.foldl (fun n digit => n * 10 + digit) word < UInt64.size) :
    Numeral.absorb word digits =
      (digits.foldl (fun n digit => n * 10 + digit) word, []) := by
  induction digits generalizing word with
  | nil => rfl
  | cons digit rest ih =>
    rw [List.foldl_cons] at fits ⊢
    have here := Nat.lt_of_le_of_lt (le_foldl_digits rest (word * 10 + digit)) fits
    rw [Numeral.absorb, if_pos here, ih _ fits]

/-- The numeral of an integer that fits 64 bits is the integer. -/
theorem number?_of_writes {digits : List Nat} {n : Nat} (writes : Writes digits n)
    (fits : n < UInt64.size) (negative : Bool)
    (signed : negative = true → 0 < n ∧ n ≤ Numeral.greatestMinus) :
    Numeral.number? ⟨negative, digits, [], none⟩ =
      some (.integer (if negative then -(n : Int) else n)) := by
  have value := writes.value
  rw [Numeral.digitsValue] at value
  have absorbed := absorb_of_fits digits 0 (by rw [value]; exact fits)
  rw [value] at absorbed
  cases negative with
  | false => simp [Numeral.number?, absorbed]
  | true => simp [Numeral.number?, absorbed, signed rfl]

/-- A complete numeral that ends the text is scanned as its number. -/
theorem scanAfterWhole_end {numeral : Numeral} {number : Number}
    (means : numeral.number? = some number) (stop : Nat) :
    scanAfterWhole ⟨stop, []⟩ numeral = ⟨.ok number, none, ⟨stop, []⟩⟩ := by
  have point : Cursor.sees ⟨stop, []⟩ '.' = false := rfl
  have power : seesExponent ⟨stop, []⟩ = false := rfl
  simp only [scanAfterWhole, point, power, Bool.false_eq_true, if_false,
    ScannedNumber.complete, means]

/-- The digits of an integer that fits 64 bits are scanned as the integer, whatever its sign. -/
theorem scanNumber_writes {digits : List Nat} {n : Nat} (writes : Writes digits n)
    (fits : n < UInt64.size) (negative : Bool)
    (signed : negative = true → 0 < n ∧ n ≤ Numeral.greatestMinus) :
    ∃ stop, scanNumber
        ⟨0, (if negative then [byteOf '-'] else []) ++ bytesOf (digits.map Nat.digitChar)⟩ =
      ⟨.ok (.integer (if negative then -(n : Int) else n)), none, ⟨stop, []⟩⟩ := by
  let bytes := bytesOf (digits.map Nat.digitChar)
  have sign : Cursor.sees ⟨0, (if negative then [byteOf '-'] else []) ++ bytes⟩ '-' = negative := by
    cases negative with
    | true => rfl
    | false =>
      obtain ⟨digit, more, rfl⟩ : ∃ digit more, digits = digit :: more := by
        rcases writes.leading with rfl | ⟨first, rest, rfl⟩
        · exact ⟨0, [], rfl⟩
        · exact ⟨first + 1, rest, rfl⟩
      have all : ∀ digit : Fin 10, (some (byteOf (Nat.digitChar digit)) == some (byteOf '-')) =
          false := by decide
      have small := writes.small digit List.mem_cons_self
      simp only [bytes, List.map_cons, bytesOf_ascii (digitOf?_digitChar small).1]
      exact all ⟨digit, small⟩
  have behind : ∃ offset, (if negative = true then
      Cursor.next ⟨0, (if negative then [byteOf '-'] else []) ++ bytes⟩
      else ⟨0, (if negative then [byteOf '-'] else []) ++ bytes⟩) = ⟨offset, bytes⟩ := by
    cases negative with
    | true => exact ⟨1, rfl⟩
    | false => exact ⟨0, rfl⟩
  obtain ⟨offset, behind⟩ := behind
  obtain ⟨stop, found⟩ := digits_of_bytes writes.small offset
  refine ⟨stop, ?_⟩
  have means := number?_of_writes writes fits negative signed
  change scanNumber ⟨0, (if negative then [byteOf '-'] else []) ++ bytes⟩ = _
  simp only [scanNumber, sign, behind, bytes, found]
  rcases writes.leading with rfl | ⟨first, rest, rfl⟩
  · exact scanAfterWhole_end means stop
  · exact scanAfterWhole_end means stop

/-- An integer that fits 64 bits is read as it is printed. -/
theorem Number.readable_integer {value : Int} (low : -(Numeral.greatestMinus : Int) ≤ value)
    (high : value < UInt64.size) : (Number.integer value).Readable := by
  have scanned : ∃ stop, scanNumber ⟨0, Text.Utf8.encode (Number.integer value).text⟩ =
      ⟨.ok (.integer value), none, ⟨stop, []⟩⟩ := by
    cases value with
    | ofNat n =>
      obtain ⟨digits, writes, same⟩ := exists_writes n
      have text : Text.Utf8.encode (Number.integer (.ofNat n)).text =
          [] ++ bytesOf (digits.map Nat.digitChar) := by
        rw [← same, ← Nat.toList_repr]
        rfl
      rw [text]
      exact scanNumber_writes writes (Int.ofNat_lt.1 high) false (by simp)
    | negSucc n =>
      obtain ⟨digits, writes, same⟩ := exists_writes (n + 1)
      have text : Text.Utf8.encode (Number.integer (.negSucc n)).text =
          [byteOf '-'] ++ bytesOf (digits.map Nat.digitChar) := by
        have sign : (Number.integer (.negSucc n)).text = "-" ++ (n + 1).repr := rfl
        rw [sign, encode_eq, String.toList_append, bytesOf_append, Nat.toList_repr, same]
        rfl
      have least : n + 1 ≤ Numeral.greatestMinus := by omega
      have fits : n + 1 < UInt64.size :=
        Nat.lt_of_le_of_lt least (by decide)
      rw [text]
      exact scanNumber_writes writes fits true fun _ => ⟨Nat.succ_pos n, least⟩
  obtain ⟨stop, scanned⟩ := scanned
  constructor <;> rw [scanned]

end HealthLedger.Json
