import HealthLedger.Text.Utf8

/-!
# Reading what was written in UTF-8

The bytes of a character take the reader from between two characters to behind this one. A
character has one to four bytes; the first one says how many there are and where the second one
may lie, which depends on the first where shorter encodings, surrogates and numbers that are too
large must be kept out. So the reader gets back every text (`Utf8.decode?_encode`). It reads
nothing else: bytes without a malformed piece are the bytes of their characters
(`Utf8.decode?_eq_some_iff`).
-/

namespace HealthLedger.Text.Utf8

/-- The meaning of the byte of a number. -/
theorem lead_ofNat {n : Nat} (small : n < 256) :
    lead (UInt8.ofNat n) =
      if n < 0x80 then .whole (Char.ofNat n)
      else if n < 0xC2 then .malformed
      else if n < 0xE0 then .begun ⟨n % 32, 1, 0x80, 0xBF⟩
      else if n = 0xE0 then .begun ⟨0, 2, 0xA0, 0xBF⟩
      else if n = 0xED then .begun ⟨13, 2, 0x80, 0x9F⟩
      else if n < 0xF0 then .begun ⟨n % 16, 2, 0x80, 0xBF⟩
      else if n = 0xF0 then .begun ⟨0, 3, 0x90, 0xBF⟩
      else if n < 0xF4 then .begun ⟨n % 8, 3, 0x80, 0xBF⟩
      else if n = 0xF4 then .begun ⟨4, 3, 0x80, 0x8F⟩
      else .malformed := by
  have value : (UInt8.ofNat n).toNat = n := by
    rw [UInt8.toNat_ofNat']
    omega
  simp only [lead, UInt8.lt_iff_toNat_lt, ← UInt8.toNat_inj, value]
  rfl

/-- The first of two bytes. -/
theorem lead_two {n : Nat} (low : 0xC2 ≤ n) (high : n < 0xE0) :
    lead (UInt8.ofNat n) = .begun ⟨n % 32, 1, 0x80, 0xBF⟩ := by
  rw [lead_ofNat (by omega), if_neg (by omega), if_neg (by omega), if_pos high]

/-- The first of three bytes. The second one keeps out what fits two bytes, and surrogates. -/
theorem lead_three {n : Nat} (low : 0xE0 ≤ n) (high : n < 0xF0) :
    lead (UInt8.ofNat n) =
      .begun ⟨n % 16, 2, if n = 0xE0 then 0xA0 else 0x80, if n = 0xED then 0x9F else 0xBF⟩ := by
  rw [lead_ofNat (by omega), if_neg (by omega), if_neg (by omega), if_neg (by omega)]
  by_cases least : n = 0xE0
  · subst least
    rfl
  · by_cases surrogate : n = 0xED
    · subst surrogate
      rfl
    · simp only [if_neg least, if_neg surrogate, if_pos high]

/-- The first of four bytes. The second one keeps out what fits three bytes, and numbers that are
no characters. -/
theorem lead_four {n : Nat} (low : 0xF0 ≤ n) (high : n < 0xF5) :
    lead (UInt8.ofNat n) =
      .begun ⟨n % 8, 3, if n = 0xF0 then 0x90 else 0x80, if n = 0xF4 then 0x8F else 0xBF⟩ := by
  rw [lead_ofNat (by omega), if_neg (by omega), if_neg (by omega), if_neg (by omega),
    if_neg (by omega), if_neg (by omega), if_neg (by omega)]
  by_cases least : n = 0xF0
  · subst least
    rfl
  · by_cases greatest : n = 0xF4
    · subst greatest
      rfl
    · have between : n < 0xF4 := by omega
      simp only [if_neg least, if_neg greatest, if_pos between]

/-- A byte that may follow goes on with the character. -/
theorem items_continued {pending : Pending} {n : Nat} (small : n < 256)
    (low : pending.low.toNat ≤ n) (high : n ≤ pending.high.toNat) (rest : List UInt8) :
    items (some pending) (UInt8.ofNat n :: rest) =
      if pending.owed ≤ 1 then some (Char.ofNat (pending.value * 64 + n % 64)) :: items none rest
      else items (some ⟨pending.value * 64 + n % 64, pending.owed - 1, 0x80, 0xBF⟩) rest := by
  have value : (UInt8.ofNat n).toNat = n := by
    rw [UInt8.toNat_ofNat']
    omega
  have follows : (pending.low ≤ UInt8.ofNat n && UInt8.ofNat n ≤ pending.high) = true := by
    simp only [UInt8.le_iff_toNat_le, value, Bool.and_eq_true, decide_eq_true_eq]
    exact ⟨low, high⟩
  rw [items, step, if_pos follows, value]
  split
  · rfl
  · rfl

/-- A byte that begins a character is followed by the rest of it. -/
theorem items_begun {n : Nat} {pending : Pending} (begins : lead (UInt8.ofNat n) = .begun pending)
    (rest : List UInt8) : items none (UInt8.ofNat n :: rest) = items (some pending) rest := by
  simp only [items, step, start, begins, List.nil_append]

/-- The bytes of a character. Six bits stand in every byte but the first. -/
theorem encodeChar_eq (c : Char) :
    String.utf8EncodeChar c =
      if c.toNat ≤ 0x7F then [UInt8.ofNat c.toNat]
      else if c.toNat ≤ 0x7FF then
        [UInt8.ofNat (c.toNat / 64 % 0x20 + 0xC0), UInt8.ofNat (c.toNat % 0x40 + 0x80)]
      else if c.toNat ≤ 0xFFFF then
        [UInt8.ofNat (c.toNat / 4096 % 0x10 + 0xE0), UInt8.ofNat (c.toNat / 64 % 0x40 + 0x80),
          UInt8.ofNat (c.toNat % 0x40 + 0x80)]
      else
        [UInt8.ofNat (c.toNat / 262144 % 0x08 + 0xF0),
          UInt8.ofNat (c.toNat / 4096 % 0x40 + 0x80), UInt8.ofNat (c.toNat / 64 % 0x40 + 0x80),
          UInt8.ofNat (c.toNat % 0x40 + 0x80)] :=
  rfl

/-- The bytes of a character are read as the character. -/
theorem items_encodeChar (c : Char) (rest : List UInt8) :
    items none (String.utf8EncodeChar c ++ rest) = some c :: items none rest := by
  have valid : c.toNat < 0xD800 ∨ 0xDFFF < c.toNat ∧ c.toNat < 0x110000 := c.valid
  have same : Char.ofNat c.toNat = c := Char.ofNat_toNat c
  have bytes := encodeChar_eq c
  generalize c.toNat = n at valid same bytes
  rw [bytes]
  split
  · next one =>
    have whole := lead_ofNat (n := n) (by omega)
    rw [if_pos (by omega)] at whole
    simp only [List.cons_append, List.nil_append, items, step, start, whole, same]
  · split
    · next _ two =>
      have number : (n / 64 % 0x20 + 0xC0) % 32 * 64 + (n % 0x40 + 0x80) % 64 = n := by omega
      simp only [List.cons_append, List.nil_append]
      rw [items_begun (lead_two (by omega) (by omega)),
        items_continued (by omega) (by simp) (by simp; omega), if_pos (by simp), number, same]
    · split
      · next _ _ three =>
        have number : ((n / 4096 % 0x10 + 0xE0) % 16 * 64 + (n / 64 % 0x40 + 0x80) % 64) * 64 +
            (n % 0x40 + 0x80) % 64 = n := by omega
        simp only [List.cons_append, List.nil_append]
        rw [items_begun (lead_three (by omega) (by omega)),
          items_continued (by omega) ?_ ?_, if_neg (by simp),
          items_continued (by omega) (by simp) (by simp; omega), if_pos (by simp), number, same]
        · dsimp only
          split <;> simp <;> omega
        · dsimp only
          split <;> simp <;> omega
      · next _ _ four =>
        have number : (((n / 262144 % 0x08 + 0xF0) % 8 * 64 + (n / 4096 % 0x40 + 0x80) % 64) * 64 +
            (n / 64 % 0x40 + 0x80) % 64) * 64 + (n % 0x40 + 0x80) % 64 = n := by omega
        simp only [List.cons_append, List.nil_append]
        rw [items_begun (lead_four (by omega) (by omega)),
          items_continued (by omega) ?_ ?_, if_neg (by simp),
          items_continued (by omega) (by simp) (by simp; omega), if_neg (by simp),
          items_continued (by omega) (by simp) (by simp; omega), if_pos (by simp), number, same]
        · dsimp only
          split <;> simp <;> omega
        · dsimp only
          split <;> simp <;> omega

/-- The items of the bytes of a text are its characters. -/
theorem items_encode (chars : List Char) :
    items none (chars.flatMap String.utf8EncodeChar) = chars.map some := by
  induction chars with
  | nil => rfl
  | cons c rest ih => rw [List.flatMap_cons, items_encodeChar, ih, List.map_cons]

/-- The bytes of some characters are read as the characters. -/
theorem decode?_encodeChars (chars : List Char) :
    decode? (chars.flatMap String.utf8EncodeChar) = some chars := by
  rw [decode?, items_encode, List.mapM_map]
  induction chars with
  | nil => rfl
  | cons c rest ih => simp_all

/-- A text is read as it was written. -/
theorem decode?_encode (text : String) : decode? (encode text) = some text.toList :=
  decode?_encodeChars text.toList

/-- A byte that no character begins with is malformed. -/
theorem lead_malformed {n : Nat} (small : n < 256) (stray : 0x80 ≤ n ∧ n < 0xC2 ∨ 0xF5 ≤ n) :
    lead (UInt8.ofNat n) = .malformed := by
  rw [lead_ofNat small]
  obtain ⟨low, high⟩ | great := stray
  · rw [if_neg (by omega), if_pos high]
  · repeat rw [if_neg (by omega)]

/-- If nothing is malformed, then a character that has begun goes on with a byte within its
bounds. -/
theorem exists_continuation {pending : Pending} {bytes : List UInt8} {chars : List Char}
    (read : items (some pending) bytes = chars.map some) :
    ∃ n rest, bytes = UInt8.ofNat n :: rest ∧ n < 256 ∧ pending.low.toNat ≤ n ∧
      n ≤ pending.high.toNat := by
  have noneMalformed {items : List (Option Char)} : none :: items ≠ chars.map some := by
    cases chars <;> simp
  cases bytes with
  | nil => exact absurd read noneMalformed
  | cons byte rest =>
    refine ⟨byte.toNat, rest, by simp, byte.toNat_lt, ?_⟩
    by_cases follows : (pending.low ≤ byte && byte ≤ pending.high) = true
    · simpa [UInt8.le_iff_toNat_le] using follows
    · rw [items, step, if_neg follows] at read
      exact absurd read noneMalformed

/-- A number in the range of characters is the number of its character. -/
theorem toNat_charOfNat {n : Nat} (valid : n.isValidChar) : (Char.ofNat n).toNat = n := by
  rw [Char.ofNat, dif_pos valid]
  rfl

section FirstChar

variable {n : Nat} {bytes : List UInt8} {chars : List Char}

/-- If nothing is malformed, then a byte that begins two is the first of a character of two
bytes. -/
theorem exists_charOfTwo (least : 0xC2 ≤ n) (greatest : n < 0xE0)
    (read : items none (UInt8.ofNat n :: bytes) = chars.map some) :
    ∃ c rest, UInt8.ofNat n :: bytes = String.utf8EncodeChar c ++ rest := by
  rw [items_begun (lead_two least greatest)] at read
  obtain ⟨second, rest, rfl, _, low, high⟩ := exists_continuation read
  simp only [UInt8.reduceToNat] at low high
  refine ⟨Char.ofNat (n % 32 * 64 + second % 64), rest, ?_⟩
  rw [encodeChar_eq, toNat_charOfNat (.inl (by omega)), if_neg (by omega), if_pos (by omega)]
  congr 3 <;> omega

/-- If nothing is malformed, then a byte that begins three is the first of a character of three
bytes. -/
theorem exists_charOfThree (least : 0xE0 ≤ n) (greatest : n < 0xF0)
    (read : items none (UInt8.ofNat n :: bytes) = chars.map some) :
    ∃ c rest, UInt8.ofNat n :: bytes = String.utf8EncodeChar c ++ rest := by
  rw [items_begun (lead_three least greatest)] at read
  obtain ⟨second, rest, rfl, small, low, high⟩ := exists_continuation read
  rw [items_continued small low high, if_neg (by simp)] at read
  obtain ⟨third, rest, rfl, _, lowThird, highThird⟩ := exists_continuation read
  simp only [UInt8.reduceToNat] at lowThird highThird
  -- Below the bound of 0xE0 two bytes are enough, and above that of 0xED there are surrogates.
  have lower : 0x80 ≤ second ∧ (n = 0xE0 → 0xA0 ≤ second) := by
    dsimp only at low
    split at low <;> simp at low <;> omega
  have upper : second ≤ 0xBF ∧ (n = 0xED → second ≤ 0x9F) := by
    dsimp only at high
    split at high <;> simp at high <;> omega
  have valid : ((n % 16 * 64 + second % 64) * 64 + third % 64).isValidChar := by
    unfold Nat.isValidChar
    omega
  refine ⟨Char.ofNat ((n % 16 * 64 + second % 64) * 64 + third % 64), rest, ?_⟩
  rw [encodeChar_eq, toNat_charOfNat valid, if_neg (by omega), if_neg (by omega),
    if_pos (by omega)]
  congr 4 <;> omega

/-- If nothing is malformed, then a byte that begins four is the first of a character of four
bytes. -/
theorem exists_charOfFour (least : 0xF0 ≤ n) (greatest : n < 0xF5)
    (read : items none (UInt8.ofNat n :: bytes) = chars.map some) :
    ∃ c rest, UInt8.ofNat n :: bytes = String.utf8EncodeChar c ++ rest := by
  rw [items_begun (lead_four least greatest)] at read
  obtain ⟨second, rest, rfl, small, low, high⟩ := exists_continuation read
  rw [items_continued small low high, if_neg (by simp)] at read
  obtain ⟨third, rest, rfl, smallThird, lowThird, highThird⟩ := exists_continuation read
  rw [items_continued smallThird lowThird highThird, if_neg (by simp)] at read
  obtain ⟨fourth, rest, rfl, _, lowFourth, highFourth⟩ := exists_continuation read
  simp only [UInt8.reduceToNat] at lowThird highThird lowFourth highFourth
  -- Below the bound of 0xF0 three bytes are enough, and above that of 0xF4 there are no characters.
  have lower : 0x80 ≤ second ∧ (n = 0xF0 → 0x90 ≤ second) := by
    dsimp only at low
    split at low <;> simp at low <;> omega
  have upper : second ≤ 0xBF ∧ (n = 0xF4 → second ≤ 0x8F) := by
    dsimp only at high
    split at high <;> simp at high <;> omega
  refine ⟨Char.ofNat (((n % 8 * 64 + second % 64) * 64 + third % 64) * 64 + fourth % 64), rest, ?_⟩
  rw [encodeChar_eq, toNat_charOfNat (.inr (by omega)), if_neg (by omega), if_neg (by omega),
    if_neg (by omega)]
  congr 5 <;> omega

/-- If nothing is malformed, then bytes begin with the bytes of a character. -/
theorem exists_firstChar {byte : UInt8} (read : items none (byte :: bytes) = chars.map some) :
    ∃ c rest, byte :: bytes = String.utf8EncodeChar c ++ rest := by
  obtain ⟨n, small, rfl⟩ : ∃ n < 256, byte = UInt8.ofNat n := ⟨byte.toNat, byte.toNat_lt, by simp⟩
  by_cases one : n < 0x80
  · refine ⟨Char.ofNat n, bytes, ?_⟩
    rw [encodeChar_eq, toNat_charOfNat (.inl (by omega)), if_pos (by omega)]
    rfl
  by_cases stray : n < 0xC2 ∨ 0xF5 ≤ n
  · rw [items, step, start, lead_malformed small (by omega)] at read
    cases chars <;> simp at read
  by_cases two : n < 0xE0
  · exact exists_charOfTwo (by omega) two read
  by_cases three : n < 0xF0
  · exact exists_charOfThree (by omega) three read
  · exact exists_charOfFour (by omega) (by omega) read

end FirstChar

/-- Bytes without malformed items are those of their characters. -/
theorem encodeChars_of_items {bytes : List UInt8} {chars : List Char}
    (read : items none bytes = chars.map some) :
    chars.flatMap String.utf8EncodeChar = bytes := by
  induction chars generalizing bytes with
  | nil =>
    cases bytes with
    | nil => rfl
    | cons byte bytes =>
      obtain ⟨c, rest, begins⟩ := exists_firstChar read
      rw [begins, items_encodeChar] at read
      contradiction
  | cons first others ih =>
    cases bytes with
    | nil => contradiction
    | cons byte bytes =>
      obtain ⟨c, rest, begins⟩ := exists_firstChar read
      rw [begins, items_encodeChar] at read
      obtain ⟨same, later⟩ := List.cons.inj read
      obtain rfl := Option.some.inj same
      rw [List.flatMap_cons, ih later, begins]

/-- Items that are all gathered are those of the characters. -/
theorem eq_map_some_of_mapM {items : List (Option Char)} {chars : List Char}
    (gathered : items.mapM id = some chars) : items = chars.map some := by
  induction items generalizing chars with
  | nil =>
    obtain rfl := Option.some.inj gathered
    rfl
  | cons item rest ih =>
    rw [List.mapM_cons] at gathered
    obtain ⟨first, rfl, later⟩ := Option.bind_eq_some_iff.1 gathered
    obtain ⟨others, given, same⟩ := Option.bind_eq_some_iff.1 later
    obtain rfl := Option.some.inj same
    rw [ih given, List.map_cons]

/-- Bytes are read as characters if they are those of the characters. -/
theorem decode?_eq_some_iff {bytes : List UInt8} {chars : List Char} :
    decode? bytes = some chars ↔ bytes = encode (String.ofList chars) := by
  rw [encode, String.toList_ofList]
  constructor
  · intro read
    exact (encodeChars_of_items (eq_map_some_of_mapM read)).symm
  · rintro rfl
    exact decode?_encodeChars chars

/-- Bytes that are those of no text are not read. -/
theorem decode?_eq_none_iff {bytes : List UInt8} :
    decode? bytes = none ↔ ∀ text, bytes ≠ encode text := by
  constructor
  · rintro unread text rfl
    rw [decode?_encode] at unread
    contradiction
  · intro unwritten
    cases read : decode? bytes with
    | none => rfl
    | some chars => exact absurd (decode?_eq_some_iff.1 read) (unwritten _)

end HealthLedger.Text.Utf8
