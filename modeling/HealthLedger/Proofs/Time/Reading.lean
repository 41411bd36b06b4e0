import HealthLedger.Proofs.Json.Integers
import HealthLedger.Proofs.Time.Calendar
import HealthLedger.Time.Printer
import HealthLedger.Time.Reader
import Mathlib.Data.Nat.Digits.Defs

/-!
# Reading back an instant

An instant of the calendar is read as it is printed (`Instant.Valid.readable`). A number that is
filled up with zeros is read by whoever takes as many digits, and by whoever takes more if no digit
follows it (`Reader.number_digits`); no part of the text begins with a blank; and a leap second is
printed as second 60, which is read as the second before it with a thousand million nanoseconds.
-/

namespace HealthLedger.Time

/-- The calendar and the day have the instant, and a leap second ends a minute. -/
structure Instant.Valid (instant : Instant) : Prop where
  /-- The day is not before the first one with a date. -/
  first : firstDay ≤ instant.day
  /-- The day is not behind the last one with a date. -/
  last : instant.day ≤ lastDay
  /-- The day has the second. -/
  second : instant.second < 86400
  /-- The second has the nanoseconds, or is followed by a leap second. -/
  nano : instant.nano < 1000000000 ∨ (instant.second % 60 = 59 ∧ instant.nano < 2000000000)

/-- A decimal digit is a digit of its value, and no blank. -/
theorem digitChar_facts {digit : Nat} (small : digit < 10) :
    (Nat.digitChar digit).isDigit = true ∧ (Nat.digitChar digit).toNat - 48 = digit ∧
      Text.isBlank (Nat.digitChar digit) = false := by
  have all : ∀ digit : Fin 10, (Nat.digitChar digit).isDigit = true ∧
      (Nat.digitChar digit).toNat - 48 = digit.val ∧
      Text.isBlank (Nat.digitChar digit) = false := by decide
  exact all ⟨digit, small⟩

/-- A padded number consists of digits of its value, as many as it was padded to if it has no
more. -/
theorem exists_padded (width n : Nat) :
    ∃ digits, digits ≠ [] ∧ (∀ digit ∈ digits, digit < 10) ∧ Json.Numeral.digitsValue digits = n ∧
      (padded width n).toList = digits.map Nat.digitChar ∧
      (0 < width → n < 10 ^ width → digits.length = width) := by
  obtain ⟨digits, writes, same⟩ := Json.exists_writes n
  have nonempty : digits ≠ [] := by
    rcases writes.leading with rfl | ⟨first, rest, rfl⟩ <;> simp
  have text : (toString n).toList = digits.map Nat.digitChar := Nat.toList_repr.trans same
  have length : (toString n).length = digits.length := by
    rw [← String.length_toList, text, List.length_map]
  refine ⟨List.replicate (width - digits.length) 0 ++ digits, ?_, ?_, ?_, ?_, ?_⟩
  · simp [nonempty]
  · intro digit found
    rcases List.mem_append.1 found with zero | inside
    · obtain rfl := List.eq_of_mem_replicate zero
      decide
    · exact writes.small digit inside
  · have zeros (count : Nat) :
        (List.replicate count 0).foldl (fun n digit => n * 10 + digit) 0 = 0 := by
      induction count with
      | zero => rfl
      | succ count ih => simpa [List.replicate_succ] using ih
    rw [Json.Numeral.digitsValue, List.foldl_append, zeros]
    exact writes.value
  · simp only [padded, String.toList_append, String.toList_ofList, length, text, List.map_append,
      List.map_replicate]
    rfl
  · intro positive fits
    have short := Nat.toDigits_length 10 n width positive fits
    rw [same, List.length_map] at short
    rw [List.length_append, List.length_replicate]
    omega

namespace Reader

variable {α β : Type}

/-- A reader goes on where the one before it has stopped. -/
theorem bind_eq {reader : Reader α} {next : α → Reader β} {chars rest : List Char} {value : α}
    (read : reader chars = .ok (value, rest)) : (reader >>= next) chars = next value rest := by
  change (reader chars >>= fun taken => next taken.1 taken.2) = _
  rw [read]
  rfl

/-- Nothing is passed over where no blank stands. -/
theorem blanks_eq {chars : List Char} (plain : ∀ c ∈ chars.head?, Text.isBlank c = false) :
    blanks chars = .ok ((), chars) := by
  cases chars with
  | nil => rfl
  | cons c rest =>
    have here := plain c rfl
    change Except.ok ((), List.dropWhile Text.isBlank (c :: rest)) = _
    rw [List.dropWhile_cons_of_neg (by simp [here])]

/-- Whoever takes digits up to a width stops after some of them: there are as many as the width,
or no more, and no digit follows. -/
def Stops (width : Option Nat) (count : Nat) (rest : List Char) : Prop :=
  width = some count ∨ (∀ most ∈ width, count ≤ most) ∧ ∀ c ∈ rest.head?, c.isDigit = false

/-- Digits are added to a number until whoever takes them stops. -/
theorem digitsFrom_digits {digits : List Nat} (small : ∀ digit ∈ digits, digit < 10) {n : Nat}
    (fits : digits.foldl (fun n digit => n * 10 + digit) n ≤ greatest) {width : Option Nat}
    {rest : List Char} (stops : Stops width digits.length rest) :
    digitsFrom n width (digits.map Nat.digitChar ++ rest) =
      .ok (digits.foldl (fun n digit => n * 10 + digit) n, rest) := by
  induction digits generalizing n width with
  | nil =>
    cases rest with
    | nil => rfl
    | cons c rest =>
      have stopped : (c.isDigit && width != some 0) = false := by
        rcases stops with rfl | ⟨-, plain⟩
        · simp
        · simp [plain c rfl]
      simp only [List.map_nil, List.nil_append, digitsFrom, stopped]
      rfl
  | cons digit digits ih =>
    obtain ⟨isDigit, value, -⟩ := digitChar_facts (small digit List.mem_cons_self)
    have goesOn : width ≠ some 0 := by
      rcases stops with rfl | ⟨enough, -⟩
      · simp
      · rintro rfl
        exact absurd (enough 0 rfl) (by simp)
    have here : n * 10 + digit ≤ greatest :=
      Nat.le_trans (Json.le_foldl_digits digits (n * 10 + digit)) fits
    have stopsAfter : Stops (width.map (· - 1)) digits.length rest := by
      rcases stops with rfl | ⟨enough, plain⟩
      · exact .inl (by simp)
      · refine .inr ⟨fun left found => ?_, plain⟩
        obtain ⟨most, given, rfl⟩ := Option.map_eq_some_iff.1 found
        have more := enough most given
        rw [List.length_cons] at more
        omega
    rw [List.map_cons, List.cons_append, digitsFrom, isDigit, value]
    simp only [Bool.true_and, bne_iff_ne, ne_eq, goesOn, not_false_eq_true, if_true]
    rw [if_neg (Nat.not_lt.2 here)]
    exact ih (fun other found => small other (List.mem_cons_of_mem _ found)) fits stopsAfter

/-- A padded number is read from its digits, of which there are as many as it was padded to if it
has no more. -/
theorem number_padded {padding n : Nat} (fits : n ≤ greatest) {width : Option Nat}
    {rest : List Char}
    (stops : ∀ count, (0 < padding → n < 10 ^ padding → count = padding) →
      Stops width count rest) :
    number width ((padded padding n).toList ++ rest) = .ok (n, rest) := by
  obtain ⟨digits, nonempty, small, value, same, length⟩ := exists_padded padding n
  rw [Json.Numeral.digitsValue] at value
  have read := digitsFrom_digits small (by rw [value]; exact fits) (stops _ length)
  rw [value] at read
  cases digits with
  | nil => exact absurd rfl nonempty
  | cons digit digits =>
    have isDigit := (digitChar_facts (small digit List.mem_cons_self)).1
    rw [same]
    rw [List.map_cons, List.cons_append] at read ⊢
    rw [number]
    simp only [isDigit, if_true]
    exact read

/-- A padded number begins with a digit. -/
theorem exists_head_padded (padding n : Nat) (rest : List Char) :
    ∃ digit more, digit < 10 ∧
      (padded padding n).toList ++ rest = Nat.digitChar digit :: more := by
  obtain ⟨digits, nonempty, small, -, same, -⟩ := exists_padded padding n
  cases digits with
  | nil => exact absurd rfl nonempty
  | cons digit digits =>
    exact ⟨digit, _, small digit List.mem_cons_self, by rw [same, List.map_cons, List.cons_append]⟩

/-- No blank stands before a padded number. -/
theorem blanks_padded (padding n : Nat) (rest : List Char) :
    blanks ((padded padding n).toList ++ rest) = .ok ((), (padded padding n).toList ++ rest) := by
  obtain ⟨digit, more, small, same⟩ := exists_head_padded padding n rest
  refine blanks_eq fun c found => ?_
  rw [same] at found
  obtain rfl := Option.some.inj found
  exact (digitChar_facts small).2.2

/-- A field of two digits is read as it is printed. -/
theorem field_padded {low high n : Nat} (inside : low ≤ n ∧ n ≤ high) (short : n < 100)
    (rest : List Char) : field low high ((padded 2 n).toList ++ rest) = .ok (n, rest) := by
  have fits : n ≤ greatest := Nat.le_trans (Nat.le_of_lt short) (by decide)
  have read : number (some 2) ((padded 2 n).toList ++ rest) = .ok (n, rest) :=
    number_padded fits fun count exact => .inl (by rw [exact (by decide) short])
  rw [field, bind_eq (blanks_padded 2 n rest), bind_eq read]
  simp only [inside, decide_true, Bool.and_self, if_true]
  rfl

/-- A year without a sign is the number of up to four digits. -/
theorem year_unsigned {chars : List Char} (plain : ∀ c ∈ chars.head?, Text.isBlank c = false)
    (minus : ∀ more, chars ≠ '-' :: more) (plus : ∀ more, chars ≠ '+' :: more) {n : Nat}
    {rest : List Char} (read : number (some 4) chars = .ok (n, rest)) (fits : n ≤ 2147483647) :
    year chars = .ok ((n : Int), rest) := by
  have got : (get : Reader (List Char)) chars = .ok (chars, chars) := rfl
  have range : -2147483648 ≤ (n : Int) ∧ (n : Int) ≤ 2147483647 := by omega
  rw [year, bind_eq (blanks_eq plain), bind_eq got]
  split
  · exact absurd rfl (minus _)
  · exact absurd rfl (plus _)
  · rw [bind_eq read]
    exact congrFun (if_pos range) _

/-- A year with a sign is the number of all digits behind it. -/
theorem year_signed {sign : Char} (signs : sign = '-' ∨ sign = '+') {chars rest : List Char}
    {n : Nat} (read : number none chars = .ok (n, rest)) (fits : n ≤ 2147483647) :
    year (sign :: chars) = .ok (if sign = '-' then -(n : Int) else n, rest) := by
  have plain : Text.isBlank sign = false := by
    rcases signs with rfl | rfl <;> decide
  have got : (get : Reader (List Char)) (sign :: chars) = .ok (sign :: chars, sign :: chars) := rfl
  have behind : (set chars : Reader Unit) (sign :: chars) = .ok ((), chars) := rfl
  rw [year, bind_eq (blanks_eq (by simp [plain])), bind_eq got]
  rcases signs with rfl | rfl
  · have range : -2147483648 ≤ -(n : Int) ∧ -(n : Int) ≤ 2147483647 := by omega
    change (set chars >>= fun _ => _ : Reader Int) _ = _
    rw [bind_eq behind, bind_eq read]
    exact congrFun (if_pos range) _
  · have range : -2147483648 ≤ (n : Int) ∧ (n : Int) ≤ 2147483647 := by omega
    change (set chars >>= fun _ => _ : Reader Int) _ = _
    rw [bind_eq behind, bind_eq read]
    exact congrFun (if_pos range) _

/-- A year of the calendar is read as it is printed. -/
theorem year_text {n : Int} (low : firstYear ≤ n) (high : n ≤ lastYear) (rest : List Char) :
    year ((yearText n).toList ++ '-' :: rest) = .ok (n, '-' :: rest) := by
  rw [firstYear] at low
  rw [lastYear] at high
  have bound : n.natAbs ≤ 2147483647 := by omega
  have fits : n.natAbs ≤ greatest := Nat.le_trans bound (by decide)
  unfold yearText
  split
  · next four =>
    have short : n.natAbs < 10 ^ 4 := by omega
    have read : number (some 4) ((padded 4 n.natAbs).toList ++ '-' :: rest) =
        .ok (n.natAbs, '-' :: rest) :=
      number_padded fits fun count exact => .inl (by rw [exact (by decide) short])
    have same : (n.natAbs : Int) = n := by omega
    obtain ⟨digit, more, small, begins⟩ := exists_head_padded 4 n.natAbs ('-' :: rest)
    obtain ⟨isDigit, -, plain⟩ := digitChar_facts small
    rw [begins] at read ⊢
    have unsigned {sign : Char} (sort : sign.isDigit = false) (others : List Char) :
        Nat.digitChar digit :: more ≠ sign :: others := by
      intro equal
      rw [(List.cons.inj equal).1, sort] at isDigit
      exact Bool.noConfusion isDigit
    rw [year_unsigned (by simpa using plain) (unsigned (by decide)) (unsigned (by decide)) read
      bound, same]
  · have read : number none ((padded 4 n.natAbs).toList ++ '-' :: rest) =
        .ok (n.natAbs, '-' :: rest) := by
      refine number_padded fits fun count exact => .inr ⟨by simp, fun c found => ?_⟩
      obtain rfl := Option.some.inj found
      decide
    by_cases negative : n < 0
    · have same : -(n.natAbs : Int) = n := by omega
      have text : ("-" ++ padded 4 n.natAbs).toList ++ '-' :: rest =
          '-' :: ((padded 4 n.natAbs).toList ++ '-' :: rest) := by simp
      rw [if_pos negative, text, year_signed (.inl rfl) read bound, if_pos rfl, same]
    · have same : (n.natAbs : Int) = n := by omega
      have text : ("+" ++ padded 4 n.natAbs).toList ++ '-' :: rest =
          '+' :: ((padded 4 n.natAbs).toList ++ '-' :: rest) := by simp
      rw [if_neg negative, text, year_signed (.inr rfl) read bound, if_neg (by decide), same]

/-- A fraction of up to nine digits counts as nanoseconds. -/
theorem fraction_padded {padding n : Nat} (positive : 0 < padding) (most : padding ≤ 9)
    (short : n < 10 ^ padding) :
    fraction ('.' :: ((padded padding n).toList ++ ['Z'])) =
      .ok (n * 10 ^ (9 - padding), ['Z']) := by
  let chars := (padded padding n).toList ++ ['Z']
  obtain ⟨digits, -, -, -, same, length⟩ := exists_padded padding n
  have count : chars.length - 1 = padding := by
    simp only [chars, same, List.length_append, List.length_map, length positive short,
      List.length_singleton]
    omega
  have fits : n ≤ greatest := by
    have power : 10 ^ padding ≤ 10 ^ 9 := Nat.pow_le_pow_right (by decide) most
    exact Nat.le_trans (Nat.le_of_lt (Nat.lt_of_lt_of_le short power)) (by decide)
  have read : number (some 9) chars = .ok (n, ['Z']) := by
    refine number_padded fits fun count exact => .inr ⟨fun left given => ?_, fun c found => ?_⟩
    · obtain rfl := Option.some.inj given
      rw [exact positive short]
      exact most
    · obtain rfl := Option.some.inj found
      decide
  have got : (get : Reader (List Char)) ('.' :: chars) = .ok ('.' :: chars, '.' :: chars) := rfl
  have behind : (set chars : Reader Unit) ('.' :: chars) = .ok ((), chars) := rfl
  have left : (get : Reader (List Char)) ['Z'] = .ok (['Z'], ['Z']) := rfl
  rw [fraction, bind_eq got]
  change (set chars >>= fun _ => _ : Reader Nat) _ = _
  rw [bind_eq behind, bind_eq read, bind_eq left]
  change Except.ok (n * 10 ^ (9 - (chars.length - 1)), ['Z']) = _
  rw [count]

/-- The fraction of a second is read as it is printed. -/
theorem fraction_text {nano : Nat} (below : nano < 1000000000) :
    fraction ((fractionText nano).toList ++ ['Z']) = .ok (nano, ['Z']) := by
  have pointed (padding n : Nat) : ("." ++ padded padding n).toList ++ ['Z'] =
      '.' :: ((padded padding n).toList ++ ['Z']) := by
    simp
  unfold fractionText
  split
  · next zero =>
    subst zero
    rfl
  · split
    · next milli =>
      have whole : nano / 1000000 * 10 ^ (9 - 3) = nano := by omega
      rw [pointed, fraction_padded (by decide) (by decide) (by omega), whole]
    · split
      · next micro =>
        have whole : nano / 1000 * 10 ^ (9 - 6) = nano := by omega
        rw [pointed, fraction_padded (by decide) (by decide) (by omega), whole]
      · rw [pointed, fraction_padded (by decide) (by decide) (by omega), Nat.sub_self, Nat.pow_zero,
          Nat.mul_one]

/-- A character that is asked for is taken. -/
theorem literal_eq (c : Char) (rest : List Char) : literal c (c :: rest) = .ok ((), rest) :=
  if_pos rfl

end Reader

/-- The characters of the text of an instant. -/
theorem Instant.toList_text (instant : Instant) :
    instant.text.toList =
      (yearText (Date.ofDays instant.day).year).toList ++
        '-' :: ((padded 2 (Date.ofDays instant.day).month).toList ++
        '-' :: ((padded 2 (Date.ofDays instant.day).day).toList ++
        'T' :: ((padded 2 (instant.second / 3600)).toList ++
        ':' :: ((padded 2 (instant.second / 60 % 60)).toList ++
        ':' :: ((padded 2 (instant.second % 60 + instant.nano / 1000000000)).toList ++
          ((fractionText (instant.nano % 1000000000)).toList ++ ['Z'])))))) := by
  simp [text]

/-- What a valid date is made of. -/
theorem Date.bounds_of_isValid {date : Date} (valid : date.isValid = true) :
    (firstYear ≤ date.year ∧ date.year ≤ lastYear) ∧ (1 ≤ date.month ∧ date.month ≤ 12) ∧
      1 ≤ date.day ∧ date.day ≤ 31 := by
  simp only [isValid, Bool.and_eq_true, decide_eq_true_eq] at valid
  obtain ⟨⟨⟨⟨⟨first, last⟩, january⟩, december⟩, begins⟩, ends⟩ := valid
  have longest : daysInMonth date.year date.month ≤ 31 := by
    unfold daysInMonth
    split <;> split <;> omega
  exact ⟨⟨first, last⟩, ⟨january, december⟩, begins, Nat.le_trans ends longest⟩

/-- The stamp of a valid instant is read as it is printed. -/
theorem Instant.Valid.stamp_text {instant : Instant} (valid : instant.Valid) :
    stamp instant.text.toList =
      .ok (⟨Date.ofDays instant.day, instant.second, instant.nano, 0⟩, []) := by
  obtain ⟨⟨low, high⟩, month, day⟩ :=
    Date.bounds_of_isValid (Date.isValid_ofDays valid.first valid.last)
  obtain ⟨first, last, second, nano⟩ := valid
  have hyphen (rest : List Char) : Reader.blanks ('-' :: rest) = .ok ((), '-' :: rest) :=
    Reader.blanks_eq (by simp; decide)
  have colon (rest : List Char) : Reader.blanks (':' :: rest) = .ok ((), ':' :: rest) :=
    Reader.blanks_eq (by simp; decide)
  have between (rest : List Char) : Reader.separator ('T' :: rest) = .ok ((), rest) := rfl
  have zone : Reader.blanks ['Z'] = .ok ((), ['Z']) := Reader.blanks_eq (by simp; decide)
  have utc : Reader.offset ['Z'] = .ok (0, []) := rfl
  have hour : instant.second / 3600 ≤ 23 := by omega
  have minute : instant.second / 60 % 60 ≤ 59 := by omega
  have leap : instant.second % 60 + instant.nano / 1000000000 ≤ 60 := by omega
  rw [toList_text, stamp, Reader.bind_eq (Reader.year_text low high _),
    Reader.bind_eq (hyphen _), Reader.bind_eq (Reader.literal_eq '-' _),
    Reader.bind_eq (Reader.field_padded month (by omega) _),
    Reader.bind_eq (hyphen _), Reader.bind_eq (Reader.literal_eq '-' _),
    Reader.bind_eq (Reader.field_padded day (by omega) _), Reader.bind_eq (between _),
    Reader.bind_eq (Reader.field_padded ⟨Nat.zero_le _, hour⟩ (by omega) _),
    Reader.bind_eq (colon _), Reader.bind_eq (Reader.literal_eq ':' _),
    Reader.bind_eq (Reader.field_padded ⟨Nat.zero_le _, minute⟩ (by omega) _),
    Reader.bind_eq (colon _), Reader.bind_eq (Reader.literal_eq ':' _),
    Reader.bind_eq (Reader.field_padded ⟨Nat.zero_le _, leap⟩ (by omega) _),
    Reader.bind_eq (Reader.fraction_text (Nat.mod_lt _ (by decide))),
    Reader.bind_eq zone, Reader.bind_eq utc]
  -- The leap second is second 60, which is the second before it with all nanoseconds of a second.
  have seconds : instant.second / 3600 * 3600 + instant.second / 60 % 60 * 60 +
      (instant.second % 60 + instant.nano / 1000000000 -
        (instant.second % 60 + instant.nano / 1000000000) / 60) = instant.second := by
    omega
  have nanos : instant.nano % 1000000000 +
      (instant.second % 60 + instant.nano / 1000000000) / 60 * 1000000000 = instant.nano := by
    omega
  have nothing : Reader.blanks [] = .ok ((), []) := rfl
  have got : (get : Reader (List Char)) [] = .ok ([], []) := rfl
  rw [Reader.bind_eq nothing, Reader.bind_eq got]
  simp only [List.isEmpty_nil, if_true, seconds, nanos]
  rfl

/-- An instant of the calendar is read as it is printed. -/
theorem Instant.Valid.readable {instant : Instant} (valid : instant.Valid) :
    Instant.parse instant.text = .ok instant := by
  have calendar := Date.isValid_ofDays valid.first valid.last
  have days := Date.toDays_ofDays instant.day
  have second := valid.second
  have sameDay : ((instant.second : Int) - 0) / 86400 = 0 := by omega
  have sameSecond : (((instant.second : Int) - 0) % 86400).toNat = instant.second := by omega
  have inside : firstDay ≤ instant.day + 0 ∧ instant.day + 0 ≤ lastDay := by
    rw [Int.add_zero]
    exact ⟨valid.first, valid.last⟩
  rw [parse]
  change (stamp instant.text.toList >>= fun read => read.1.instant) = _
  rw [valid.stamp_text]
  change Stamp.instant _ = _
  simp only [Stamp.instant, calendar, days, sameDay, sameSecond, if_pos inside]
  simp

end HealthLedger.Time
