import HealthLedger.Proofs.Results
import HealthLedger.Proofs.Time.Reading

/-!
# The instants that are read

However lenient the reader is, what it reads is an instant of the calendar
(`Instant.valid_of_parse`): every number was held against its range, a fraction of a second has less
nanoseconds than a second, and an offset has whole minutes, so that a leap second still ends a
minute when it is taken away. So whatever is read is read again from its own text
(`Instant.readable_of_parse`).
-/

namespace HealthLedger.Time

namespace Reader

variable {α β : Type}

/-- Whatever the reader takes from a text has a property. -/
def Yields (reader : Reader α) (property : α → Prop) : Prop :=
  ∀ chars value rest, reader chars = .ok (value, rest) → property value

/-- Whatever a reader takes. -/
theorem yields_any (reader : Reader α) : reader.Yields fun _ => True := fun _ _ _ _ => trivial

/-- What a reader in two steps takes, the second step takes behind what the first one takes. -/
theorem bind_eq_ok {reader : Reader α} {next : α → Reader β} {chars rest : List Char} {value : β}
    (read : (reader >>= next) chars = .ok (value, rest)) :
    ∃ first middle, reader chars = .ok (first, middle) ∧ next first middle = .ok (value, rest) := by
  obtain ⟨⟨first, middle⟩, taken, takenNext⟩ :=
    bind_eq_ok_iff.1 (show (reader chars >>= fun taken => next taken.1 taken.2) = _ from read)
  exact ⟨first, middle, taken, takenNext⟩

/-- A reader in two steps takes what the second step takes behind something that the first one
takes. -/
theorem Yields.bind {reader : Reader α} {next : α → Reader β} {first : α → Prop}
    {second : β → Prop} (yields : reader.Yields first)
    (yieldsNext : ∀ value, first value → (next value).Yields second) :
    (reader >>= next).Yields second := by
  intro chars value rest read
  obtain ⟨between, middle, taken, takenNext⟩ := bind_eq_ok read
  exact yieldsNext between (yields chars between middle taken) middle value rest takenNext

/-- A reader that takes nothing gives the value that it was given. -/
theorem yields_pure {value : α} {property : α → Prop} (holds : property value) :
    (pure value : Reader α).Yields property := by
  intro chars given rest read
  obtain ⟨rfl, -⟩ := Prod.mk.inj (Except.ok.inj read)
  exact holds

/-- A reader that fails takes nothing. -/
theorem yields_fail (flaw : Flaw) (property : α → Prop) : (fail flaw : Reader α).Yields property :=
  fun _ _ _ read => nomatch read

/-- A field lies in its range. -/
theorem yields_field (low high : Nat) : (field low high).Yields fun n => low ≤ n ∧ n ≤ high := by
  refine (yields_any _).bind fun _ _ => (yields_any _).bind fun n _ => ?_
  split
  · next inside => exact yields_pure (by simpa using inside)
  · exact yields_fail _ _

/-- Digits that are added to a number leave it below the next number with as many zeros, and are no
more than the width. -/
theorem digitsFrom_lt {n m : Nat} {width : Option Nat} {chars rest : List Char}
    (read : digitsFrom n width chars = .ok (m, rest)) :
    ∃ count, chars.length = rest.length + count ∧ m < (n + 1) * 10 ^ count ∧
      ∀ most ∈ width, count ≤ most := by
  fun_induction digitsFrom n width chars with
  | case1 n width =>
    obtain ⟨rfl, rfl⟩ := Prod.mk.inj (Except.ok.inj read)
    exact ⟨0, rfl, by omega, fun _ _ => Nat.zero_le _⟩
  | case2 => contradiction
  | case3 n width c others goesOn larger inside ih =>
    obtain ⟨count, length, below, enough⟩ := ih read
    simp only [Bool.and_eq_true, Char.isDigit, decide_eq_true_eq, bne_iff_ne] at goesOn
    obtain ⟨⟨-, nine⟩, spare⟩ := goesOn
    have digit : c.toNat ≤ 57 := nine
    refine ⟨count + 1, ?_, ?_, fun most given => ?_⟩
    · rw [List.length_cons]
      omega
    · calc m < (larger + 1) * 10 ^ count := below
        _ ≤ (n + 1) * 10 * 10 ^ count := Nat.mul_le_mul_right _ (by omega)
        _ = (n + 1) * 10 ^ (count + 1) := by rw [Nat.mul_assoc, Nat.pow_succ']
    · have less := enough (most - 1) (by simp [Option.mem_def.1 given])
      obtain rfl := Option.mem_def.1 given
      have positive : most ≠ 0 := fun zero => spare (by rw [zero])
      omega
  | case4 n width c others =>
    obtain ⟨rfl, rfl⟩ := Prod.mk.inj (Except.ok.inj read)
    exact ⟨0, rfl, by omega, fun _ _ => Nat.zero_le _⟩

/-- A number of up to nine digits has no more digits than were taken. -/
theorem number_lt {chars rest : List Char} {n : Nat}
    (read : number (some 9) chars = .ok (n, rest)) :
    chars.length - rest.length ≤ 9 ∧ n < 10 ^ (chars.length - rest.length) := by
  cases chars with
  | nil => contradiction
  | cons c others =>
    simp only [number] at read
    split at read
    · obtain ⟨count, length, below, enough⟩ := digitsFrom_lt read
      have taken : (c :: others).length - rest.length = count := by omega
      rw [taken]
      exact ⟨enough 9 rfl, by simpa using below⟩
    · contradiction

/-- A fraction of a second has less nanoseconds than a second. -/
theorem yields_fraction : fraction.Yields (· < 1000000000) := by
  intro chars value rest read
  unfold fraction at read
  obtain ⟨begins, again, got, taken⟩ := bind_eq_ok read
  split at taken
  · next digits =>
    obtain ⟨_, behind, moved, takenDigits⟩ := bind_eq_ok taken
    obtain ⟨-, rfl⟩ := Prod.mk.inj (Except.ok.inj moved)
    obtain ⟨n, middle, number, takenRest⟩ := bind_eq_ok takenDigits
    obtain ⟨_, _, gotAgain, left⟩ := bind_eq_ok takenRest
    obtain ⟨rfl, rfl⟩ := Prod.mk.inj (Except.ok.inj gotAgain)
    obtain ⟨_, _, -, last⟩ := bind_eq_ok left
    obtain ⟨rfl, -⟩ := Prod.mk.inj (Except.ok.inj last)
    obtain ⟨most, below⟩ := number_lt number
    generalize digits.length - middle.length = count at most below ⊢
    calc n * 10 ^ (9 - count) < 10 ^ count * 10 ^ (9 - count) :=
          Nat.mul_lt_mul_of_pos_right below (Nat.pow_pos (by decide))
      _ = 10 ^ 9 := by rw [← Nat.pow_add, Nat.add_sub_cancel' most]
  · obtain ⟨rfl, -⟩ := Prod.mk.inj (Except.ok.inj taken)
    decide

/-- An offset with a sign has whole minutes. -/
theorem yields_signed : offset.signed.Yields (60 ∣ ·) := by
  refine (yields_any _).bind fun negative _ => (yields_any _).bind fun hours _ =>
    (yields_any _).bind fun _ _ => (yields_any _).bind fun minutes _ => yields_pure ?_
  split <;> omega

/-- An offset has whole minutes. -/
theorem yields_offset : offset.Yields (60 ∣ ·) := by
  refine (yields_any _).bind fun chars _ => ?_
  have zero (rest : List Char) :
      (do set rest; pure 0 : Reader Int).Yields (60 ∣ ·) :=
    (yields_any _).bind fun _ _ => yields_pure (Int.dvd_zero 60)
  split
  · exact zero _
  · exact zero _
  · split
    · exact zero _
    · exact yields_signed
  · exact yields_signed

end Reader

/-- The second of the day is one of the day, and the nanoseconds are within it or within a leap
second that ends a minute. The offset has whole minutes. -/
structure Stamp.Sane (stamp : Stamp) : Prop where
  /-- The day has the second. -/
  second : stamp.second < 86400
  /-- The second has the nanoseconds, or is followed by a leap second. -/
  nano : stamp.nano < 1000000000 ∨ (stamp.second % 60 = 59 ∧ stamp.nano < 2000000000)
  /-- The offset has whole minutes. -/
  offset : 60 ∣ stamp.offset

/-- The numbers of a stamp are within their ranges. -/
theorem yields_stamp : stamp.Yields Stamp.Sane := by
  refine (Reader.yields_any _).bind fun year _ => (Reader.yields_any _).bind fun _ _ =>
    (Reader.yields_any _).bind fun _ _ => (Reader.yields_any _).bind fun month _ =>
    (Reader.yields_any _).bind fun _ _ => (Reader.yields_any _).bind fun _ _ =>
    (Reader.yields_any _).bind fun day _ => (Reader.yields_any _).bind fun _ _ =>
    (Reader.yields_field 0 23).bind fun hour hours => (Reader.yields_any _).bind fun _ _ =>
    (Reader.yields_any _).bind fun _ _ => (Reader.yields_field 0 59).bind fun minute minutes =>
    (Reader.yields_any _).bind fun _ _ => (Reader.yields_any _).bind fun _ _ =>
    (Reader.yields_field 0 60).bind fun second seconds =>
    Reader.yields_fraction.bind fun nano nanos => (Reader.yields_any _).bind fun _ _ =>
    Reader.yields_offset.bind fun offset minutesOnly => (Reader.yields_any _).bind fun _ _ =>
    (Reader.yields_any _).bind fun rest _ => ?_
  have daily : hour * 3600 + minute * 60 + (second - second / 60) < 86400 := by omega
  have within : nano + second / 60 * 1000000000 < 1000000000 ∨
      (hour * 3600 + minute * 60 + (second - second / 60)) % 60 = 59 ∧
        nano + second / 60 * 1000000000 < 2000000000 := by
    omega
  have sane : Stamp.Sane ⟨⟨year, month, day⟩, _, _, offset⟩ := ⟨daily, within, minutesOnly⟩
  dsimp only
  split
  · exact Reader.yields_pure sane
  · exact (Reader.yields_fail _ fun _ => False).bind fun _ never => never.elim

/-- The instant of a stamp within its ranges is one of the calendar. -/
theorem Stamp.Sane.valid {stamp : Stamp} (sane : stamp.Sane) {instant : Instant}
    (meant : stamp.instant = .ok instant) : instant.Valid := by
  obtain ⟨second, nano, ⟨minutes, offset⟩⟩ := sane
  unfold Stamp.instant at meant
  split at meant
  · contradiction
  · split at meant
    · contradiction
    · simp only at meant
      split at meant
      · next inside =>
        obtain rfl := Except.ok.inj meant
        refine ⟨inside.1, inside.2, ?_, ?_⟩
        · show ((stamp.second - stamp.offset) % 86400).toNat < 86400
          omega
        · show stamp.nano < 1000000000 ∨
            ((stamp.second - stamp.offset) % 86400).toNat % 60 = 59 ∧ stamp.nano < 2000000000
          omega
      · contradiction

/-- Whatever is read is an instant of the calendar. -/
theorem Instant.valid_of_parse {text : String} {instant : Instant}
    (read : Instant.parse text = .ok instant) : instant.Valid := by
  obtain ⟨⟨stamp, rest⟩, stamped, meant⟩ := bind_eq_ok_iff.1 read
  exact (yields_stamp _ _ _ stamped).valid meant

/-- Whatever is read is read again from its own text. -/
theorem Instant.readable_of_parse {text : String} {instant : Instant}
    (read : Instant.parse text = .ok instant) : Instant.parse instant.text = .ok instant :=
  (Instant.valid_of_parse read).readable

end HealthLedger.Time
