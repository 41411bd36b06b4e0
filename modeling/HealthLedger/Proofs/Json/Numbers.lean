import HealthLedger.Proofs.Json.Sendable

/-!
# Numbers in their place

A number within an array or an object is followed by a comma or a closing bracket, and nothing
of that goes on with a number. So a number that is read when it stands alone is read as well
where it stands in a text (`scanNumber_readable`).
-/

namespace HealthLedger.Json

/-- Nothing follows a value, or something that ends it. -/
def Closed (rest : List UInt8) : Prop :=
  ∀ byte ∈ rest.head?, byte = byteOf ',' ∨ byte = byteOf ']' ∨ byte = byteOf '}'

/-- The end of the text ends a value. -/
theorem closed_nil : Closed [] := by simp [Closed]

/-- A comma or a closing bracket ends a value. -/
theorem closed_cons {byte : UInt8} (rest : List UInt8)
    (ends : byte = byteOf ',' ∨ byte = byteOf ']' ∨ byte = byteOf '}') : Closed (byte :: rest) := by
  intro first found
  obtain rfl := Option.some.inj found
  exact ends

/-- What is behind a place is followed by more in another text. -/
def Cursor.Extends (cursor other : Cursor) (rest : List UInt8) : Prop :=
  other.rest = cursor.rest ++ rest

/-- Something follows if a character is seen. -/
theorem Cursor.rest_ne_nil_of_sees {cursor : Cursor} {c : Char} (seen : cursor.sees c = true) :
    cursor.rest ≠ [] := by
  intro empty
  rw [Cursor.sees, empty] at seen
  contradiction

namespace Cursor.Extends

variable {cursor other : Cursor} {rest : List UInt8}

/-- A character that ends no value is seen in both texts or in none. -/
theorem sees (extends' : cursor.Extends other rest) (closed : Closed rest) {c : Char}
    (plain : byteOf c ≠ byteOf ',' ∧ byteOf c ≠ byteOf ']' ∧ byteOf c ≠ byteOf '}') :
    other.sees c = cursor.sees c := by
  rw [Cursor.sees, Cursor.sees, extends']
  cases cursor.rest with
  | cons byte more => rfl
  | nil =>
    cases rest with
    | nil => rfl
    | cons byte more =>
      have ends := closed byte rfl
      have different : byte ≠ byteOf c := by
        rintro rfl
        rcases ends with same | same | same
        · exact plain.1 same
        · exact plain.2.1 same
        · exact plain.2.2 same
      simpa using different

/-- The places behind the next byte, if there is one. -/
theorem next (extends' : cursor.Extends other rest) (some_byte : cursor.rest ≠ []) :
    cursor.next.Extends other.next rest := by
  unfold Cursor.Extends at extends' ⊢
  cases bytes : cursor.rest with
  | nil => exact absurd bytes some_byte
  | cons byte more =>
    rw [bytes, List.cons_append] at extends'
    simp [Cursor.next, bytes, extends']

/-- The places behind a sign, if there is one. -/
theorem skipSign (extends' : cursor.Extends other rest) (sign : Bool)
    (there : sign = true → cursor.rest ≠ []) :
    (if sign then cursor.next else cursor).Extends (if sign then other.next else other) rest := by
  cases sign with
  | true => exact extends'.next (there rfl)
  | false => exact extends'

/-- The same digits follow in both texts. -/
theorem digits (extends' : cursor.Extends other rest) (closed : Closed rest) :
    ∃ found after behind, cursor.digits = (found, after) ∧ other.digits = (found, behind) ∧
      after.Extends behind rest := by
  have none : rest.takeWhile (fun byte => (digitOf? byte).isSome) = [] := by
    cases rest with
    | nil => rfl
    | cons byte more =>
      rcases closed byte rfl with rfl | rfl | rfl <;> rfl
  have taken : other.rest.takeWhile (fun byte => (digitOf? byte).isSome) =
      cursor.rest.takeWhile fun byte => (digitOf? byte).isSome := by
    rw [extends', List.takeWhile_append, none, List.append_nil]
    split
    · next all => exact (List.takeWhile_sublist _).eq_of_length all |>.symm
    · rfl
  have length : ((cursor.rest.takeWhile fun byte => (digitOf? byte).isSome).filterMap
      digitOf?).length ≤ cursor.rest.length :=
    Nat.le_trans (List.length_filterMap_le _ _) (List.takeWhile_sublist _).length_le
  refine ⟨_, _, _, rfl, by rw [Cursor.digits, taken], ?_⟩
  rw [Cursor.Extends, Cursor.advance, Cursor.advance, extends',
    List.drop_append_of_le_length length]

end Cursor.Extends

/-- A number that is found in a text is found in another one, with more behind it. -/
def ScannedNumber.Extends (scanned other : ScannedNumber) (rest : List UInt8) : Prop :=
  ∀ number, scanned.reading = .ok number → scanned.skipping = none →
    other.reading = .ok number ∧ other.skipping = none ∧
      scanned.after.Extends other.after rest

namespace ScannedNumber.Extends

variable {cursor other : Cursor} {rest : List UInt8}

/-- A numeral that is no number says nothing. -/
theorem of_error {scanned : ScannedNumber} (wrong : ∀ number, scanned.reading ≠ .ok number)
    (found : ScannedNumber) : scanned.Extends found rest :=
  fun number read => absurd read (wrong number)

/-- Neither does one of two numerals that are no numbers. -/
theorem of_bad {p : Prop} [Decidable p] {after behind : Cursor}
    {reading skipping reading' skipping' : Fault} (found : ScannedNumber) :
    (if p then ScannedNumber.bad after reading skipping
      else .bad behind reading' skipping').Extends found rest := by
  refine of_error (fun number => ?_) found
  split
  · exact fun same => nomatch same
  · exact fun same => nomatch same

/-- A complete numeral is the same number in both texts. -/
theorem complete (extends' : cursor.Extends other rest) (numeral : Numeral) :
    (ScannedNumber.complete cursor numeral).Extends (.complete other numeral) rest := by
  intro number read _
  refine ⟨?_, rfl, extends'⟩
  simp only [ScannedNumber.complete] at read ⊢
  cases meant : numeral.number? with
  | none =>
    rw [meant] at read
    contradiction
  | some meaning =>
    rw [meant] at read
    exact read

/-- An exponent is the same in both texts. -/
theorem exponent (extends' : cursor.Extends other rest) (closed : Closed rest)
    (numeral : Numeral) :
    (scanExponent cursor numeral).Extends (scanExponent other numeral) rest := by
  have minus := extends'.sees closed (c := '-') (by decide)
  have plus := extends'.sees closed (c := '+') (by decide)
  have behind := extends'.skipSign (cursor.sees '-' || cursor.sees '+') fun seen => by
    rcases Bool.or_eq_true_iff.1 seen with seen | seen
    · exact Cursor.rest_ne_nil_of_sees seen
    · exact Cursor.rest_ne_nil_of_sees seen
  obtain ⟨found, after, later, digits, same, further⟩ := behind.digits closed
  unfold scanExponent
  simp only [minus, plus, digits, same]
  cases found with
  | nil => exact of_bad _
  | cons digit more => exact complete further _

/-- What follows the whole digits is the same in both texts. -/
theorem afterWhole (extends' : cursor.Extends other rest) (closed : Closed rest)
    (numeral : Numeral) :
    (scanAfterWhole cursor numeral).Extends (scanAfterWhole other numeral) rest := by
  have point := extends'.sees closed (c := '.') (by decide)
  have powers {left right : Cursor} (further : left.Extends right rest) :
      seesExponent right = seesExponent left := by
    rw [seesExponent, further.sees closed (by decide), further.sees closed (by decide)]
    rfl
  have power {left right : Cursor} (further : left.Extends right rest) (numeral : Numeral)
      (seen : seesExponent left = true) :
      (scanExponent left.next numeral).Extends (scanExponent right.next numeral) rest := by
    refine exponent (further.next ?_) closed numeral
    rcases Bool.or_eq_true_iff.1 seen with seen | seen
    · exact Cursor.rest_ne_nil_of_sees seen
    · exact Cursor.rest_ne_nil_of_sees seen
  unfold scanAfterWhole
  rw [point, powers extends']
  cases pointed : cursor.sees '.' with
  | true =>
    have behind := extends'.next (Cursor.rest_ne_nil_of_sees pointed)
    obtain ⟨found, after, later, digits, same, further⟩ := behind.digits closed
    simp only [if_true, digits, same]
    cases found with
    | nil =>
      refine of_error (fun number same => ?_) _
      simp only at same
      contradiction
    | cons digit more =>
      simp only [powers further]
      cases seen : seesExponent after with
      | true => exact power further _ seen
      | false => exact complete further _
  | false =>
    cases seen : seesExponent cursor with
    | true => exact power extends' _ seen
    | false => exact complete extends' _

/-- A number is the same in both texts. -/
theorem number (extends' : cursor.Extends other rest) (closed : Closed rest) :
    (scanNumber cursor).Extends (scanNumber other) rest := by
  have minus := extends'.sees closed (c := '-') (by decide)
  have behind := extends'.skipSign (cursor.sees '-') Cursor.rest_ne_nil_of_sees
  obtain ⟨found, after, later, digits, same, further⟩ := behind.digits closed
  unfold scanNumber
  simp only [minus, digits, same]
  match found with
  | [] => exact of_bad _
  | 0 :: _ :: _ =>
    refine of_error (fun number same => ?_) _
    simp only at same
    contradiction
  | [0] => exact afterWhole further closed _
  | (n + 1) :: more => exact afterWhole further closed _

end ScannedNumber.Extends

/-- A number that is read alone is read in front of what ends a value. -/
theorem scanNumber_readable {number : Number} (readable : number.Readable) (offset : Nat)
    {rest : List UInt8} (closed : Closed rest) :
    ∃ stop, scanNumber ⟨offset, Text.Utf8.encode number.text ++ rest⟩ =
      ⟨.ok number, none, ⟨stop, rest⟩⟩ := by
  have extends' : Cursor.Extends ⟨0, Text.Utf8.encode number.text⟩
      ⟨offset, Text.Utf8.encode number.text ++ rest⟩ rest := rfl
  obtain ⟨reading, skipping, whole⟩ := ScannedNumber.Extends.number extends' closed number
    readable.reading readable.skipping
  rw [Cursor.Extends, readable.whole, List.nil_append] at whole
  generalize scanNumber ⟨offset, Text.Utf8.encode number.text ++ rest⟩ = scanned at *
  obtain ⟨read, skipped, stop, behind⟩ := scanned
  exact ⟨stop, by simp_all⟩

/-- The text of a number that is read begins with a minus sign or a digit. -/
theorem head_of_readable {number : Number} (readable : number.Readable) :
    ∃ byte more, Text.Utf8.encode number.text = byte :: more ∧
      (byte = byteOf '-' ∨ (digitOf? byte).isSome) := by
  have reading := readable.reading
  cases bytes : Text.Utf8.encode number.text with
  | nil =>
    rw [bytes] at reading
    contradiction
  | cons byte more =>
    refine ⟨byte, more, rfl, ?_⟩
    rw [bytes] at reading
    by_cases minus : byte = byteOf '-'
    · exact .inl minus
    · by_cases digit : (digitOf? byte).isSome = true
      · exact .inr digit
      · have unsigned : Cursor.sees ⟨0, byte :: more⟩ '-' = false := by
          simpa [Cursor.sees] using minus
        have none : List.takeWhile (fun byte => (digitOf? byte).isSome) (byte :: more) = [] :=
          List.takeWhile_cons_of_neg digit
        simp only [scanNumber, unsigned, Bool.false_eq_true, if_false, Cursor.digits, none,
          List.filterMap_nil, List.isEmpty_cons] at reading
        contradiction

end HealthLedger.Json
