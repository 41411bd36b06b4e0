import HealthLedger.Json.Tree.Scan
import HealthLedger.Proofs.Json.Sendable

/-!
# Trees that were scanned

Whoever can read a leaf of a scanned tree can also pass over it, since the machine that looks for
the end of a string allows more than the one that gathers the string (`scan_passable`). So a
scanned tree that can be read can be passed over (`Tree.Passable.skip`). A tree is distinct if no
object in it has two members of the same name, as far as names can be read. The tree of a value
that was sent is distinct, since the names of its members increase (`Tree.Says.distinct`).
-/

namespace HealthLedger.Json

/-- The names in the rest of an object that can be read, in text order. -/
def Entries.names : Entries → List String
  | .member _ key _ rest => key.reading.toOption.toList ++ rest.names
  | _ => []

mutual

/-- No object in the tree has two members of the same name. -/
def Tree.Distinct : Tree → Prop
  | .array _ items => items.Distinct
  | .object _ entries => entries.names.Nodup ∧ entries.Distinct
  | _ => True

/-- No object in the rest of the array has two members of the same name. -/
def Items.Distinct : Items → Prop
  | .item value rest => value.Distinct ∧ rest.Distinct
  | _ => True

/-- No object within the rest of the object has two members of the same name. -/
def Entries.Distinct : Entries → Prop
  | .member _ _ value rest => value.Distinct ∧ rest.Distinct
  | _ => True

end

/-- The members that are read have the names that can be read. -/
theorem Entries.names_of_read {entries : Entries} {room : Nat} {members : Members}
    (given : entries.read room = .ok members) : entries.names = members.map (·.1) := by
  induction members generalizing entries with
  | nil =>
    cases Entries.reads_of_read given
    rfl
  | cons member others ih =>
    cases Entries.reads_of_read given with
    | member named givenValue givenMore =>
      rw [names, named, ih givenMore]
      rfl

mutual

/-- A tree that says a value that can be sent is distinct. -/
theorem Tree.Says.distinct {tree : Tree} {value : Value} (said : tree.Says value) {room : Nat}
    (sendable : value.Sendable room) : tree.Distinct := by
  cases said with
  | null => trivial
  | bool => trivial
  | number => trivial
  | string => trivial
  | array said => exact said.distinct sendable.2
  | object said =>
    obtain ⟨-, increasing, inside⟩ := sendable
    refine ⟨?_, said.distinct inside⟩
    rw [Entries.names_of_read (said.read inside)]
    exact increasing.nodup

/-- The rest of an array that says values that can be sent is distinct. -/
theorem Items.Says.distinct {items : Items} {values : List Value} (said : items.Says values)
    {room : Nat} (sendable : SendableItems room values) : items.Distinct := by
  cases said with
  | done => trivial
  | item first others => exact ⟨first.distinct sendable.1, others.distinct sendable.2⟩

/-- The rest of an object that says members that can be sent is distinct. -/
theorem Entries.Says.distinct {entries : Entries} {members : Members}
    (said : entries.Says members) {room : Nat} (sendable : SendableMembers room members) :
    entries.Distinct := by
  cases said with
  | done => trivial
  | member first others => exact ⟨first.distinct sendable.1, others.distinct sendable.2⟩

end

/-- A skipper finds nothing wrong where a reader finds nothing wrong. -/
def Lenient {α : Type} (reading : Except Fault α) (skipping : Option Fault) : Prop :=
  ∀ result, reading = .ok result → skipping = none

/-- What can be read is passed over by a lenient skipper. -/
theorem Lenient.passOver {α : Type} {reading : Except Fault α} {skipping : Option Fault}
    (lenient : Lenient reading skipping) {result : α} (read : reading = .ok result) :
    passOver skipping = .ok () := by
  rw [lenient result read]
  rfl

mutual

/-- Whoever can read a leaf of the tree can pass over it. -/
def Tree.Passable : Tree → Prop
  | .number _ _ reading skipping => Lenient reading skipping
  | .string _ _ reading skipping => Lenient reading skipping
  | .array _ items => items.Passable
  | .object _ entries => entries.Passable
  | _ => True

/-- Whoever can read a leaf of the rest of the array can pass over it. -/
def Items.Passable : Items → Prop
  | .item value rest => value.Passable ∧ rest.Passable
  | _ => True

/-- Whoever can read a leaf or a key of the rest of the object can pass over it. -/
def Entries.Passable : Entries → Prop
  | .member _ key value rest =>
    Lenient key.reading key.skipping ∧ value.Passable ∧ rest.Passable
  | _ => True

end

mutual

/-- A tree that can be read can be passed over. -/
theorem Tree.Passable.skip {tree : Tree} (passable : tree.Passable) {room : Nat} {value : Value}
    (given : tree.read room = .ok value) : tree.skip = .ok () := by
  cases Tree.reads_of_read given with
  | null => rfl
  | bool => rfl
  | number => exact Lenient.passOver passable rfl
  | string => exact Lenient.passOver passable rfl
  | array _ givenItems => exact Items.Passable.skip passable givenItems
  | object _ givenMembers => exact Entries.Passable.skip passable givenMembers

/-- The rest of an array that can be read can be passed over. -/
theorem Items.Passable.skip {items : Items} (passable : items.Passable) {room : Nat}
    {values : List Value} (given : items.read room = .ok values) : items.skip = .ok () := by
  cases Items.reads_of_read given with
  | done => rfl
  | item first others =>
    rw [Items.skip]
    exact bind_eq_ok_iff.2 ⟨(), Tree.Passable.skip passable.1 first,
      Items.Passable.skip passable.2 others⟩

/-- The rest of an object that can be read can be passed over. -/
theorem Entries.Passable.skip {entries : Entries} (passable : entries.Passable) {room : Nat}
    {members : Members} (given : entries.read room = .ok members) : entries.skip = .ok () := by
  cases Entries.reads_of_read given with
  | done => rfl
  | member named first others =>
    obtain ⟨readable, inner, further⟩ := passable
    rw [Entries.skip]
    exact bind_eq_ok_iff.2 ⟨(), Lenient.passOver readable named,
      bind_eq_ok_iff.2 ⟨(), Tree.Passable.skip inner first,
        Entries.Passable.skip further others⟩⟩

end

/-- What a skipper expects where a reader of the same string expects something. To him the two
halves of a surrogate pair are two escapes. -/
def StringState.passing : StringState → SkipState
  | .plain => .plain
  | .escape => .escape
  | .hex _ count value => .hex count value.isSome
  | .secondBackslash _ => .plain
  | .secondLetter _ => .escape

/-- A hexadecimal digit continues a good value. -/
theorem isSome_addHexDigit (value : Option Nat) (byte : UInt8) :
    (addHexDigit value byte).isSome = (value.isSome && (hexDigitOf? byte).isSome) := by
  cases value <;> simp [addHexDigit]

/-- Whatever a reader of the text expects at these bytes, a skipper finds the end of the string. -/
def Skippable (text : String) (offset : Nat) (bytes : List UInt8) : Prop :=
  ∀ (state : StringState) (gathered : List UInt8),
    readString state offset gathered bytes = .ok text →
      ∃ after, skipString state.passing offset bytes = .ok after

section Skipping

variable {text : String} {offset : Nat} {byte : UInt8} {rest gathered : List UInt8}

/-- A character that a reader takes as it is is passed over. -/
theorem Skippable.plain (next : Skippable text (offset + 1) rest)
    (read : readString .plain offset gathered (byte :: rest) = .ok text) :
    ∃ after, skipString .plain offset (byte :: rest) = .ok after := by
  simp only [readString] at read
  simp only [skipString]
  split
  · exact ⟨_, rfl⟩
  · next notQuote =>
    rw [if_neg notQuote] at read
    split
    · next backslash =>
      rw [if_pos backslash] at read
      exact next _ _ read
    · next notBackslash =>
      rw [if_neg notBackslash] at read
      split
      · next control =>
        rw [if_pos control] at read
        contradiction
      · next printable =>
        rw [if_neg printable] at read
        exact next _ _ read

/-- The letter of an escape that a reader knows is passed over. -/
theorem Skippable.escape (next : Skippable text (offset + 1) rest)
    (read : readString .escape offset gathered (byte :: rest) = .ok text) :
    ∃ after, skipString .escape offset (byte :: rest) = .ok after := by
  simp only [readString] at read
  simp only [skipString]
  cases meant : escapeByte? byte with
  | some other =>
    rw [meant] at read
    exact next _ _ read
  | none =>
    rw [meant] at read
    simp only at read
    simp only [Option.isSome_none, Bool.false_eq_true, if_false]
    split
    · next letter =>
      rw [if_pos letter] at read
      exact next _ _ read
    · next other =>
      rw [if_neg other] at read
      contradiction

/-- A hexadecimal digit is passed over, and so is the last one if a reader makes a character of
the digits. -/
theorem Skippable.hex {lead : Option Nat} {count : Nat} {value : Option Nat}
    (next : Skippable text (offset + 1) rest)
    (read : readString (.hex lead count value) offset gathered (byte :: rest) = .ok text) :
    ∃ after, skipString (.hex count value.isSome) offset (byte :: rest) = .ok after := by
  simp only [readString] at read
  simp only [skipString, ← isSome_addHexDigit]
  split
  · next more =>
    rw [if_pos more] at read
    exact next _ _ read
  · next last =>
    rw [if_neg last] at read
    split at read
    · contradiction
    · next good =>
      rw [good]
      split at read
      · contradiction
      · split at read
        · exact next _ _ read
        · exact next _ _ read
    · next good =>
      rw [good]
      split at read
      · exact next _ _ read
      · contradiction

/-- The backslash before the second half of a surrogate pair is passed over as that of an escape. -/
theorem Skippable.secondBackslash {lead : Nat} (next : Skippable text (offset + 1) rest)
    (read : readString (.secondBackslash lead) offset gathered (byte :: rest) = .ok text) :
    ∃ after, skipString .plain offset (byte :: rest) = .ok after := by
  simp only [readString] at read
  split at read
  · next backslash =>
    have notQuote : ¬(byte == byteOf '"') = true := by
      rw [beq_iff_eq.1 backslash]
      decide
    simp only [skipString, if_neg notQuote, if_pos backslash]
    exact next _ _ read
  · contradiction

/-- The letter before the second half of a surrogate pair is passed over as that of an escape. -/
theorem Skippable.secondLetter {lead : Nat} (next : Skippable text (offset + 1) rest)
    (read : readString (.secondLetter lead) offset gathered (byte :: rest) = .ok text) :
    ∃ after, skipString .escape offset (byte :: rest) = .ok after := by
  simp only [readString] at read
  split at read
  · next letter =>
    have noOther : ¬(escapeByte? byte).isSome = true := by
      rw [beq_iff_eq.1 letter]
      decide
    simp only [skipString, if_neg noOther, if_pos letter]
    exact next _ _ read
  · contradiction

end Skipping

/-- A skipper finds the end of a string that a reader can read. -/
theorem skippable (text : String) (offset : Nat) (bytes : List UInt8) :
    Skippable text offset bytes := by
  intro state gathered read
  induction bytes generalizing state offset gathered with
  | nil => contradiction
  | cons byte rest ih =>
    have next : Skippable text (offset + 1) rest := ih (offset + 1)
    cases state with
    | plain => exact next.plain read
    | escape => exact next.escape read
    | hex lead count value => exact next.hex read
    | secondBackslash lead => exact next.secondBackslash read
    | secondLetter lead => exact next.secondLetter read

/-- Whoever can read a scanned string can pass over it. -/
theorem scanString_lenient (cursor : Cursor) :
    Lenient (scanString cursor).reading (scanString cursor).skipping := by
  intro text read
  obtain ⟨after, passed⟩ := skippable text _ _ _ _ read
  have found : (scanString cursor).after = .ok after := passed
  rw [ScannedString.skipping, found]

/-- Whoever can read the numeral can pass over it. -/
def ScannedNumber.IsLenient (scanned : ScannedNumber) : Prop :=
  Lenient scanned.reading scanned.skipping

/-- Nobody can read a number that is bad. -/
theorem ScannedNumber.bad_lenient (after : Cursor) (reading skipping : Fault) :
    (bad after reading skipping).IsLenient := by
  intro number read
  contradiction

/-- Everybody can pass over a complete numeral. -/
theorem ScannedNumber.complete_lenient (after : Cursor) (numeral : Numeral) :
    (complete after numeral).IsLenient := fun _ _ => rfl

/-- Whoever can read a numeral with an exponent can pass over it. -/
theorem scanExponent_lenient (cursor : Cursor) (numeral : Numeral) :
    (scanExponent cursor numeral).IsLenient := by
  unfold scanExponent
  extract_lets negative place
  split
  · split
    · exact ScannedNumber.bad_lenient _ _ _
    · exact ScannedNumber.bad_lenient _ _ _
  · exact ScannedNumber.complete_lenient _ _

/-- Whoever can read a numeral can pass over it, whatever follows its whole digits. -/
theorem scanAfterWhole_lenient (cursor : Cursor) (numeral : Numeral) :
    (scanAfterWhole cursor numeral).IsLenient := by
  unfold scanAfterWhole
  dsimp only
  split
  · split
    · exact ScannedNumber.bad_lenient _ _ _
    · split
      · exact scanExponent_lenient _ _
      · exact ScannedNumber.complete_lenient _ _
  · split
    · exact scanExponent_lenient _ _
    · exact ScannedNumber.complete_lenient _ _

/-- Whoever can read a numeral can pass over it. -/
theorem scanNumber_lenient (cursor : Cursor) : (scanNumber cursor).IsLenient := by
  unfold scanNumber
  extract_lets negative place
  split
  · split
    · exact ScannedNumber.bad_lenient _ _ _
    · exact ScannedNumber.bad_lenient _ _ _
  · exact ScannedNumber.bad_lenient _ _ _
  · exact scanAfterWhole_lenient _ _

/-- A word is passable if what it makes is. -/
theorem scanWord_passable (cursor : Cursor) (letters : String) (made : Nat → Tree)
    (passable : ∀ stop, (made stop).Passable) :
    (scanWord cursor letters made).tree.Passable := by
  unfold scanWord
  split
  · exact passable _
  · trivial

mutual

/-- What is scanned in the place of a value is passable. -/
theorem scanValue_passable (fuel : Nat) (cursor : Cursor) :
    (scanValue fuel cursor).tree.Passable := by
  cases fuel with
  | zero => trivial
  | succ fuel =>
    unfold scanValue
    dsimp only
    split
    · trivial
    · split
      · exact scanWord_passable _ _ _ fun _ => trivial
      split
      · exact scanWord_passable _ _ _ fun _ => trivial
      split
      · exact scanWord_passable _ _ _ fun _ => trivial
      split
      · exact scanNumber_lenient _
      split
      · exact scanString_lenient _
      split
      · exact scanItems_passable fuel true _
      split
      · exact scanEntries_passable fuel true _
      · trivial

/-- The rest of a scanned array is passable. -/
theorem scanItems_passable (fuel : Nat) (first : Bool) (cursor : Cursor) :
    (scanItems fuel first cursor).tree.Passable := by
  cases fuel with
  | zero => trivial
  | succ fuel =>
    unfold scanItems
    dsimp only
    split
    · trivial
    split
    · trivial
    split
    · exact scanItem_passable fuel _
    split
    · split
      · trivial
      split
      · trivial
      · exact scanItem_passable fuel _
    · trivial

/-- A scanned item and the rest of its array are passable. -/
theorem scanItem_passable (fuel : Nat) (cursor : Cursor) :
    (scanItem fuel cursor).tree.Passable := by
  cases fuel with
  | zero => trivial
  | succ fuel =>
    have value := scanValue_passable fuel cursor
    unfold scanItem
    dsimp only
    split
    · exact ⟨value, trivial⟩
    · exact ⟨value, scanItems_passable fuel false _⟩

/-- The rest of a scanned object is passable. -/
theorem scanEntries_passable (fuel : Nat) (first : Bool) (cursor : Cursor) :
    (scanEntries fuel first cursor).tree.Passable := by
  cases fuel with
  | zero => trivial
  | succ fuel =>
    unfold scanEntries
    dsimp only
    split
    · trivial
    split
    · trivial
    split
    · exact scanEntry_passable fuel _ _
    split
    · split
      · trivial
      split
      · trivial
      · exact scanEntry_passable fuel _ _
    · trivial

/-- A scanned member and the rest of its object are passable. -/
theorem scanEntry_passable (fuel start : Nat) (cursor : Cursor) :
    (scanEntry fuel start cursor).tree.Passable := by
  cases fuel with
  | zero => trivial
  | succ fuel =>
    unfold scanEntry
    dsimp only
    split
    · split
      · trivial
      · split
        · split
          · exact ⟨fun _ _ => rfl, scanValue_passable fuel _, trivial⟩
          · exact ⟨fun _ _ => rfl, scanValue_passable fuel _, scanEntries_passable fuel false _⟩
        · trivial
    · trivial

end

/-- The tree of a text is passable. -/
theorem scan_passable (bytes : List UInt8) : (scan bytes).tree.Passable := by
  have value := scanValue_passable (3 * bytes.length + 3) ⟨0, bytes⟩
  unfold scan
  dsimp only
  split
  · exact value
  · exact value

end HealthLedger.Json
