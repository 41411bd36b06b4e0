import HealthLedger.Proofs.Json.Numbers
import HealthLedger.Proofs.Json.Strings

/-!
# Reading back a printed value

A printed value is scanned from its first byte to its last, whatever ends it. The scanner takes
at most three steps for each byte, so that it never runs out of fuel. The tree of the text says
the value (`scan_text`), and so parsing the text of a value that can be sent gives the
value (`parse_text`).
-/

namespace HealthLedger.Json

/-- Blanks are not skipped where there are none. -/
theorem skipBlanks_eq_self {byte : UInt8} (visible : isSpaceByte byte = false) (offset : Nat)
    (more : List UInt8) : Cursor.skipBlanks ⟨offset, byte :: more⟩ = ⟨offset, byte :: more⟩ := by
  have none : List.takeWhile isSpaceByte (byte :: more) = [] := by
    rw [List.takeWhile_cons, visible]
    rfl
  rw [Cursor.skipBlanks, none]
  rfl

/-- A byte that may begin a value: neither a blank nor the end of an array or an object. -/
structure IsStart (byte : UInt8) : Prop where
  /-- The byte is no blank. -/
  visible : isSpaceByte byte = false
  /-- The byte does not end an array. -/
  bracket : byte ≠ byteOf ']'
  /-- The byte does not end an object. -/
  brace : byte ≠ byteOf '}'

/-- A digit begins a value. -/
theorem isStart_of_digit {byte : UInt8} (digit : (digitOf? byte).isSome = true) :
    IsStart byte := by
  have other : ∀ special : UInt8, (digitOf? special).isSome = false → byte ≠ special := by
    rintro special none rfl
    rw [none] at digit
    contradiction
  refine ⟨?_, other _ (by decide), other _ (by decide)⟩
  have space := other 0x20 (by decide)
  have line := other 0x0A (by decide)
  have tab := other 0x09 (by decide)
  have start := other 0x0D (by decide)
  simp [isSpaceByte, space, line, tab, start]

/-- The bytes of a text in front of others. -/
theorem encode_append (first second : String) :
    Text.Utf8.encode (first ++ second) = Text.Utf8.encode first ++ Text.Utf8.encode second := by
  rw [encode_eq, encode_eq, encode_eq, String.toList_append, bytesOf_append]

/-- The text of a value that can be sent begins with the first byte of a value. -/
theorem start_of_text {room : Nat} {value : Value} (sendable : value.Sendable room) :
    ∃ byte more, Text.Utf8.encode value.text = byte :: more ∧ IsStart byte := by
  cases value with
  | null => exact ⟨byteOf 'n', bytesOf "ull".toList, rfl, by decide, by decide, by decide⟩
  | bool value =>
    cases value with
    | true => exact ⟨byteOf 't', bytesOf "rue".toList, rfl, by decide, by decide, by decide⟩
    | false => exact ⟨byteOf 'f', bytesOf "alse".toList, rfl, by decide, by decide, by decide⟩
  | number number =>
    obtain ⟨byte, more, written, minus | digit⟩ := head_of_readable sendable
    · exact ⟨byte, more, written, by rw [minus]; decide, by rw [minus]; decide,
        by rw [minus]; decide⟩
    · exact ⟨byte, more, written, isStart_of_digit digit⟩
  | string text =>
    exact ⟨byteOf '"', _, encode_stringText text, by decide, by decide, by decide⟩
  | array items =>
    refine ⟨byteOf '[', bytesOf (Value.itemsText items ++ "]").toList, ?_, by decide, by decide,
      by decide⟩
    rw [Value.text, String.append_assoc, encode_append]
    rfl
  | object members =>
    refine ⟨byteOf '{', bytesOf (Value.membersText members ++ "\x7d").toList, ?_, by decide,
      by decide, by decide⟩
    rw [Value.text, String.append_assoc, encode_append]
    rfl

/-- The letters of a word are spelt. -/
theorem spell_letters {letters : List Char} (ascii : ∀ c ∈ letters, c.toNat < 0x80)
    (offset : Nat) (rest : List UInt8) :
    ∃ stop, Cursor.spell ⟨offset, bytesOf letters ++ rest⟩ letters = .ok ⟨stop, rest⟩ := by
  induction letters generalizing offset with
  | nil => exact ⟨offset, rfl⟩
  | cons c more ih =>
    obtain ⟨stop, others⟩ := ih (fun other found => ascii other (List.mem_cons_of_mem _ found))
      (offset + 1)
    refine ⟨stop, ?_⟩
    rw [bytesOf_ascii (ascii c List.mem_cons_self), List.cons_append, Cursor.spell]
    simp only [beq_self_eq_true, if_pos, Cursor.next, others]

/-- A word that is spelt is scanned. -/
theorem scanWord_letters (letters : String)
    (ascii : letters.toList.all (fun c => decide (c.toNat < 0x80)) = true)
    (first : UInt8) (made : Nat → Tree) (offset : Nat) (rest : List UInt8) :
    ∃ stop, scanWord ⟨offset, first :: (bytesOf letters.toList ++ rest)⟩ letters made =
      ⟨made stop, .ok ⟨stop, rest⟩⟩ := by
  have small : ∀ c ∈ letters.toList, c.toNat < 0x80 := fun c found =>
    of_decide_eq_true (List.all_eq_true.1 ascii c found)
  obtain ⟨stop, spelt⟩ := spell_letters small (offset + 1) rest
  refine ⟨stop, ?_⟩
  simp only [scanWord, Cursor.next, spelt]

/-- What scanning a text gives: a tree that says what the text was printed from, and the place
behind it. -/
def Scanned.Gives {α β : Type} (scanned : Scanned α) (said : α → β → Prop) (meant : β)
    (rest : List UInt8) : Prop :=
  ∃ tree stop, scanned = ⟨tree, .ok ⟨stop, rest⟩⟩ ∧ said tree meant

/-- Scanning the text of null gives null. -/
theorem scanValue_null (fuel offset : Nat) (rest : List UInt8) :
    (scanValue (fuel + 1) ⟨offset, Text.Utf8.encode Value.null.text ++ rest⟩).Gives Tree.Says
      .null rest := by
  obtain ⟨stop, scanned⟩ := scanWord_letters "ull" (by decide) (byteOf 'n')
    (.null offset) offset rest
  refine ⟨.null offset stop, stop, ?_, .null⟩
  change scanValue (fuel + 1) ⟨offset, byteOf 'n' :: (bytesOf "ull".toList ++ rest)⟩ = _
  rw [scanValue]
  simp only [skipBlanks_eq_self (show isSpaceByte (byteOf 'n') = false by decide),
    beq_self_eq_true, if_pos, scanned]

/-- Scanning the text of a truth value gives the truth value. -/
theorem scanValue_bool (value : Bool) (fuel offset : Nat) (rest : List UInt8) :
    (scanValue (fuel + 1) ⟨offset, Text.Utf8.encode (Value.bool value).text ++ rest⟩).Gives
      Tree.Says (.bool value) rest := by
  cases value with
  | true =>
    obtain ⟨stop, scanned⟩ := scanWord_letters "rue" (by decide) (byteOf 't')
      (.bool offset · true) offset rest
    refine ⟨.bool offset stop true, stop, ?_, .bool⟩
    change scanValue (fuel + 1) ⟨offset, byteOf 't' :: (bytesOf "rue".toList ++ rest)⟩ = _
    rw [scanValue]
    simp only [skipBlanks_eq_self (show isSpaceByte (byteOf 't') = false by decide),
      show (byteOf 't' == byteOf 'n') = false by decide, Bool.false_eq_true, if_false,
      beq_self_eq_true, if_pos, scanned]
  | false =>
    obtain ⟨stop, scanned⟩ := scanWord_letters "alse" (by decide) (byteOf 'f')
      (.bool offset · false) offset rest
    refine ⟨.bool offset stop false, stop, ?_, .bool⟩
    change scanValue (fuel + 1) ⟨offset, byteOf 'f' :: (bytesOf "alse".toList ++ rest)⟩ = _
    rw [scanValue]
    simp only [skipBlanks_eq_self (show isSpaceByte (byteOf 'f') = false by decide),
      show (byteOf 'f' == byteOf 'n') = false by decide,
      show (byteOf 'f' == byteOf 't') = false by decide, Bool.false_eq_true, if_false,
      beq_self_eq_true, if_pos, scanned]

/-- Scanning the text of a number gives the number. -/
theorem scanValue_number {number : Number} (readable : number.Readable) (fuel offset : Nat)
    {rest : List UInt8} (closed : Closed rest) :
    (scanValue (fuel + 1) ⟨offset, Text.Utf8.encode (Value.number number).text ++ rest⟩).Gives
      Tree.Says (.number number) rest := by
  obtain ⟨stop, scanned⟩ := scanNumber_readable readable offset closed
  obtain ⟨byte, more, written, first⟩ := head_of_readable readable
  refine ⟨.number offset stop (.ok number) none, stop, ?_, .number⟩
  have visible : isSpaceByte byte = false := by
    rcases first with rfl | digit
    · decide
    · exact (isStart_of_digit digit).visible
  have other : ∀ special : UInt8, (digitOf? special).isSome = false → special ≠ byteOf '-' →
      (byte == special) = false := by
    intro special none sign
    refine beq_eq_false_iff_ne.2 ?_
    rintro rfl
    rcases first with minus | digit
    · exact sign minus
    · rw [none] at digit
      contradiction
  have branch : (byte == byteOf '-' || (digitOf? byte).isSome) = true := by
    rcases first with rfl | digit
    · decide
    · rw [digit, Bool.or_true]
  change scanValue (fuel + 1) ⟨offset, Text.Utf8.encode number.text ++ rest⟩ = _
  rw [written, List.cons_append] at scanned ⊢
  rw [scanValue]
  simp only [skipBlanks_eq_self visible, other (byteOf 'n') (by decide) (by decide),
    other (byteOf 't') (by decide) (by decide), other (byteOf 'f') (by decide) (by decide),
    Bool.false_eq_true, if_false, branch, if_pos, scanned]

/-- Scanning the text of a string gives the string. -/
theorem scanValue_string (text : String) (fuel offset : Nat) (rest : List UInt8) :
    (scanValue (fuel + 1) ⟨offset, Text.Utf8.encode (Value.string text).text ++ rest⟩).Gives
      Tree.Says (.string text) rest := by
  obtain ⟨stop, scanned⟩ := scanString_printed text (offset + 1) rest
  refine ⟨.string offset stop (.ok text) none, stop, ?_, .string⟩
  change scanValue (fuel + 1) ⟨offset, Text.Utf8.encode (stringText text) ++ rest⟩ = _
  rw [encode_stringText, List.cons_append, List.append_assoc, List.singleton_append, scanValue]
  simp only [skipBlanks_eq_self (show isSpaceByte (byteOf '"') = false by decide),
    show (byteOf '"' == byteOf 'n') = false by decide,
    show (byteOf '"' == byteOf 't') = false by decide,
    show (byteOf '"' == byteOf 'f') = false by decide,
    show (byteOf '"' == byteOf '-' || (digitOf? (byteOf '"')).isSome) = false by decide,
    Bool.false_eq_true, if_false, beq_self_eq_true, if_pos, Cursor.next, scanned,
    ScannedString.stop, ScannedString.skipping]

/-- Scanning an array gives its items. -/
theorem scanValue_array {items : List Value} {fuel offset : Nat} {rest : List UInt8}
    (inside : (scanItems fuel true
      ⟨offset + 1, Text.Utf8.encode (Value.itemsText items) ++ byteOf ']' :: rest⟩).Gives
        Items.Says items rest) :
    (scanValue (fuel + 1) ⟨offset, Text.Utf8.encode (Value.array items).text ++ rest⟩).Gives
      Tree.Says (.array items) rest := by
  obtain ⟨tree, stop, scanned, said⟩ := inside
  refine ⟨.array offset tree, stop, ?_, .array said⟩
  rw [Value.text, encode_append, encode_append, List.append_assoc, List.append_assoc]
  change scanValue (fuel + 1)
    ⟨offset, byteOf '[' :: (Text.Utf8.encode (Value.itemsText items) ++ byteOf ']' :: rest)⟩ = _
  rw [scanValue]
  simp only [skipBlanks_eq_self (show isSpaceByte (byteOf '[') = false by decide),
    show (byteOf '[' == byteOf 'n') = false by decide,
    show (byteOf '[' == byteOf 't') = false by decide,
    show (byteOf '[' == byteOf 'f') = false by decide,
    show (byteOf '[' == byteOf '-' || (digitOf? (byteOf '[')).isSome) = false by decide,
    show (byteOf '[' == byteOf '"') = false by decide,
    Bool.false_eq_true, if_false, beq_self_eq_true, if_pos, Cursor.next, scanned]

/-- Scanning an object gives its members. -/
theorem scanValue_object {members : Members} {fuel offset : Nat} {rest : List UInt8}
    (inside : (scanEntries fuel true
      ⟨offset + 1, Text.Utf8.encode (Value.membersText members) ++ byteOf '}' :: rest⟩).Gives
        Entries.Says members rest) :
    (scanValue (fuel + 1) ⟨offset, Text.Utf8.encode (Value.object members).text ++ rest⟩).Gives
      Tree.Says (.object members) rest := by
  obtain ⟨tree, stop, scanned, said⟩ := inside
  refine ⟨.object offset tree, stop, ?_, .object said⟩
  rw [Value.text, encode_append, encode_append, List.append_assoc, List.append_assoc]
  change scanValue (fuel + 1)
    ⟨offset, byteOf '{' :: (Text.Utf8.encode (Value.membersText members) ++ byteOf '}' :: rest)⟩
      = _
  rw [scanValue]
  simp only [skipBlanks_eq_self (show isSpaceByte (byteOf '{') = false by decide),
    show (byteOf '{' == byteOf 'n') = false by decide,
    show (byteOf '{' == byteOf 't') = false by decide,
    show (byteOf '{' == byteOf 'f') = false by decide,
    show (byteOf '{' == byteOf '-' || (digitOf? (byteOf '{')).isSome) = false by decide,
    show (byteOf '{' == byteOf '"') = false by decide,
    show (byteOf '{' == byteOf '[') = false by decide,
    Bool.false_eq_true, if_false, beq_self_eq_true, if_pos, Cursor.next, scanned]

/-- Nothing follows the closing bracket of an array. -/
theorem scanItems_end (fuel offset : Nat) (first : Bool) (rest : List UInt8) :
    (scanItems (fuel + 1) first ⟨offset, byteOf ']' :: rest⟩).Gives Items.Says [] rest := by
  refine ⟨.done (offset + 1), offset + 1, ?_, .done⟩
  rw [scanItems]
  simp only [skipBlanks_eq_self (show isSpaceByte (byteOf ']') = false by decide),
    List.isEmpty_cons, Bool.false_eq_true, if_false, Cursor.sees, List.head?_cons,
    beq_self_eq_true, if_pos, Cursor.next]

/-- The first item follows the opening bracket. -/
theorem scanItems_first {byte : UInt8} (start : IsStart byte) (fuel offset : Nat)
    (more : List UInt8) :
    scanItems (fuel + 1) true ⟨offset, byte :: more⟩ = scanItem fuel ⟨offset, byte :: more⟩ := by
  have bracket : (some byte == some (byteOf ']')) = false := by simpa using start.bracket
  rw [scanItems]
  simp only [skipBlanks_eq_self start.visible, List.isEmpty_cons, Bool.false_eq_true, if_false,
    Cursor.sees, List.head?_cons, bracket, if_true]

/-- Another item follows a comma. -/
theorem scanItems_comma {byte : UInt8} (start : IsStart byte) (fuel offset : Nat)
    (more : List UInt8) :
    scanItems (fuel + 1) false ⟨offset, byteOf ',' :: byte :: more⟩ =
      scanItem fuel ⟨offset + 1, byte :: more⟩ := by
  have bracket : (some byte == some (byteOf ']')) = false := by simpa using start.bracket
  rw [scanItems]
  simp only [skipBlanks_eq_self (show isSpaceByte (byteOf ',') = false by decide),
    List.isEmpty_cons, Bool.false_eq_true, if_false, Cursor.sees, List.head?_cons,
    show (some (byteOf ',') == some (byteOf ']')) = false by decide, beq_self_eq_true, if_pos,
    Cursor.next, skipBlanks_eq_self start.visible, bracket]

/-- An item is followed by the others. -/
theorem scanItem_of_scanValue {fuel offset : Nat} {bytes others rest : List UInt8} {item : Value}
    {more : List Value} (first : (scanValue fuel ⟨offset, bytes⟩).Gives Tree.Says item others)
    (following : ∀ offset,
      (scanItems fuel false ⟨offset, others⟩).Gives Items.Says more rest) :
    (scanItem (fuel + 1) ⟨offset, bytes⟩).Gives Items.Says (item :: more) rest := by
  obtain ⟨tree, middle, scanned, said⟩ := first
  obtain ⟨trees, stop, scannedMore, saysMore⟩ := following middle
  refine ⟨.item tree trees, stop, ?_, .item said saysMore⟩
  rw [scanItem]
  simp only [scanned, scannedMore]

/-- Nothing follows the closing bracket of an object. -/
theorem scanEntries_end (fuel offset : Nat) (first : Bool) (rest : List UInt8) :
    (scanEntries (fuel + 1) first ⟨offset, byteOf '}' :: rest⟩).Gives Entries.Says [] rest := by
  refine ⟨.done offset (offset + 1), offset + 1, ?_, .done⟩
  rw [scanEntries]
  simp only [skipBlanks_eq_self (show isSpaceByte (byteOf '}') = false by decide),
    List.isEmpty_cons, Bool.false_eq_true, if_false, Cursor.sees, List.head?_cons,
    beq_self_eq_true, if_pos, Cursor.next]

/-- The first member follows the opening bracket. -/
theorem scanEntries_first (fuel offset : Nat) (more : List UInt8) :
    scanEntries (fuel + 1) true ⟨offset, byteOf '"' :: more⟩ =
      scanEntry fuel offset ⟨offset, byteOf '"' :: more⟩ := by
  rw [scanEntries]
  simp only [skipBlanks_eq_self (show isSpaceByte (byteOf '"') = false by decide),
    List.isEmpty_cons, Bool.false_eq_true, if_false, Cursor.sees, List.head?_cons,
    show (some (byteOf '"') == some (byteOf '}')) = false by decide, if_true]

/-- Another member follows a comma. -/
theorem scanEntries_comma (fuel offset : Nat) (more : List UInt8) :
    scanEntries (fuel + 1) false ⟨offset, byteOf ',' :: byteOf '"' :: more⟩ =
      scanEntry fuel offset ⟨offset + 1, byteOf '"' :: more⟩ := by
  rw [scanEntries]
  simp only [skipBlanks_eq_self (show isSpaceByte (byteOf ',') = false by decide),
    List.isEmpty_cons, Bool.false_eq_true, if_false, Cursor.sees, List.head?_cons,
    show (some (byteOf ',') == some (byteOf '}')) = false by decide, beq_self_eq_true, if_pos,
    Cursor.next, skipBlanks_eq_self (show isSpaceByte (byteOf '"') = false by decide),
    show (some (byteOf '"') == some (byteOf '}')) = false by decide]

/-- The bytes of a member: its key, a colon and its value. -/
def memberBytes (key : String) (value : Value) : List UInt8 :=
  Text.Utf8.encode (stringText key) ++ byteOf ':' :: Text.Utf8.encode value.text

/-- A member is followed by the others. -/
theorem scanEntry_of_scanValue {fuel start offset : Nat} {others rest : List UInt8} {key : String}
    {value : Value} {more : Members}
    (first : ∀ offset,
      (scanValue fuel ⟨offset, Text.Utf8.encode value.text ++ others⟩).Gives Tree.Says value others)
    (following : ∀ offset,
      (scanEntries fuel false ⟨offset, others⟩).Gives Entries.Says more rest) :
    (scanEntry (fuel + 1) start ⟨offset, memberBytes key value ++ others⟩).Gives Entries.Says
      ((key, value) :: more) rest := by
  obtain ⟨colon, scannedKey⟩ := scanString_printed key (offset + 1)
    (byteOf ':' :: (Text.Utf8.encode value.text ++ others))
  obtain ⟨tree, middle, scanned, said⟩ := first (colon + 1)
  obtain ⟨trees, stop, scannedMore, saysMore⟩ := following middle
  have bytes : memberBytes key value ++ others =
      byteOf '"' :: (bytesOf (key.toList.flatMap escapeChar) ++ byteOf '"' :: byteOf ':' ::
        (Text.Utf8.encode value.text ++ others)) := by
    simp [memberBytes, encode_stringText]
  refine ⟨.member start
    ⟨.ok key, none, colon, giveUpAt ⟨colon, byteOf ':' :: (Text.Utf8.encode value.text ++ others)⟩⟩
    tree trees, stop, ?_, .member said saysMore⟩
  rw [bytes, scanEntry]
  simp only [Cursor.sees, List.head?_cons, beq_self_eq_true, if_pos, Cursor.next, scannedKey,
    skipBlanks_eq_self (show isSpaceByte (byteOf ':') = false by decide), scanned, scannedMore,
    ScannedString.stop]

/-- Two items and more are separated by a comma. -/
theorem encode_itemsText_cons (item next : Value) (more : List Value) :
    Text.Utf8.encode (Value.itemsText (item :: next :: more)) =
      Text.Utf8.encode item.text ++ byteOf ',' ::
        Text.Utf8.encode (Value.itemsText (next :: more)) := by
  rw [Value.itemsText, encode_append, encode_append, List.append_assoc]
  rfl

/-- The bytes of one member. -/
theorem encode_membersText_singleton (key : String) (value : Value) :
    Text.Utf8.encode (Value.membersText [(key, value)]) = memberBytes key value := by
  rw [Value.membersText, encode_append, encode_append, List.append_assoc]
  rfl

/-- Two members and more are separated by a comma. -/
theorem encode_membersText_cons (key : String) (value : Value) (next : String × Value)
    (more : Members) :
    Text.Utf8.encode (Value.membersText ((key, value) :: next :: more)) =
      memberBytes key value ++ byteOf ',' ::
        Text.Utf8.encode (Value.membersText (next :: more)) := by
  rw [Value.membersText, encode_append, encode_append, encode_append, encode_append,
    List.append_assoc, List.append_assoc, List.append_assoc, memberBytes, List.append_assoc]
  rfl

/-- The text of some members begins with the quotation mark of the first key. -/
theorem encode_membersText_head (member : String × Value) (more : Members) :
    ∃ bytes, Text.Utf8.encode (Value.membersText (member :: more)) = byteOf '"' :: bytes := by
  obtain ⟨key, value⟩ := member
  cases more with
  | nil => exact ⟨_, by rw [encode_membersText_singleton, memberBytes, encode_stringText]; rfl⟩
  | cons next more =>
    exact ⟨_, by rw [encode_membersText_cons, memberBytes, encode_stringText]; rfl⟩

/-- The text of some items begins with the first byte of the first one. -/
theorem encode_itemsText_head {room : Nat} {item : Value} (sendable : item.Sendable room)
    (more : List Value) :
    ∃ byte bytes, Text.Utf8.encode (Value.itemsText (item :: more)) = byte :: bytes ∧
      IsStart byte := by
  obtain ⟨byte, bytes, written, start⟩ := start_of_text sendable
  cases more with
  | nil => exact ⟨byte, bytes, written, start⟩
  | cons next more =>
    rw [encode_itemsText_cons, written]
    exact ⟨byte, _, rfl, start⟩

/-- The brackets of an array are two bytes. -/
theorem length_encode_array (items : List Value) :
    (Text.Utf8.encode (Value.array items).text).length =
      (Text.Utf8.encode (Value.itemsText items)).length + 2 := by
  rw [Value.text, encode_append, encode_append, List.length_append, List.length_append,
    Nat.add_comm (Text.Utf8.encode "[").length]
  rfl

/-- The brackets of an object are two bytes. -/
theorem length_encode_object (members : Members) :
    (Text.Utf8.encode (Value.object members).text).length =
      (Text.Utf8.encode (Value.membersText members)).length + 2 := by
  rw [Value.text, encode_append, encode_append, List.length_append, List.length_append,
    Nat.add_comm (Text.Utf8.encode "\x7b").length]
  rfl

/-- With this fuel the text of whatever can be sent is scanned, if the fuel is enough for it. -/
structure Scans (fuel : Nat) : Prop where
  /-- A value is scanned. -/
  value : ∀ {room : Nat} (value : Value), value.Sendable room →
    3 * (Text.Utf8.encode value.text).length ≤ fuel → ∀ (offset : Nat) {rest : List UInt8},
      Closed rest → (scanValue fuel ⟨offset, Text.Utf8.encode value.text ++ rest⟩).Gives
        Tree.Says value rest
  /-- The items of an array are scanned. -/
  items : ∀ {room : Nat} (item : Value) (more : List Value),
    SendableItems room (item :: more) →
      3 * (Text.Utf8.encode (Value.itemsText (item :: more))).length + 2 ≤ fuel →
        ∀ (offset : Nat) (rest : List UInt8),
          (scanItem fuel ⟨offset, Text.Utf8.encode (Value.itemsText (item :: more)) ++
            byteOf ']' :: rest⟩).Gives Items.Says (item :: more) rest
  /-- The members of an object are scanned. -/
  members : ∀ {room : Nat} (key : String) (value : Value) (more : Members),
    SendableMembers room ((key, value) :: more) →
      3 * (Text.Utf8.encode (Value.membersText ((key, value) :: more))).length + 2 ≤ fuel →
        ∀ (start offset : Nat) (rest : List UInt8),
          (scanEntry fuel start ⟨offset, Text.Utf8.encode
            (Value.membersText ((key, value) :: more)) ++ byteOf '}' :: rest⟩).Gives
              Entries.Says ((key, value) :: more) rest

namespace Scans

variable {fuel room offset : Nat} {rest : List UInt8}

/-- A value is scanned if what it contains is scanned with less fuel. -/
theorem value_step (smaller : ∀ less < fuel, Scans less) (value : Value)
    (sendable : value.Sendable room)
    (enough : 3 * (Text.Utf8.encode value.text).length ≤ fuel) (closed : Closed rest) :
    (scanValue fuel ⟨offset, Text.Utf8.encode value.text ++ rest⟩).Gives Tree.Says value
      rest := by
  obtain ⟨byte, bytes, written, -⟩ := start_of_text sendable
  have positive : 0 < (Text.Utf8.encode value.text).length := by
    rw [written]
    exact Nat.succ_pos _
  obtain ⟨less, rfl⟩ : ∃ less, fuel = less + 2 := ⟨fuel - 2, by omega⟩
  cases value with
  | null => exact scanValue_null (less + 1) offset rest
  | bool value => exact scanValue_bool value (less + 1) offset rest
  | number number => exact scanValue_number sendable (less + 1) offset closed
  | string text => exact scanValue_string text (less + 1) offset rest
  | array items =>
    rw [length_encode_array] at enough
    refine scanValue_array ?_
    cases items with
    | nil => exact scanItems_end less (offset + 1) true rest
    | cons item more =>
      have inside := (smaller less (by omega)).items item more sendable.2 (by omega) (offset + 1)
        rest
      obtain ⟨byte, bytes, head, start⟩ := encode_itemsText_head sendable.2.1 more
      rw [head, List.cons_append] at inside ⊢
      rw [scanItems_first start]
      exact inside
  | object members =>
    rw [length_encode_object] at enough
    refine scanValue_object ?_
    cases members with
    | nil => exact scanEntries_end less (offset + 1) true rest
    | cons member more =>
      obtain ⟨key, value⟩ := member
      have inside := (smaller less (by omega)).members key value more sendable.2.2 (by omega)
        (offset + 1) (offset + 1) rest
      obtain ⟨bytes, head⟩ := encode_membersText_head (key, value) more
      rw [head, List.cons_append] at inside ⊢
      rw [scanEntries_first]
      exact inside

/-- The items of an array are scanned if they are with less fuel. -/
theorem items_step (smaller : ∀ less < fuel, Scans less) (item : Value) (more : List Value)
    (sendable : SendableItems room (item :: more))
    (enough : 3 * (Text.Utf8.encode (Value.itemsText (item :: more))).length + 2 ≤ fuel) :
    (scanItem fuel
      ⟨offset, Text.Utf8.encode (Value.itemsText (item :: more)) ++ byteOf ']' :: rest⟩).Gives
        Items.Says (item :: more) rest := by
  obtain ⟨less, rfl⟩ : ∃ less, fuel = less + 2 := ⟨fuel - 2, by omega⟩
  cases more with
  | nil =>
    have single : Value.itemsText [item] = item.text := rfl
    rw [single] at enough ⊢
    have first := (smaller (less + 1) (by omega)).value item sendable.1 (by omega) offset
      (closed_cons rest (.inr (.inl rfl)))
    exact scanItem_of_scanValue first fun offset => scanItems_end less offset false rest
  | cons next more =>
    rw [encode_itemsText_cons] at enough ⊢
    rw [List.length_append, List.length_cons] at enough
    rw [List.append_assoc, List.cons_append]
    have first := (smaller (less + 1) (by omega)).value item sendable.1 (by omega) offset
      (closed_cons (Text.Utf8.encode (Value.itemsText (next :: more)) ++ byteOf ']' :: rest)
        (.inl rfl))
    refine scanItem_of_scanValue first fun offset => ?_
    have others := (smaller less (by omega)).items next more sendable.2 (by omega) (offset + 1)
      rest
    obtain ⟨byte, bytes, head, start⟩ := encode_itemsText_head sendable.2.1 more
    rw [head, List.cons_append] at others ⊢
    rw [scanItems_comma start]
    exact others

/-- The members of an object are scanned if they are with less fuel. -/
theorem members_step (smaller : ∀ less < fuel, Scans less) (key : String) (value : Value)
    (more : Members) (sendable : SendableMembers room ((key, value) :: more))
    (enough :
      3 * (Text.Utf8.encode (Value.membersText ((key, value) :: more))).length + 2 ≤ fuel)
    (start : Nat) :
    (scanEntry fuel start
      ⟨offset, Text.Utf8.encode (Value.membersText ((key, value) :: more)) ++
        byteOf '}' :: rest⟩).Gives Entries.Says ((key, value) :: more) rest := by
  rw [SendableMembers] at sendable
  obtain ⟨less, rfl⟩ : ∃ less, fuel = less + 2 := ⟨fuel - 2, by omega⟩
  have length : (Text.Utf8.encode value.text).length ≤ (memberBytes key value).length := by
    rw [memberBytes, List.length_append, List.length_cons]
    omega
  cases more with
  | nil =>
    rw [encode_membersText_singleton] at enough ⊢
    generalize (memberBytes key value).length = size at length enough
    have closed : Closed (byteOf '}' :: rest) := closed_cons rest (.inr (.inr rfl))
    have first (offset : Nat) :=
      (smaller (less + 1) (by omega)).value value sendable.1 (by omega) offset closed
    exact scanEntry_of_scanValue first fun offset => scanEntries_end less offset false rest
  | cons next more =>
    obtain ⟨name, held⟩ := next
    rw [encode_membersText_cons] at enough ⊢
    rw [List.length_append, List.length_cons] at enough
    rw [List.append_assoc, List.cons_append]
    generalize (memberBytes key value).length = size at length enough
    have closed : Closed (byteOf ',' ::
        (Text.Utf8.encode (Value.membersText ((name, held) :: more)) ++ byteOf '}' :: rest)) :=
      closed_cons _ (.inl rfl)
    have first (offset : Nat) :=
      (smaller (less + 1) (by omega)).value value sendable.1 (by omega) offset closed
    refine scanEntry_of_scanValue first fun offset => ?_
    have others := (smaller less (by omega)).members name held more sendable.2 (by omega) offset
      (offset + 1) rest
    obtain ⟨bytes, head⟩ := encode_membersText_head (name, held) more
    rw [head, List.cons_append] at others ⊢
    rw [scanEntries_comma]
    exact others

end Scans

/-- With every fuel everything it is enough for is scanned. -/
theorem scans (fuel : Nat) : Scans fuel := by
  induction fuel using Nat.strongRecOn with
  | _ fuel smaller =>
    constructor
    · intro room value sendable enough offset rest closed
      exact Scans.value_step smaller value sendable enough closed
    · intro room item more sendable enough offset rest
      exact Scans.items_step smaller item more sendable enough
    · intro room key value more sendable enough start offset rest
      exact Scans.members_step smaller key value more sendable enough start

/-- The tree of the text of a value that can be sent says the value, and nothing is wrong behind
it. -/
theorem scan_text {room : Nat} {value : Value} (sendable : value.Sendable room) :
    ∃ tree, scan (Text.Utf8.encode value.text) = ⟨tree, none⟩ ∧ tree.Says value := by
  have scanned := (scans (3 * (Text.Utf8.encode value.text).length + 3)).value value sendable
    (by omega) 0 closed_nil
  rw [List.append_nil] at scanned
  obtain ⟨tree, stop, scanned, said⟩ := scanned
  refine ⟨tree, ?_, said⟩
  simp only [scan, scanned]
  rfl

/-- Parsing the text of a value that can be sent gives the value. -/
theorem parse_text {value : Value} (sendable : value.Sendable nestingLimit) :
    parse (Text.Utf8.encode value.text) = .ok value := by
  obtain ⟨tree, scanned, said⟩ := scan_text sendable
  rw [parse, scanned]
  exact bind_eq_ok_iff.2 ⟨_, said.read sendable, rfl⟩

end HealthLedger.Json
