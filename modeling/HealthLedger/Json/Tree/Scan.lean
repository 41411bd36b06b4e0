import HealthLedger.Json.Numeral
import HealthLedger.Json.Tree
import HealthLedger.Text.Utf8

/-!
# From bytes to a tree

A cursor stands between the bytes of a text. Strings are scanned one byte at a time by two
small machines: one gathers the bytes of the string, the other only looks for its end.
`scan` gives the tree of a text and what stands behind it. Its recursion is bounded by three
steps for each byte, as many as an opening bracket takes.
-/

namespace HealthLedger.Json

/-- A place in a text: the number of bytes before it and the bytes behind it. -/
structure Cursor where
  /-- The number of bytes before the place. -/
  offset : Nat
  /-- The bytes behind it. -/
  rest : List UInt8

/-- The byte of an ASCII character. -/
def byteOf (c : Char) : UInt8 := c.toNat.toUInt8

/-- The digit written by a byte. -/
def digitOf? (byte : UInt8) : Option Nat :=
  if 0x30 ≤ byte && byte ≤ 0x39 then some (byte.toNat - 0x30) else none

/-- The hexadecimal digit written by a byte. -/
def hexDigitOf? (byte : UInt8) : Option Nat :=
  if 0x30 ≤ byte && byte ≤ 0x39 then some (byte.toNat - 0x30)
  else if 0x41 ≤ byte && byte ≤ 0x46 then some (byte.toNat - 0x37)
  else if 0x61 ≤ byte && byte ≤ 0x66 then some (byte.toNat - 0x57)
  else none

/-- Whether a byte is a blank of JSON. -/
def isSpaceByte (byte : UInt8) : Bool :=
  byte == 0x20 || byte == 0x0A || byte == 0x09 || byte == 0x0D

namespace Cursor

/-- The place behind the next byte. -/
def next (cursor : Cursor) : Cursor :=
  match cursor.rest with
  | [] => cursor
  | _ :: rest => ⟨cursor.offset + 1, rest⟩

/-- The place behind the next bytes. -/
def advance (cursor : Cursor) (count : Nat) : Cursor :=
  ⟨cursor.offset + count, cursor.rest.drop count⟩

/-- The place behind the blanks that follow. -/
def skipBlanks (cursor : Cursor) : Cursor :=
  cursor.advance (cursor.rest.takeWhile isSpaceByte).length

/-- Whether the given character follows. -/
def sees (cursor : Cursor) (c : Char) : Bool := cursor.rest.head? == some (byteOf c)

/-- The offset by which a flaw of the next byte is named. -/
def ahead (cursor : Cursor) : Nat := cursor.next.offset

/-- A flaw of the byte before the place. -/
def fault (cursor : Cursor) (flaw : Flaw) : Fault := ⟨flaw, cursor.offset⟩

/-- A flaw of the byte behind the place. -/
def faultAhead (cursor : Cursor) (flaw : Flaw) : Fault := ⟨flaw, cursor.ahead⟩

/-- The digits that follow and the place behind them. -/
def digits (cursor : Cursor) : List Nat × Cursor :=
  let found := (cursor.rest.takeWhile fun byte => (digitOf? byte).isSome).filterMap digitOf?
  (found, cursor.advance found.length)

/-- Read the rest of a literal whose first letter was taken. -/
def spell (cursor : Cursor) : List Char → Except Fault Cursor
  | [] => .ok cursor
  | c :: letters =>
    match cursor.rest with
    | [] => .error (cursor.fault .endInValue)
    | byte :: _ =>
      if byte == byteOf c then cursor.next.spell letters
      else .error (cursor.next.fault .expectedIdent)

end Cursor

/-- A numeral in a text: what a reader and what a skipper find, and the place behind it. -/
structure ScannedNumber where
  /-- The number, or what a reader finds wrong. -/
  reading : Except Fault Number
  /-- What a skipper finds wrong. -/
  skipping : Option Fault
  /-- The place behind the numeral. -/
  after : Cursor

/-- A number that neither a reader nor a skipper can go on with. -/
def ScannedNumber.bad (after : Cursor) (reading skipping : Fault) : ScannedNumber :=
  ⟨.error reading, some skipping, after⟩

/-- A complete numeral. -/
def ScannedNumber.complete (after : Cursor) (numeral : Numeral) : ScannedNumber :=
  let unread := ((numeral.exponent.map (·.2.length)).getD 0) - numeral.givenUpAfter
  { reading := match numeral.number? with
      | some n => .ok n
      | none => .error ⟨.outOfRange, after.offset - unread⟩
    skipping := none
    after }

/-- Scan the exponent of a numeral, from behind its letter. -/
def scanExponent (cursor : Cursor) (numeral : Numeral) : ScannedNumber :=
  let negative := cursor.sees '-'
  let cursor := if negative || cursor.sees '+' then cursor.next else cursor
  match cursor.digits with
  | ([], _) =>
    if cursor.rest.isEmpty then
      .bad cursor (cursor.fault .endInValue) (cursor.fault .invalidNumber)
    else .bad cursor (cursor.next.fault .invalidNumber) (cursor.next.fault .invalidNumber)
  | (digits, after) => .complete after { numeral with exponent := some (negative, digits) }

/-- Whether the letter of an exponent follows. -/
def seesExponent (cursor : Cursor) : Bool := cursor.sees 'e' || cursor.sees 'E'

/-- Scan what follows the whole digits of a numeral. -/
def scanAfterWhole (cursor : Cursor) (numeral : Numeral) : ScannedNumber :=
  if cursor.sees '.' then
    let cursor := cursor.next
    match cursor.digits with
    | ([], _) =>
      .bad cursor
        (cursor.faultAhead (if cursor.rest.isEmpty then .endInValue else .invalidNumber))
        (cursor.faultAhead .invalidNumber)
    | (fraction, after) =>
      let numeral := { numeral with fraction }
      if seesExponent after then scanExponent after.next numeral else .complete after numeral
  else if seesExponent cursor then scanExponent cursor.next numeral
  else .complete cursor numeral

/-- Scan a numeral, from its sign or its first digit. -/
def scanNumber (cursor : Cursor) : ScannedNumber :=
  let negative := cursor.sees '-'
  let cursor := if negative then cursor.next else cursor
  match cursor.digits with
  | ([], _) =>
    if cursor.rest.isEmpty then
      .bad cursor (cursor.fault .endInValue) (cursor.fault .invalidNumber)
    else .bad cursor (cursor.next.fault .invalidNumber) (cursor.next.fault .invalidNumber)
  | (0 :: _ :: _, _) =>
    .bad cursor (cursor.next.faultAhead .invalidNumber) (cursor.next.faultAhead .invalidNumber)
  | (whole, after) => scanAfterWhole after ⟨negative, whole, [], none⟩

/-- What a reader of a string expects: plain characters, the letter of an escape, a hexadecimal
digit, or the backslash and the letter before the second half of a surrogate pair. -/
inductive StringState where
  /-- Characters that stand for themselves. -/
  | plain
  /-- The letter behind a backslash. -/
  | escape
  /-- A hexadecimal digit, behind `count` others of the given value. `lead` is the first half of
  a pair. -/
  | hex (lead : Option Nat) (count : Nat) (value : Option Nat)
  /-- The backslash before the second half of a pair. -/
  | secondBackslash (lead : Nat)
  /-- The letter before the second half of a pair. -/
  | secondLetter (lead : Nat)

/-- The character of a one-letter escape. -/
def escapeByte? (byte : UInt8) : Option UInt8 :=
  if byte == byteOf '"' || byte == byteOf '\\' || byte == byteOf '/' then some byte
  else if byte == byteOf 'b' then some 0x08
  else if byte == byteOf 'f' then some 0x0C
  else if byte == byteOf 'n' then some 0x0A
  else if byte == byteOf 'r' then some 0x0D
  else if byte == byteOf 't' then some 0x09
  else none

/-- The bytes of a code point, the last one first. -/
def codePointBytes (n : Nat) : List UInt8 :=
  (Text.Utf8.encode (String.ofList [Char.ofNat n])).reverse

/-- A value with one more hexadecimal digit. -/
def addHexDigit (value : Option Nat) (byte : UInt8) : Option Nat :=
  value.bind fun n => (hexDigitOf? byte).map (n * 16 + ·)

/-- The string that ends at the next quotation mark. `gathered` holds its bytes so far, the last
one first. -/
def readString (state : StringState) (offset : Nat) (gathered : List UInt8) :
    List UInt8 → Except Fault String
  | [] => .error ⟨.endInString, offset⟩
  | byte :: rest =>
    let here : Flaw → Except Fault String := fun flaw => .error ⟨flaw, offset + 1⟩
    match state with
    | .plain =>
      if byte == byteOf '"' then
        match Text.Utf8.decode? gathered.reverse with
        | some chars => .ok (String.ofList chars)
        | none => here .invalidCodePoint
      else if byte == byteOf '\\' then readString .escape (offset + 1) gathered rest
      else if byte < 0x20 then here .controlCharacter
      else readString .plain (offset + 1) (byte :: gathered) rest
    | .escape =>
      match escapeByte? byte with
      | some meant => readString .plain (offset + 1) (meant :: gathered) rest
      | none =>
        if byte == byteOf 'u' then readString (.hex none 0 (some 0)) (offset + 1) gathered rest
        else here .invalidEscape
    | .hex lead count value =>
      let value := addHexDigit value byte
      if count < 3 then readString (.hex lead (count + 1) value) (offset + 1) gathered rest
      else
        match value, lead with
        | none, _ => here .invalidEscape
        | some n, none =>
          if 0xDC00 ≤ n ∧ n ≤ 0xDFFF then here .loneSurrogate
          else if 0xD800 ≤ n ∧ n ≤ 0xDBFF then
            readString (.secondBackslash n) (offset + 1) gathered rest
          else readString .plain (offset + 1) (codePointBytes n ++ gathered) rest
        | some n, some lead =>
          if 0xDC00 ≤ n ∧ n ≤ 0xDFFF then
            let point := (lead - 0xD800) * 0x400 + (n - 0xDC00) + 0x10000
            readString .plain (offset + 1) (codePointBytes point ++ gathered) rest
          else here .loneSurrogate
    | .secondBackslash lead =>
      if byte == byteOf '\\' then readString (.secondLetter lead) (offset + 1) gathered rest
      else here .unpairedSurrogate
    | .secondLetter lead =>
      if byte == byteOf 'u' then
        readString (.hex (some lead) 0 (some 0)) (offset + 1) gathered rest
      else here .unpairedSurrogate

/-- What a skipper of a string expects. -/
inductive SkipState where
  /-- Any character. -/
  | plain
  /-- The letter behind a backslash. -/
  | escape
  /-- A hexadecimal digit behind `count` others, which were good or not. -/
  | hex (count : Nat) (good : Bool)

/-- The place behind the next quotation mark that ends a string. -/
def skipString (state : SkipState) (offset : Nat) : List UInt8 → Except Fault Cursor
  | [] => .error ⟨.endInString, offset⟩
  | byte :: rest =>
    match state with
    | .plain =>
      if byte == byteOf '"' then .ok ⟨offset + 1, rest⟩
      else if byte == byteOf '\\' then skipString .escape (offset + 1) rest
      else if byte < 0x20 then .error ⟨.controlCharacter, offset⟩
      else skipString .plain (offset + 1) rest
    | .escape =>
      if (escapeByte? byte).isSome then skipString .plain (offset + 1) rest
      else if byte == byteOf 'u' then skipString (.hex 0 true) (offset + 1) rest
      else .error ⟨.invalidEscape, offset + 1⟩
    | .hex count good =>
      let good := good && (hexDigitOf? byte).isSome
      if count < 3 then skipString (.hex (count + 1) good) (offset + 1) rest
      else if good then skipString .plain (offset + 1) rest
      else .error ⟨.invalidEscape, offset + 1⟩

/-- A string in a text: what a reader finds, and the place behind it or what a skipper finds. -/
structure ScannedString where
  /-- The string, or what a reader finds wrong. -/
  reading : Except Fault String
  /-- The place behind the string, or what a skipper finds wrong. -/
  after : Except Fault Cursor

/-- What a skipper finds wrong with a string. -/
def ScannedString.skipping (scanned : ScannedString) : Option Fault :=
  match scanned.after with
  | .ok _ => none
  | .error fault => some fault

/-- The offset behind a string, or where a skipper gives it up. -/
def ScannedString.stop (scanned : ScannedString) : Nat :=
  match scanned.after with
  | .ok after => after.offset
  | .error fault => fault.offset

/-- Scan a string, from behind its opening quotation mark. -/
def scanString (cursor : Cursor) : ScannedString :=
  ⟨readString .plain cursor.offset [] cursor.rest, skipString .plain cursor.offset cursor.rest⟩

/-- A tree and the place behind it, or the flaw behind which nothing can be read. -/
structure Scanned (α : Type) where
  /-- What was scanned. -/
  tree : α
  /-- The place behind it. -/
  after : Except Fault Cursor

/-- Scan the rest of a literal whose first letter was seen. -/
def scanWord (cursor : Cursor) (letters : String) (made : Nat → Tree) : Scanned Tree :=
  match cursor.next.spell letters.toList with
  | .ok after => ⟨made after.offset, .ok after⟩
  | .error fault => ⟨.broken cursor.offset fault, .error fault⟩

/-- The offset of someone who gives up an object at a place. -/
def giveUpAt (cursor : Cursor) : Nat :=
  let cursor := cursor.skipBlanks
  if cursor.sees '}' then cursor.offset + 1 else cursor.offset

mutual

/-- Scan what stands in the place of a value. -/
def scanValue : Nat → Cursor → Scanned Tree
  | 0, cursor =>
    let fault := cursor.fault .endInValue
    ⟨.missing cursor.offset fault, .error fault⟩
  | fuel + 1, cursor =>
    let cursor := cursor.skipBlanks
    let start := cursor.offset
    match cursor.rest with
    | [] =>
      let fault := cursor.fault .endInValue
      ⟨.missing start fault, .error fault⟩
    | byte :: _ =>
      if byte == byteOf 'n' then scanWord cursor "ull" (.null start)
      else if byte == byteOf 't' then scanWord cursor "rue" (.bool start · true)
      else if byte == byteOf 'f' then scanWord cursor "alse" (.bool start · false)
      else if byte == byteOf '-' || (digitOf? byte).isSome then
        let scanned := scanNumber cursor
        ⟨.number start scanned.after.offset scanned.reading scanned.skipping,
          match scanned.skipping with
          | some fault => .error fault
          | none => .ok scanned.after⟩
      else if byte == byteOf '"' then
        let scanned := scanString cursor.next
        ⟨.string start scanned.stop scanned.reading scanned.skipping, scanned.after⟩
      else if byte == byteOf '[' then
        let scanned := scanItems fuel true cursor.next
        ⟨.array start scanned.tree, scanned.after⟩
      else if byte == byteOf '{' then
        let scanned := scanEntries fuel true cursor.next
        ⟨.object start scanned.tree, scanned.after⟩
      else
        let fault := cursor.faultAhead .expectedValue
        ⟨.missing start fault, .error fault⟩

/-- Scan the rest of an array; `first` says that no item stands before it. -/
def scanItems : Nat → Bool → Cursor → Scanned Items
  | 0, _, cursor =>
    let fault := cursor.fault .endInList
    ⟨.broken fault fault, .error fault⟩
  | fuel + 1, first, cursor =>
    let cursor := cursor.skipBlanks
    if cursor.rest.isEmpty then
      let fault := cursor.fault .endInList
      ⟨.broken fault fault, .error fault⟩
    else if cursor.sees ']' then ⟨.done cursor.next.offset, .ok cursor.next⟩
    else if first then scanItem fuel cursor
    else if cursor.sees ',' then
      let inner := cursor.next.skipBlanks
      if inner.sees ']' then
        let skipping := inner.faultAhead .expectedValue
        ⟨.broken (inner.faultAhead .trailingComma) skipping, .error skipping⟩
      else if inner.rest.isEmpty then
        let fault := inner.fault .endInValue
        ⟨.broken fault fault, .error fault⟩
      else scanItem fuel inner
    else
      let fault := cursor.faultAhead .expectedListCommaOrEnd
      ⟨.broken fault fault, .error fault⟩

/-- Scan an item and the rest of its array. -/
def scanItem : Nat → Cursor → Scanned Items
  | 0, cursor =>
    let fault := cursor.fault .endInList
    ⟨.broken fault fault, .error fault⟩
  | fuel + 1, cursor =>
    let value := scanValue fuel cursor
    match value.after with
    | .error fault => ⟨.item value.tree (.broken fault fault), .error fault⟩
    | .ok after =>
      let rest := scanItems fuel false after
      ⟨.item value.tree rest.tree, rest.after⟩

/-- Scan the rest of an object; `first` says that no member stands before it. -/
def scanEntries : Nat → Bool → Cursor → Scanned Entries
  | 0, _, cursor =>
    let fault := cursor.fault .endInObject
    ⟨.broken cursor.offset fault fault, .error fault⟩
  | fuel + 1, first, cursor =>
    let cursor := cursor.skipBlanks
    let start := cursor.offset
    if cursor.rest.isEmpty then
      let fault := cursor.fault .endInObject
      ⟨.broken start fault fault, .error fault⟩
    else if cursor.sees '}' then ⟨.done start cursor.next.offset, .ok cursor.next⟩
    else if first then scanEntry fuel start cursor
    else if cursor.sees ',' then
      let inner := cursor.next.skipBlanks
      if inner.sees '}' then
        let skipping := inner.faultAhead .keyMustBeString
        ⟨.broken start (inner.faultAhead .trailingComma) skipping, .error skipping⟩
      else if inner.rest.isEmpty then
        let skipping := inner.fault .endInObject
        ⟨.broken start (inner.fault .endInValue) skipping, .error skipping⟩
      else scanEntry fuel start inner
    else
      let fault := cursor.faultAhead .expectedObjectCommaOrEnd
      ⟨.broken start fault fault, .error fault⟩

/-- Scan a member and the rest of its object, which starts at the offset `start`. -/
def scanEntry : Nat → Nat → Cursor → Scanned Entries
  | 0, start, cursor =>
    let fault := cursor.fault .endInObject
    ⟨.broken start fault fault, .error fault⟩
  | fuel + 1, start, cursor =>
    if cursor.sees '"' then
      let scanned := scanString cursor.next
      match scanned.after with
      | .error fault =>
        let key : Key := ⟨scanned.reading, some fault, scanned.stop, scanned.stop⟩
        ⟨.unpaired start key fault, .error fault⟩
      | .ok afterKey =>
        let key : Key := ⟨scanned.reading, none, scanned.stop, giveUpAt afterKey⟩
        let colon := afterKey.skipBlanks
        if colon.sees ':' then
          let value := scanValue fuel colon.next
          match value.after with
          | .error fault =>
            ⟨.member start key value.tree (.broken fault.offset fault fault), .error fault⟩
          | .ok after =>
            let rest := scanEntries fuel false after
            ⟨.member start key value.tree rest.tree, rest.after⟩
        else
          let fault := colon.faultAhead
            (if colon.rest.isEmpty then .endInObject else .expectedColon)
          ⟨.unpaired start key fault, .error fault⟩
    else
      let found := scanValue fuel cursor
      let fault := found.tree.misplacedKey
      ⟨.misplaced start found.tree, .error fault⟩

end

/-- A text that should hold one value: its tree, and what is wrong behind the value. -/
structure Document where
  /-- The tree of the value. -/
  tree : Tree
  /-- What is wrong behind the value. -/
  trailing : Option Fault

/-- The tree of a text and what stands behind it. -/
def scan (bytes : List UInt8) : Document :=
  let scanned := scanValue (3 * bytes.length + 3) ⟨0, bytes⟩
  match scanned.after with
  | .error _ => ⟨scanned.tree, none⟩
  | .ok after =>
    let after := after.skipBlanks
    ⟨scanned.tree, if after.rest.isEmpty then none else some (after.faultAhead .trailingCharacters)⟩

/-- The value of a text. -/
def parse (bytes : List UInt8) : Except Fault Value := do
  let document := scan bytes
  let value ← document.tree.read nestingLimit
  passOver document.trailing
  .ok value

end HealthLedger.Json
