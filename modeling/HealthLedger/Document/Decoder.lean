import HealthLedger.Document.Mismatch
import HealthLedger.Json.Tree.Scan

/-!
# Decoders

A decoder reads one kind of thing in two ways: from a JSON value, and straight from the tree of
a text. The second way reports the first thing that is wrong in text order, be it a flaw of the
text or a mismatch, together with its place. This module has the decoders of single values, of
lists and of choices; `Shape` reads the fields of an object in text order into a draft.
-/

namespace HealthLedger.Document

open Json (Value Tree Items Entries Members Located)

/-- A reader of one kind of thing. -/
structure Decoder (α : Type) where
  /-- Read it from a value. -/
  ofValue : Value → Except Mismatch α
  /-- Read it from the tree of a text, with room for nesting. -/
  ofTree : Nat → Tree → Except Finding α

/-- A result with its flaws among other causes. -/
def liftFault {α : Type} (result : Except Json.Fault α) : Except Finding α :=
  result.mapError (·.map .flaw)

/-- A result with its mismatch in its place. -/
def locate {α : Type} (offset : Nat) (result : Except Mismatch α) : Except Finding α :=
  result.mapError fun mismatch => ⟨.mismatch mismatch, offset⟩

/-- The failure of a value of another type. -/
def wrongValue {α : Type} (value : Value) (expected : String) : Except Mismatch α :=
  .error (.wrongType (.ofValue value) expected)

/-- The finding for a tree of another type. A flaw of the tree itself comes first; of an array or
object only the beginning has been seen. -/
def wrongTree (tree : Tree) (expected : String) : Finding :=
  let wrong (found : Found) (offset : Nat) : Finding :=
    ⟨.mismatch (.wrongType found expected), offset⟩
  match tree with
  | .missing _ fault => fault.map .flaw
  | .broken _ fault => fault.map .flaw
  | .null _ stop => wrong .null stop
  | .bool _ stop value => wrong (.bool value) stop
  | .number _ stop reading _ =>
    match reading with
    | .ok value => wrong (.number value) stop
    | .error fault => fault.map .flaw
  | .string _ stop reading _ =>
    match reading with
    | .ok value => wrong (.string value) stop
    | .error fault => fault.map .flaw
  | .array start _ => wrong .sequence start
  | .object start _ => wrong .map start

namespace Decoder

/-- The decoder of a truth value. -/
def bool : Decoder Bool where
  ofValue
    | .bool value => .ok value
    | value => wrongValue value "a boolean"
  ofTree _
    | .bool _ _ value => .ok value
    | tree => .error (wrongTree tree "a boolean")

/-- The decoder of a string with a meaning of its own. -/
def stringWith {α : Type} (expected : String) (meaning : String → Except Mismatch α) :
    Decoder α where
  ofValue
    | .string text => meaning text
    | value => wrongValue value expected
  ofTree _
    | .string _ stop reading _ => do
      let text ← liftFault reading
      locate stop (meaning text)
    | tree => .error (wrongTree tree expected)

/-- The decoder of a string. -/
def string : Decoder String := stringWith "a string" .ok

/-- The decoder of an instant. -/
def instant : Decoder Time.Instant :=
  stringWith "an RFC 3339 formatted date and time string" fun text =>
    (Time.Instant.parse text).mapError .instant

/-- The decoder of something that may be null. -/
def optional {α : Type} (decoder : Decoder α) : Decoder (Option α) where
  ofValue
    | .null => .ok none
    | value => some <$> decoder.ofValue value
  ofTree room
    | .null _ _ => .ok none
    | tree => some <$> decoder.ofTree room tree

/-- The decoder of what another decoder's result stands for. -/
def map {α β : Type} (f : α → β) (decoder : Decoder α) : Decoder β where
  ofValue value := f <$> decoder.ofValue value
  ofTree room tree := f <$> decoder.ofTree room tree

/-- Read the items of an array. -/
def readItems {α : Type} (decoder : Decoder α) (room : Nat) : Items → Except Finding (List α)
  | .done _ => .ok []
  | .broken reading _ => .error (reading.map .flaw)
  | .item value rest => do
    let first ← decoder.ofTree room value
    let others ← readItems decoder room rest
    .ok (first :: others)

/-- The decoder of a list. -/
def list {α : Type} (decoder : Decoder α) : Decoder (List α) where
  ofValue
    | .array items => items.mapM decoder.ofValue
    | value => wrongValue value "a sequence"
  ofTree room
    | .array start items => do
      let room ← liftFault (Json.enter room start)
      decoder.readItems room items
    | tree => .error (wrongTree tree "a sequence")

/-- The decoder of the null value. -/
def unit : Decoder Unit where
  ofValue
    | .null => .ok ()
    | value => wrongValue value "unit"
  ofTree _
    | .null _ _ => .ok ()
    | tree => .error (wrongTree tree "unit")

/-- The choice with a name. -/
def choose {α : Type} (choices : List (String × α)) (known : List String) (name : String) :
    Except Mismatch α :=
  match choices.lookup name with
  | some choice => .ok choice
  | none => .error (.unknownChoice name known)

/-- Read a choice that is written as the only key of an object, with null as its value. The key is
read as every key of an object is: what stands in its place and is no string is refused as a key,
before anyone asks for a choice, and a text that ends there ends in an object. So does the JSON
library in version 1.0.154: of a choice it says "key must be a string" where 1 is the key. -/
def readChoiceEntries {α : Type} (meaning : String → Except Mismatch α) (room : Nat) :
    Entries → Except Finding α
  | .done _ stop => .error ⟨.flaw .expectedValue, stop⟩
  | .broken _ reading _ => .error (reading.map .flaw)
  | .misplaced _ found => .error (found.misplacedKey.map .flaw)
  | .unpaired _ key fault => do
    let name ← liftFault key.reading
    let _ ← locate key.stop (meaning name)
    .error (fault.map .flaw)
  | .member _ key value rest => do
    let name ← liftFault key.reading
    let choice ← locate key.stop (meaning name)
    unit.ofTree room value
    match rest with
    | .done _ _ => .ok choice
    | .broken _ ⟨.endInObject, offset⟩ _ => .error ⟨.flaw .endInObject, offset⟩
    | rest => .error ⟨.flaw .expectedValue, rest.start⟩

/-- The decoder of one of several choices: its name, or an object with the name as its only key
and null as its value. -/
def choice {α : Type} (choices : List (String × α)) (known : List String) : Decoder α where
  ofValue
    | .string name => choose choices known name
    | .object [(name, value)] => do
      let choice ← choose choices known name
      unit.ofValue value
      .ok choice
    | .object _ => .error .notOneKey
    | value => wrongValue value "string or map"
  ofTree room
    | .string _ stop reading _ => do
      let name ← liftFault reading
      locate stop (choose choices known name)
    | .object start entries => do
      let room ← liftFault (Json.enter room start)
      readChoiceEntries (choose choices known) room entries
    | .missing _ fault => .error (fault.map .flaw)
    | tree => .error ⟨.flaw .expectedValue, tree.start + 1⟩

/-- Read the value of a key, if the key is there. -/
def member {α : Type} (decoder : Decoder α) (key : String) (members : Members) :
    Except Mismatch (Option α) :=
  match Json.findMember key members with
  | none => .ok none
  | some value => some <$> decoder.ofValue value

/-- Decode a value. -/
def decodeValue {α : Type} (decoder : Decoder α) (value : Value) : Except DecodeError α :=
  (decoder.ofValue value).mapError .ofMismatch

/-- Decode a text that holds one document and nothing else. -/
def decodeText {α : Type} (decoder : Decoder α) (bytes : List UInt8) : Except DecodeError α :=
  let document := Json.scan bytes
  let result := do
    let decoded ← decoder.ofTree Json.nestingLimit document.tree
    liftFault (Json.passOver document.trailing)
    .ok decoded
  result.mapError (.ofFinding bytes)

end Decoder

/-- A field of a draft that is filled while an object is read. -/
structure Field (δ : Type) where
  /-- The key of the field. -/
  name : String
  /-- Whether the draft has the field. -/
  given : δ → Bool
  /-- Read the field into the draft. -/
  read : Nat → δ → Tree → Except Finding δ

/-- A field that is kept as an optional part of the draft. -/
def Field.of {δ α : Type} (name : String) (decoder : Decoder α) (get : δ → Option α)
    (set : δ → α → δ) : Field δ where
  name
  given draft := (get draft).isSome
  read room draft tree := set draft <$> decoder.ofTree room tree

/-- The fields of a kind of object, and what is done with other members: `keep` puts them into
the draft, and without it they are passed over. -/
structure Shape (δ : Type) where
  /-- The fields in their order. -/
  fields : List (Field δ)
  /-- How other members are kept. -/
  keep : Option (δ → String → Value → δ)

namespace Shape

variable {δ : Type}

/-- Read the value of a member that is no field. -/
def readOther (shape : Shape δ) (room : Nat) (draft : δ) (name : String) (tree : Tree) :
    Except Finding δ :=
  match shape.keep with
  | some keep => do
    let value ← liftFault (tree.read room)
    .ok (keep draft name value)
  | none => do
    liftFault tree.skip
    .ok draft

/-- The field with a name; it must not have been given before the key ends. -/
def fieldFor (shape : Shape δ) (draft : δ) (name : String) (key : Json.Key) :
    Except Finding (Option (Field δ)) :=
  match shape.fields.find? (·.name == name) with
  | none => .ok none
  | some field =>
    if field.given draft then .error ⟨.mismatch (.duplicateField name), key.resume⟩
    else .ok (some field)

/-- Read the members of an object into a draft, and the offset behind the object. -/
def readEntries (shape : Shape δ) (room : Nat) (draft : δ) : Entries → Except Finding (δ × Nat)
  | .done _ stop => .ok (draft, stop)
  | .broken _ reading _ => .error (reading.map .flaw)
  | .misplaced _ found => .error (found.misplacedKey.map .flaw)
  | .unpaired _ key fault => do
    let name ← liftFault key.reading
    let _ ← shape.fieldFor draft name key
    .error (fault.map .flaw)
  | .member _ key value rest => do
    let name ← liftFault key.reading
    let draft ←
      match ← shape.fieldFor draft name key with
      | some field => field.read room draft value
      | none => shape.readOther room draft name value
    readEntries shape room draft rest

/-- Read the items of an array into the fields of a draft, in order, and what is left of the
array when the fields are used up. -/
def readItems (room : Nat) (draft : δ) : List (Field δ) → Items → Except Finding (δ × Items)
  | [], items => .ok (draft, items)
  | _ :: _, .done stop => .ok (draft, .done stop)
  | _ :: _, .broken reading _ => .error (reading.map .flaw)
  | field :: fields, .item value rest => do
    let draft ← field.read room draft value
    readItems room draft fields rest

/-- Read an object from the tree of a text. -/
def ofTree {α : Type} (shape : Shape δ) (title : String) (empty : δ)
    (finish : δ → Except Mismatch α) (room : Nat) : Tree → Except Finding α
  | .object start entries => do
    let room ← liftFault (Json.enter room start)
    let (draft, stop) ← shape.readEntries room empty entries
    locate stop (finish draft)
  | tree => .error (wrongTree tree title)

end Shape

end HealthLedger.Document
