import HealthLedger.Json.Value
import HealthLedger.Json.Flaw

/-!
# The structure of a JSON text

A tree is what a text holds, in the order of the text, up to the first place where it can be
read no further. It keeps the offsets that messages name. A text can be flawed for someone who
wants its values and still be good enough for someone who only passes over them, so the
leaves that can be flawed record what a reader and what a skipper finds there.

`Tree.read` gives the value of a tree and `Tree.skip` passes over it. Each reports the first
flaw in text order, and only `read` has a limit for nesting.
-/

namespace HealthLedger.Json

/-- A string in the place of a key. -/
structure Key where
  /-- The key, or what a reader finds wrong with it. -/
  reading : Except Fault String
  /-- What a skipper finds wrong with it. -/
  skipping : Option Fault
  /-- The offset behind the string. -/
  stop : Nat
  /-- The offset of someone who gives up the object after this key: behind the blanks that
  follow, and behind the end of the object if that follows. -/
  resume : Nat

mutual

/-- What stands in the place of a value. -/
inductive Tree where
  /-- No value starts here. -/
  | missing (start : Nat) (fault : Fault)
  /-- A word that is not spelt as a literal. -/
  | broken (start : Nat) (fault : Fault)
  /-- The null literal. -/
  | null (start stop : Nat)
  /-- A truth literal. -/
  | bool (start stop : Nat) (value : Bool)
  /-- A number, or what a reader and what a skipper find wrong with it. -/
  | number (start stop : Nat) (reading : Except Fault Number) (skipping : Option Fault)
  /-- A string, or what a reader and what a skipper find wrong with it. -/
  | string (start stop : Nat) (reading : Except Fault String) (skipping : Option Fault)
  /-- An array. -/
  | array (start : Nat) (items : Items)
  /-- An object. -/
  | object (start : Nat) (entries : Entries)

/-- The rest of an array. -/
inductive Items where
  /-- The array ends, before the offset `stop`. -/
  | done (stop : Nat)
  /-- There is neither an item nor the end. -/
  | broken (reading skipping : Fault)
  /-- An item and the rest behind it. -/
  | item (value : Tree) (rest : Items)

/-- The rest of an object, from the comma, the brace or the first key at the offset `start`. -/
inductive Entries where
  /-- The object ends, before the offset `stop`. -/
  | done (start stop : Nat)
  /-- There is neither a member nor the end. -/
  | broken (start : Nat) (reading skipping : Fault)
  /-- Something other than a string stands in the place of a key. -/
  | misplaced (start : Nat) (found : Tree)
  /-- A key is not followed by a colon. -/
  | unpaired (start : Nat) (key : Key) (fault : Fault)
  /-- A member and the rest behind it. -/
  | member (start : Nat) (key : Key) (value : Tree) (rest : Entries)

end

/-- Where a tree starts. -/
def Tree.start : Tree → Nat
  | .missing start _ => start
  | .broken start _ => start
  | .null start _ => start
  | .bool start _ _ => start
  | .number start _ _ _ => start
  | .string start _ _ _ => start
  | .array start _ => start
  | .object start _ => start

/-- Where the rest of an object starts. -/
def Entries.start : Entries → Nat
  | .done start _ => start
  | .broken start _ _ => start
  | .misplaced start _ => start
  | .unpaired start _ _ => start
  | .member start _ _ _ => start

/-- The flaw of something that stands in the place of a key. -/
def Tree.misplacedKey (found : Tree) : Fault := ⟨.keyMustBeString, found.start + 1⟩

/-- How deeply the arrays and objects of a text may be nested, and one. -/
def nestingLimit : Nat := 128

/-- The room left inside an array or object that starts at an offset. -/
def enter (room start : Nat) : Except Fault Nat :=
  if room ≤ 1 then .error ⟨.tooDeep, start + 1⟩ else .ok (room - 1)

mutual

/-- The value of a tree, with its nesting limited by the room. -/
def Tree.read (room : Nat) : Tree → Except Fault Value
  | .missing _ fault => .error fault
  | .broken _ fault => .error fault
  | .null _ _ => .ok .null
  | .bool _ _ value => .ok (.bool value)
  | .number _ _ reading _ => reading.map .number
  | .string _ _ reading _ => reading.map .string
  | .array start items => do
    let inner ← enter room start
    let values ← items.read inner
    .ok (.array values)
  | .object start entries => do
    let inner ← enter room start
    let members ← entries.read inner
    .ok (.ofMembers members)

/-- The values of the rest of an array. -/
def Items.read (room : Nat) : Items → Except Fault (List Value)
  | .done _ => .ok []
  | .broken reading _ => .error reading
  | .item value rest => do
    let value ← value.read room
    let values ← rest.read room
    .ok (value :: values)

/-- The members of the rest of an object, in text order. -/
def Entries.read (room : Nat) : Entries → Except Fault Members
  | .done _ _ => .ok []
  | .broken _ reading _ => .error reading
  | .misplaced _ found => .error found.misplacedKey
  | .unpaired _ key fault => do
    let _ ← key.reading
    .error fault
  | .member _ key value rest => do
    let key ← key.reading
    let value ← value.read room
    let members ← rest.read room
    .ok ((key, value) :: members)

end

/-- Go on unless something was found wrong. -/
def passOver : Option Fault → Except Fault Unit
  | none => .ok ()
  | some fault => .error fault

mutual

/-- Pass over a tree. -/
def Tree.skip : Tree → Except Fault Unit
  | .missing _ fault => .error fault
  | .broken _ fault => .error fault
  | .null _ _ => .ok ()
  | .bool _ _ _ => .ok ()
  | .number _ _ _ skipping => passOver skipping
  | .string _ _ _ skipping => passOver skipping
  | .array _ items => items.skip
  | .object _ entries => entries.skip

/-- Pass over the rest of an array. -/
def Items.skip : Items → Except Fault Unit
  | .done _ => .ok ()
  | .broken _ skipping => .error skipping
  | .item value rest => do
    value.skip
    rest.skip

/-- Pass over the rest of an object. -/
def Entries.skip : Entries → Except Fault Unit
  | .done _ _ => .ok ()
  | .broken _ _ skipping => .error skipping
  | .misplaced _ found => .error found.misplacedKey
  | .unpaired _ key fault => do
    passOver key.skipping
    .error fault
  | .member _ key value rest => do
    passOver key.skipping
    value.skip
    rest.skip

end

/-- The end of an array for someone who wants no more items: what is wrong if there are more. -/
def Items.close : Items → Except Fault Unit
  | .done _ => .ok ()
  | .broken reading _ =>
    match reading.cause with
    | .endInList => .error reading
    | .trailingComma => .error reading
    | _ => .error ⟨.trailingCharacters, reading.offset⟩
  | .item (.missing _ fault) _ => .error ⟨.trailingCharacters, fault.offset⟩
  | .item value _ => .error ⟨.trailingCharacters, value.start + 1⟩

end HealthLedger.Json
