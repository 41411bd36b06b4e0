/-!
# Reading UTF-8

The reader takes one byte at a time. Bytes that cannot belong to a character are gathered into
the longest beginning of a character they form, and each such piece stands as one malformed
item. `decode?` reads only well-formed bytes, and `replace` puts a replacement character for every
malformed piece.
-/

namespace HealthLedger.Text.Utf8

/-- A character that has begun: the value of the bytes read, the number of bytes still owed, and
the bounds of the next one. -/
structure Pending where
  /-- The value of the bits read so far. -/
  value : Nat
  /-- How many bytes follow. -/
  owed : Nat
  /-- The least value of the next byte. -/
  low : UInt8
  /-- The greatest value of the next byte. -/
  high : UInt8

/-- What the first byte of a character says: nothing can start with it, it is a character of its
own, or more bytes follow. -/
inductive Lead where
  /-- No character starts with the byte. -/
  | malformed
  /-- The byte is a character. -/
  | whole (c : Char)
  /-- The byte begins a longer character. -/
  | begun (pending : Pending)

/-- The meaning of a byte between two characters. -/
def lead (byte : UInt8) : Lead :=
  if byte < 0x80 then .whole (Char.ofNat byte.toNat)
  else if byte < 0xC2 then .malformed
  else if byte < 0xE0 then .begun ⟨byte.toNat % 32, 1, 0x80, 0xBF⟩
  else if byte = 0xE0 then .begun ⟨0, 2, 0xA0, 0xBF⟩
  else if byte = 0xED then .begun ⟨13, 2, 0x80, 0x9F⟩
  else if byte < 0xF0 then .begun ⟨byte.toNat % 16, 2, 0x80, 0xBF⟩
  else if byte = 0xF0 then .begun ⟨0, 3, 0x90, 0xBF⟩
  else if byte < 0xF4 then .begun ⟨byte.toNat % 8, 3, 0x80, 0xBF⟩
  else if byte = 0xF4 then .begun ⟨4, 3, 0x80, 0x8F⟩
  else .malformed

/-- The items that a byte between two characters completes, and the character it begins. -/
def start (byte : UInt8) : List (Option Char) × Option Pending :=
  match lead byte with
  | .malformed => ([none], none)
  | .whole c => ([some c], none)
  | .begun pending => ([], some pending)

/-- The items that a byte completes, and the character that is begun behind it. A byte that does
not go on with the character before ends it as a malformed piece and stands on its own. -/
def step : Option Pending → UInt8 → List (Option Char) × Option Pending
  | none, byte => start byte
  | some pending, byte =>
    if pending.low ≤ byte && byte ≤ pending.high then
      let value := pending.value * 64 + byte.toNat % 64
      if pending.owed ≤ 1 then ([some (Char.ofNat value)], none)
      else ([], some ⟨value, pending.owed - 1, 0x80, 0xBF⟩)
    else
      let (found, begun) := start byte
      (none :: found, begun)

/-- The characters of some bytes, `none` for each malformed piece. `pending` is the character
that the bytes before have begun. -/
def items (pending : Option Pending) : List UInt8 → List (Option Char)
  | [] => if pending.isSome then [none] else []
  | byte :: rest => (step pending byte).1 ++ items (step pending byte).2 rest

/-- The text of well-formed bytes. -/
def decode? (bytes : List UInt8) : Option (List Char) := (items none bytes).mapM id

/-- The characters of any bytes, with a replacement character for each malformed piece. -/
def replace (bytes : List UInt8) : List Char := (items none bytes).map (·.getD '\uFFFD')

/-- The bytes of a text. -/
def encode (text : String) : List UInt8 := text.toList.flatMap String.utf8EncodeChar

end HealthLedger.Text.Utf8
