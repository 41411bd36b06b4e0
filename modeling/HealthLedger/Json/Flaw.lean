/-!
# Flaws of a JSON text

A flaw is a reason why a text is not JSON. What goes wrong while a text is read is located by
the number of bytes before it; a message names the line, counted from one, and the number of
bytes in that line before the place.
-/

namespace HealthLedger.Json

/-- A reason why a text is not JSON. -/
inductive Flaw where
  /-- The text ends in an array. -/
  | endInList
  /-- The text ends in an object. -/
  | endInObject
  /-- The text ends in a string. -/
  | endInString
  /-- The text ends where a value or the rest of one is expected. -/
  | endInValue
  /-- A key is not followed by a colon. -/
  | expectedColon
  /-- An item is followed neither by a comma nor by the end of its array. -/
  | expectedListCommaOrEnd
  /-- A member is followed neither by a comma nor by the end of its object. -/
  | expectedObjectCommaOrEnd
  /-- A word is not spelt as one of the three literals. -/
  | expectedIdent
  /-- No value starts with the character. -/
  | expectedValue
  /-- A backslash is followed by something that is no escape. -/
  | invalidEscape
  /-- Digits do not form a number. -/
  | invalidNumber
  /-- A number is beyond the largest double. -/
  | outOfRange
  /-- The bytes of a string are not UTF-8. -/
  | invalidCodePoint
  /-- A control character stands in a string. -/
  | controlCharacter
  /-- A member does not begin with a string. -/
  | keyMustBeString
  /-- Half of a surrogate pair stands where it cannot. -/
  | loneSurrogate
  /-- A comma stands before the end of an array or object. -/
  | trailingComma
  /-- Something follows a complete value. -/
  | trailingCharacters
  /-- The first half of a surrogate pair has no second. -/
  | unpairedSurrogate
  /-- Arrays and objects are nested too deeply. -/
  | tooDeep
  deriving Repr, DecidableEq

/-- The wording of a flaw. -/
def Flaw.message : Flaw → String
  | .endInList => "EOF while parsing a list"
  | .endInObject => "EOF while parsing an object"
  | .endInString => "EOF while parsing a string"
  | .endInValue => "EOF while parsing a value"
  | .expectedColon => "expected `:`"
  | .expectedListCommaOrEnd => "expected `,` or `]`"
  | .expectedObjectCommaOrEnd => "expected `,` or `\x7d`"
  | .expectedIdent => "expected ident"
  | .expectedValue => "expected value"
  | .invalidEscape => "invalid escape"
  | .invalidNumber => "invalid number"
  | .outOfRange => "number out of range"
  | .invalidCodePoint => "invalid unicode code point"
  | .controlCharacter => "control character (\\u0000-\\u001F) found while parsing a string"
  | .keyMustBeString => "key must be a string"
  | .loneSurrogate => "lone leading surrogate in hex escape"
  | .trailingComma => "trailing comma"
  | .trailingCharacters => "trailing characters"
  | .unpairedSurrogate => "unexpected end of hex escape"
  | .tooDeep => "recursion limit exceeded"

/-- A cause and the number of bytes before the place it was found at. -/
structure Located (α : Type) where
  /-- What was found. -/
  cause : α
  /-- The number of bytes before it. -/
  offset : Nat
  deriving Repr, DecidableEq

/-- The same place with another cause. -/
def Located.map {α β : Type} (f : α → β) (located : Located α) : Located β :=
  ⟨f located.cause, located.offset⟩

/-- A flaw in its place. -/
abbrev Fault := Located Flaw

/-- The place after the first bytes of a text, in words: the line, and the bytes since it began. -/
def placeText (bytes : List UInt8) (offset : Nat) : String :=
  let before := bytes.take offset
  let line := 1 + before.count 0x0A
  let column := (before.reverse.takeWhile (· != 0x0A)).length
  s!" at line {line} column {column}"

end HealthLedger.Json
