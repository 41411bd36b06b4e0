import HealthLedger.Json.Flaw
import HealthLedger.Json.Value
import HealthLedger.Number.Shortest
import HealthLedger.Text.Quoted
import HealthLedger.Time.Reader

/-!
# What is wrong with a document

A value that is good JSON need not be a good document. A mismatch is a reason why it is not,
and a cause is either a mismatch or a flaw of the JSON text itself. `DecodeError` adds the
place, which is known if the document was read from a text and not if it was read from a value.
-/

namespace HealthLedger.Document

open Json (Value)

/-- What stood in the place of something else. -/
inductive Found where
  /-- The null value. -/
  | null
  /-- A truth value. -/
  | bool (value : Bool)
  /-- A number. -/
  | number (value : Json.Number)
  /-- A string. -/
  | string (value : String)
  /-- An array. -/
  | sequence
  /-- An object. -/
  | map
  deriving Repr, DecidableEq

/-- A value as it is named in a message. -/
def Found.ofValue : Value → Found
  | .null => .null
  | .bool value => .bool value
  | .number value => .number value
  | .string value => .string value
  | .array _ => .sequence
  | .object _ => .map

/-- The wording of what was found. -/
def Found.text : Found → String
  | .null => "null"
  | .bool value => s!"boolean `{value}`"
  | .number (.integer value) => s!"integer `{value}`"
  | .number (.float value) => s!"floating point `{value.text}`"
  | .string value => "string " ++ Text.quoted value
  | .sequence => "sequence"
  | .map => "map"

/-- A reason why a value is not the document it should be. -/
inductive Mismatch where
  /-- A value of another type. -/
  | wrongType (found : Found) (expected : String)
  /-- An object with no or several keys in the place of a choice. -/
  | notOneKey
  /-- An array with too many items. -/
  | tooLong (count : Nat)
  /-- A field that must be there is absent. -/
  | missingField (name : String)
  /-- A field is there twice. -/
  | duplicateField (name : String)
  /-- A choice that is none of the known ones. -/
  | unknownChoice (found : String) (known : List String)
  /-- A text that is no instant. -/
  | instant (flaw : Time.Flaw)
  deriving Repr, DecidableEq

/-- The wording of a list of choices. -/
def choicesText (known : List String) : String :=
  match known.map fun choice => "`" ++ choice ++ "`" with
  | [one] => one
  | [one, other] => one ++ " or " ++ other
  | several => "one of " ++ ", ".intercalate several

/-- The wording of a mismatch. -/
def Mismatch.message : Mismatch → String
  | .wrongType found expected => "invalid type: " ++ found.text ++ ", expected " ++ expected
  | .notOneKey => "invalid value: map, expected map with a single key"
  | .tooLong count => s!"invalid length {count}, expected fewer elements in array"
  | .missingField name => "missing field `" ++ name ++ "`"
  | .duplicateField name => "duplicate field `" ++ name ++ "`"
  | .unknownChoice found known =>
    "unknown variant `" ++ found ++ "`, expected " ++ choicesText known
  | .instant flaw => flaw.message

/-- Why a text is not the document it should be. -/
inductive Cause where
  /-- The text is not JSON. -/
  | flaw (flaw : Json.Flaw)
  /-- The value is not the document. -/
  | mismatch (mismatch : Mismatch)
  deriving Repr, DecidableEq

/-- The wording of a cause. -/
def Cause.message : Cause → String
  | .flaw found => found.message
  | .mismatch found => found.message

/-- A cause in its place. -/
abbrev Finding := Json.Located Cause

/-- A failure to decode a document. -/
structure DecodeError where
  /-- What is wrong. -/
  cause : Cause
  /-- The place in words, empty if it is not known. -/
  place : String
  deriving Repr, DecidableEq

/-- The wording of a failure. -/
def DecodeError.message (error : DecodeError) : String := error.cause.message ++ error.place

/-- The failure for a finding in a text. -/
def DecodeError.ofFinding (bytes : List UInt8) (finding : Finding) : DecodeError :=
  ⟨finding.cause, Json.placeText bytes finding.offset⟩

/-- The failure for a flaw of a text. -/
def DecodeError.ofFault (bytes : List UInt8) (fault : Json.Fault) : DecodeError :=
  .ofFinding bytes (fault.map .flaw)

/-- The failure for a mismatch in a value. -/
def DecodeError.ofMismatch (mismatch : Mismatch) : DecodeError := ⟨.mismatch mismatch, ""⟩

end HealthLedger.Document
