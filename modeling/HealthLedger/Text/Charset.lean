import HealthLedger.Text.Utf8

/-!
# Charsets

The bytes of a text are read by the charset that is named with them, unless they begin with a byte
order mark: a mark goes before the name, and it is no part of the text. UTF-8 and UTF-16 are read
here, with a replacement character for every malformed piece. The tables of the older charsets are
not, so such a charset is known by its reader alone.
-/

namespace HealthLedger.Text

/-- The order of the two bytes of a unit of UTF-16. -/
inductive ByteOrder where
  /-- The low byte comes first. -/
  | littleEndian
  /-- The high byte comes first. -/
  | bigEndian
  deriving Repr, DecidableEq

/-- The unit of two bytes. -/
def ByteOrder.unit (order : ByteOrder) (first second : UInt8) : Nat :=
  match order with
  | .littleEndian => second.toNat * 256 + first.toNat
  | .bigEndian => first.toNat * 256 + second.toNat

namespace Utf16

/-- Whether a unit is the first half of a pair. -/
def isLead (unit : Nat) : Bool := 0xD800 ≤ unit && unit ≤ 0xDBFF

/-- Whether a unit is the second half of a pair. -/
def isTrail (unit : Nat) : Bool := 0xDC00 ≤ unit && unit ≤ 0xDFFF

/-- The character of a pair. -/
def ofPair (lead trail : Nat) : Char :=
  Char.ofNat (0x10000 + (lead - 0xD800) * 0x400 + (trail - 0xDC00))

/-- The characters of any bytes, with a replacement character for each half of a pair that is
alone and for what is left at the end. `lead` is the first half of a pair, which the bytes before
have begun. -/
def replace (order : ByteOrder) (lead : Option Nat) : List UInt8 → List Char
  | [] => if lead.isSome then ['\uFFFD'] else []
  | [_] => ['\uFFFD']
  | first :: second :: rest =>
    let unit := order.unit first second
    match lead, isTrail unit with
    | some lead, true => ofPair lead unit :: replace order none rest
    | lead, isTrail =>
      (if lead.isSome then ['\uFFFD'] else []) ++
        if isLead unit then replace order (some unit) rest
        else (if isTrail then '\uFFFD' else Char.ofNat unit) :: replace order none rest

end Utf16

/-- How the bytes of a text are read. -/
inductive Charset where
  /-- As UTF-8. -/
  | utf8
  /-- As UTF-16. -/
  | utf16 (order : ByteOrder)
  /-- As its reader does. -/
  | other (reader : List UInt8 → String)

namespace Charset

/-- The text of bytes that have no byte order mark in front. -/
def readUnmarked (bytes : List UInt8) : Charset → String
  | .utf8 => String.ofList (Utf8.replace bytes)
  | .utf16 order => String.ofList (Utf16.replace order none bytes)
  | .other reader => reader bytes

/-- The byte order marks, and what is read behind them. -/
def marks : List (List UInt8 × Charset) :=
  [([0xEF, 0xBB, 0xBF], .utf8), ([0xFF, 0xFE], .utf16 .littleEndian),
   ([0xFE, 0xFF], .utf16 .bigEndian)]

/-- The text of any bytes. A byte order mark in front goes before the charset. -/
def read (charset : Charset) (bytes : List UInt8) : String :=
  match marks.find? fun (mark, _) => mark.isPrefixOf bytes with
  | some (mark, marked) => marked.readUnmarked (bytes.drop mark.length)
  | none => charset.readUnmarked bytes

example : utf8.read [0xFF, 0xFE, 0x41, 0x00] = "A" := by decide +kernel

end Charset

end HealthLedger.Text
