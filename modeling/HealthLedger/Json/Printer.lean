import HealthLedger.Json.Value
import HealthLedger.Number.Shortest

/-!
# Compact JSON text

A value is printed without blanks and its members in the order they have. In a string the
quotation mark, the backslash and the ASCII controls are escaped, five of them by a letter and
the others by four hexadecimal digits; every other character stands for itself. An integer is
printed in decimal and any other number as the shortest decimal of its double.
-/

namespace HealthLedger.Json

/-- Four hexadecimal digits of a number below `2^16`. -/
def fourHexDigits (n : Nat) : List Char :=
  [n / 4096 % 16, n / 256 % 16, n / 16 % 16, n % 16].map Nat.digitChar

/-- One character of a string. -/
def escapeChar (c : Char) : List Char :=
  if c = '"' then ['\\', '"']
  else if c = '\\' then ['\\', '\\']
  else if c = '\x08' then ['\\', 'b']
  else if c = '\x0c' then ['\\', 'f']
  else if c = '\n' then ['\\', 'n']
  else if c = '\r' then ['\\', 'r']
  else if c = '\t' then ['\\', 't']
  else if c.toNat < 0x20 then '\\' :: 'u' :: fourHexDigits c.toNat
  else [c]

/-- A string between quotation marks. -/
def stringText (s : String) : String :=
  String.ofList ('"' :: s.toList.flatMap escapeChar ++ ['"'])

/-- The text of a number. -/
def Number.text : Number → String
  | .integer value => toString value
  | .float value => value.text

namespace Value

mutual

/-- The compact text of a value. -/
def text : Value → String
  | .null => "null"
  | .bool true => "true"
  | .bool false => "false"
  | .number n => n.text
  | .string s => stringText s
  | .array items => "[" ++ itemsText items ++ "]"
  | .object members => "\x7b" ++ membersText members ++ "\x7d"

/-- The items of an array, separated by commas. -/
def itemsText : List Value → String
  | [] => ""
  | [item] => item.text
  | item :: next :: rest => item.text ++ "," ++ itemsText (next :: rest)

/-- The members of an object, separated by commas. -/
def membersText : Members → String
  | [] => ""
  | [(key, value)] => stringText key ++ ":" ++ value.text
  | (key, value) :: next :: rest =>
    stringText key ++ ":" ++ value.text ++ "," ++ membersText (next :: rest)

end

end Value

end HealthLedger.Json
