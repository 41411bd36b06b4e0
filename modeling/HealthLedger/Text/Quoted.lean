import HealthLedger.Text.Invisible

/-!
# Quoted text in messages

A message shows a text it was given between quotation marks, on one line and with nothing
invisible: the mark and the backslash are escaped, tab, newline, return and the null character
have short escapes, and every other character that shows nothing of its own is written as its
code point in hexadecimal.
-/

namespace HealthLedger.Text

/-- The code point of a character in braces, as lowercase hexadecimal digits. -/
def codePointEscape (c : Char) : List Char :=
  "\\u\x7b".toList ++ Nat.toDigits 16 c.toNat ++ ['}']

/-- One character of a quoted text. -/
def quoteChar (c : Char) : List Char :=
  if c = '"' then ['\\', '"']
  else if c = '\\' then ['\\', '\\']
  else if c = '\t' then ['\\', 't']
  else if c = '\n' then ['\\', 'n']
  else if c = '\r' then ['\\', 'r']
  else if c = '\x00' then ['\\', '0']
  else if isInvisible c then codePointEscape c
  else [c]

/-- A text between quotation marks. -/
def quoted (text : String) : String :=
  String.ofList ('"' :: text.toList.flatMap quoteChar ++ ['"'])

/-- A list of texts, each between quotation marks, in brackets. -/
def quotedList (texts : List String) : String :=
  "[" ++ ", ".intercalate (texts.map quoted) ++ "]"

end HealthLedger.Text
