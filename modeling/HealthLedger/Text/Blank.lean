import HealthLedger.Text.Ranges

/-!
# Blank characters

A blank is a character with the property White_Space: the ASCII blanks, the next-line and
no-break characters, and the spaces and separators of general punctuation. `isBlank` decides
the class, and the trimming functions drop its members from the ends of a text.
-/

namespace HealthLedger.Text

/-- The characters with the property White_Space. -/
def blankRanges : Ranges :=
  [(0x9, 0xD), (0x20, 0x20), (0x85, 0x85), (0xA0, 0xA0), (0x1680, 0x1680), (0x2000, 0x200A),
   (0x2028, 0x2029), (0x202F, 0x202F), (0x205F, 0x205F), (0x3000, 0x3000)]

/-- Whether a character is white space. -/
def isBlank (c : Char) : Bool := blankRanges.covers c

/-- The text from its first character that is not blank. -/
def trimStart (chars : List Char) : List Char := chars.dropWhile isBlank

/-- The text up to its last character that is not blank. -/
def trimEnd (chars : List Char) : List Char := (chars.reverse.dropWhile isBlank).reverse

/-- The text between its first and its last character that is not blank. -/
def trim (chars : List Char) : List Char := trimEnd (trimStart chars)

/-- Whether a text has no character but blanks. -/
def isBlankText (text : String) : Bool := text.toList.all isBlank

end HealthLedger.Text
