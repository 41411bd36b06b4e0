import HealthLedger.Text.CaseMap
import HealthLedger.Text.Cased

/-!
# Lowercasing a text

All characters but two are lowercased one by one. A capital I with a dot becomes a small i
followed by a combining dot. A capital sigma takes its final form where a word ends: a cased
letter stands before it and none behind it, when both searches pass over the characters that
are case ignorable.
-/

namespace HealthLedger.Text

/-- Whether the first character that is not passed over is a cased letter. -/
def meetsLetter (chars : List Char) : Bool :=
  match chars.dropWhile isCaseIgnorable with
  | [] => false
  | c :: _ => isCased c

/-- The small form of a capital sigma between the characters before it, nearest first, and the
characters behind it. -/
def lowerSigma (before after : List Char) : Char :=
  if meetsLetter before && !meetsLetter after then 'ς' else 'σ'

/-- The lowercase form of one character in its place. -/
def lowerAt (before : List Char) (c : Char) (after : List Char) : List Char :=
  if c = 'Σ' then [lowerSigma before after]
  else if c = 'İ' then ['i', '\u0307']
  else [simpleLower c]

/-- The lowercase form of the characters behind those in `before`, which stand nearest first. -/
def lowerFrom (before : List Char) : List Char → List Char
  | [] => []
  | c :: after => lowerAt before c after ++ lowerFrom (c :: before) after

/-- The lowercase form of a text. -/
def lowercase (text : String) : String := String.ofList (lowerFrom [] text.toList)

end HealthLedger.Text
