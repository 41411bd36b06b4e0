import HealthLedger.Log.Pattern.Reader

/-!
# Which patterns can be used

A pattern is compared with values that are texts, and without tables of character properties.
So a pattern about characters has no classes that need such a table and no letters that count
as capital and small at once; and a pattern about bytes has nothing that could stand for a part
of a character. A pattern that passes may still ask where words of any script begin or end,
which cannot be decided by looking at single bytes.
-/

namespace HealthLedger.Log.Pattern

/-- Why a text cannot be used as a pattern. -/
inductive Flaw where
  /-- It is no pattern, or it needs something that is not there. -/
  | unusable
  /-- It asks for word boundaries of any script. -/
  | wordBoundary
  deriving Repr, DecidableEq

/-- The wording of a flaw. -/
def Flaw.message : Flaw → String
  | .unusable => "error building NFA"
  | .wordBoundary =>
    "unsupported regex feature for DFAs: cannot build DFAs for regexes with Unicode word " ++
      "boundaries; switch to ASCII word boundaries, or heuristically enable Unicode word " ++
      "boundaries or use a different regex engine"

/-- The flags that decide what can be used. -/
structure Modes where
  /-- The pattern is about characters and not about bytes. -/
  unicode : Bool
  /-- Capital and small letters are alike. -/
  ignoreCase : Bool
  deriving Repr, DecidableEq

namespace Modes

/-- The flags at the beginning of a pattern. -/
def initial : Modes := ⟨true, false⟩

/-- The flags after some changes. -/
def change (modes : Modes) (changes : List Change) : Modes where
  unicode := Flag.after .unicode changes modes.unicode
  ignoreCase := Flag.after .ignoreCase changes modes.ignoreCase

end Modes

/-- Whether a character is in ASCII. -/
def Literal.isAscii (literal : Literal) : Bool := literal.value.toNat < 0x80

/-- Whether a part can be used. Bytes beyond ASCII are no text, and only the letters of ASCII
are known as capital and small. -/
def Atom.isUsable (modes : Modes) : Atom → Bool
  | .literal char =>
    if modes.unicode then !modes.ignoreCase
    else char.isAscii || (!char.asByte && !modes.ignoreCase)
  | .dot => modes.unicode
  | .anchor => true
  | .boundary => true
  | .kind negated => !modes.unicode && !negated

mutual

/-- Whether an item of a class can be used. -/
def ClassItem.isUsable (modes : Modes) : ClassItem → Bool
  | .literal char => if modes.unicode then !modes.ignoreCase else char.isAscii
  | .range first last =>
    if modes.unicode then !modes.ignoreCase else first.isAscii && last.isAscii
  | .named negated => if modes.unicode then !modes.ignoreCase else !negated
  | .kind negated => !modes.unicode && !negated
  | .nested negated set => (modes.unicode || !negated) && set.isUsable modes

/-- Whether the set of a class can be used. -/
def ClassSet.isUsable (modes : Modes) : ClassSet → Bool
  | .union items => ClassItem.areUsable modes items
  | .combined left right => left.isUsable modes && right.isUsable modes

/-- Whether the items of a class can be used. -/
def ClassItem.areUsable (modes : Modes) : List ClassItem → Bool
  | [] => true
  | item :: rest => item.isUsable modes && ClassItem.areUsable modes rest

end

/-- What is known of a pattern up to some place. -/
structure Survey where
  /-- The flags in force. -/
  modes : Modes
  /-- Whether there was a word boundary of any script. -/
  boundary : Bool
  deriving Repr, DecidableEq

mutual

/-- What is known behind a pattern, if it can be used. -/
def Tree.survey? (survey : Survey) : Tree → Option Survey
  | .empty => some survey
  | .flags changes => some { survey with modes := survey.modes.change changes }
  | .atom part =>
    if part.isUsable survey.modes then
      some { survey with
        boundary := survey.boundary || (part = .boundary && survey.modes.unicode) }
    else none
  | .charClass negated set =>
    if (ClassItem.nested negated set).isUsable survey.modes then some survey else none
  | .repeated body => body.survey? survey
  | .group changes body => do
    let inside ← body.survey? { survey with modes := survey.modes.change changes }
    some { survey with boundary := inside.boundary }
  | .sequence items => Tree.surveyAll? survey items
  | .choice branches => Tree.surveyAll? survey branches

/-- What is known behind some patterns, if all can be used. -/
def Tree.surveyAll? (survey : Survey) : List Tree → Option Survey
  | [] => some survey
  | tree :: rest => do
    let survey ← tree.survey? survey
    Tree.surveyAll? survey rest

end

/-- How deeply a pattern may be nested. -/
def depthLimit : Nat := 250

/-- Why a text cannot be used as a pattern, if it cannot. -/
def flaw? (text : String) : Option Flaw :=
  match Tree.parse? text with
  | none => some .unusable
  | some tree =>
    if depthLimit < tree.depth then some .unusable
    else
      match tree.survey? ⟨.initial, false⟩ with
      | none => some .unusable
      | some survey => if survey.boundary then some .wordBoundary else none

end HealthLedger.Log.Pattern
