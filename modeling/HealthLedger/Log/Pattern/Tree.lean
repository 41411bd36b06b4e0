/-!
# The structure of a pattern

A pattern is a regular expression. Its tree has what decides whether the pattern can be used:
the flags that are in force where something stands, the literals, the classes of characters,
the word boundaries, and how deeply the pattern is nested. Of a class only what it is made of
is kept, and of an anchor or a repetition only that it is there.
-/

namespace HealthLedger.Log.Pattern

/-- A flag that can be turned on and off within a pattern. -/
inductive Flag where
  /-- Capital and small letters are alike. -/
  | ignoreCase
  /-- The anchors of a line hold at every line. -/
  | multiLine
  /-- The dot stands for a newline as well. -/
  | dotAll
  /-- A line may end with a carriage return and a newline. -/
  | carriageReturn
  /-- Repetitions are as short as possible unless they are marked. -/
  | swapGreed
  /-- The pattern is about characters and not about bytes. -/
  | unicode
  /-- Blanks and comments in the pattern do not count. -/
  | ignoreBlank
  deriving Repr, DecidableEq

/-- The flag with a letter. -/
def Flag.ofLetter? : Char → Option Flag
  | 'i' => some .ignoreCase
  | 'm' => some .multiLine
  | 's' => some .dotAll
  | 'R' => some .carriageReturn
  | 'U' => some .swapGreed
  | 'u' => some .unicode
  | 'x' => some .ignoreBlank
  | _ => none

/-- What a group of flags does to one of them. -/
structure Change where
  /-- The flag. -/
  flag : Flag
  /-- Whether it is turned on. -/
  on : Bool
  deriving Repr, DecidableEq

/-- A flag after some changes, none of which names a flag twice. -/
def Flag.after (flag : Flag) (changes : List Change) (before : Bool) : Bool :=
  match changes.find? (·.flag = flag) with
  | some change => change.on
  | none => before

/-- A character that stands for itself. -/
structure Literal where
  /-- The character. -/
  value : Char
  /-- Whether it is written as a byte, with two hexadecimal digits. -/
  asByte : Bool
  deriving Repr, DecidableEq

/-- A part of a pattern that has no parts. -/
inductive Atom where
  /-- A character that stands for itself. -/
  | literal (literal : Literal)
  /-- Any character. -/
  | dot
  /-- The beginning or the end of a line or of the text. -/
  | anchor
  /-- A place where a word begins or ends, or where none does. -/
  | boundary
  /-- The digits, the blanks or the characters of words, or all but these. -/
  | kind (negated : Bool)
  deriving Repr, DecidableEq

mutual

/-- What stands in a class of characters. -/
inductive ClassItem where
  /-- A character. -/
  | literal (literal : Literal)
  /-- The characters from one to another. -/
  | range (first last : Literal)
  /-- A class of ASCII characters that has a name, or all but these. -/
  | named (negated : Bool)
  /-- The digits, the blanks or the characters of words, or all but these. -/
  | kind (negated : Bool)
  /-- A class inside the class. -/
  | nested (negated : Bool) (set : ClassSet)

/-- The set that a class is made of. -/
inductive ClassSet where
  /-- What is in one of the items. -/
  | union (items : List ClassItem)
  /-- The intersection or a difference of two sets. -/
  | combined (left right : ClassSet)

end

/-- A pattern. -/
inductive Tree where
  /-- Nothing. -/
  | empty
  /-- Flags for the rest of the group. -/
  | flags (changes : List Change)
  /-- A part without parts. -/
  | atom (atom : Atom)
  /-- A class of characters. -/
  | charClass (negated : Bool) (set : ClassSet)
  /-- Something that may stand there a number of times. -/
  | repeated (body : Tree)
  /-- A group with flags of its own. -/
  | group (changes : List Change) (body : Tree)
  /-- Two or more parts one behind the other. -/
  | sequence (items : List Tree)
  /-- Two or more alternatives. -/
  | choice (branches : List Tree)

mutual

/-- How deeply an item of a class is nested. -/
def ClassItem.depth : ClassItem → Nat
  | .nested _ set => set.depth + 1
  | _ => 0

/-- How deeply a set is nested. A union of a single item is no more than the item. -/
def ClassSet.depth : ClassSet → Nat
  | .union [] => 0
  | .union [item] => item.depth
  | .union items => ClassItem.greatestDepth items + 1
  | .combined left right => Nat.max left.depth right.depth + 1

/-- How deeply the items of a class are nested. -/
def ClassItem.greatestDepth : List ClassItem → Nat
  | [] => 0
  | item :: rest => Nat.max item.depth (ClassItem.greatestDepth rest)

end

mutual

/-- How deeply a pattern is nested. -/
def Tree.depth : Tree → Nat
  | .empty => 0
  | .flags _ => 0
  | .atom _ => 0
  | .charClass _ set => set.depth + 1
  | .repeated body => body.depth + 1
  | .group _ body => body.depth + 1
  | .sequence items => Tree.greatestDepth items + 1
  | .choice branches => Tree.greatestDepth branches + 1

/-- How deeply some patterns are nested. -/
def Tree.greatestDepth : List Tree → Nat
  | [] => 0
  | tree :: rest => Nat.max tree.depth (Tree.greatestDepth rest)

end

end HealthLedger.Log.Pattern
