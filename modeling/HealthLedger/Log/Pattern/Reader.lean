import HealthLedger.Log.Pattern.Tree
import HealthLedger.Text.Alphanumeric
import HealthLedger.Text.Blank

/-!
# Reading a pattern

The reader takes a pattern from left to right. It remembers the names of the groups, which must
differ, and whether blanks count. The value of a field in a filter holds no closing brace, so
whatever needs one, like a bounded repetition or a property of characters, is not read. Every
round of the reader takes at least one character, and the count of the characters bounds the
rounds.
-/

namespace HealthLedger.Log.Pattern

/-- Pass over blanks and over comments, which reach from a number sign to the end of the line. -/
def passBlanks (inComment : Bool) : List Char → List Char
  | [] => []
  | c :: rest =>
    if inComment then passBlanks (c ≠ '\n') rest
    else if c = '#' then passBlanks true rest
    else if Text.isBlank c then passBlanks false rest
    else c :: rest

/-- What counts of the rest of a pattern. -/
def skip (ignoreBlank : Bool) (rest : List Char) : List Char :=
  if ignoreBlank then passBlanks false rest else rest

/-- The value of a hexadecimal digit. -/
def hexDigit? (c : Char) : Option Nat :=
  if c.isDigit then some (c.toNat - '0'.toNat)
  else if 'a' ≤ c ∧ c ≤ 'f' then some (c.toNat - 'a'.toNat + 10)
  else if 'A' ≤ c ∧ c ≤ 'F' then some (c.toNat - 'A'.toNat + 10)
  else none

/-- Read a number of hexadecimal digits behind those that have a value already. -/
def readHex (ignoreBlank : Bool) : Nat → Nat → List Char → Option (Nat × List Char)
  | 0, value, rest => some (value, rest)
  | count + 1, value, rest =>
    match skip ignoreBlank rest with
    | [] => none
    | c :: rest => do
      let digit ← hexDigit? c
      readHex ignoreBlank count (value * 16 + digit) rest

/-- Read a character that is written as its code point, with a number of digits. -/
def readCodePoint (ignoreBlank : Bool) (count : Nat) (asByte : Bool) (rest : List Char) :
    Option (Atom × List Char) := do
  let (value, rest) ← readHex ignoreBlank count 0 rest
  if Nat.isValidChar value then some (.literal ⟨Char.ofNat value, asByte⟩, rest) else none

/-- What a backslash and a character stand for, if that is all of it. -/
def escaped? (c : Char) : Option Atom :=
  let literal (value : Char) : Option Atom := some (.literal ⟨value, false⟩)
  match c with
  | 'a' => literal '\x07'
  | 'f' => literal '\x0C'
  | 't' => literal '\t'
  | 'n' => literal '\n'
  | 'r' => literal '\r'
  | 'v' => literal '\x0B'
  | 'A' => some .anchor
  | 'z' => some .anchor
  | 'b' => some .boundary
  | 'B' => some .boundary
  | '<' => some .boundary
  | '>' => some .boundary
  | 'd' => some (.kind false)
  | 's' => some (.kind false)
  | 'w' => some (.kind false)
  | 'D' => some (.kind true)
  | 'S' => some (.kind true)
  | 'W' => some (.kind true)
  | c => if c.toNat < 0x80 ∧ !c.isAlphanum then literal c else none

/-- Read what stands behind a backslash. -/
def readEscape (ignoreBlank : Bool) : List Char → Option (Atom × List Char)
  | [] => none
  | 'x' :: rest => readCodePoint ignoreBlank 2 true rest
  | 'u' :: rest => readCodePoint ignoreBlank 4 false rest
  | 'U' :: rest => readCodePoint ignoreBlank 8 false rest
  | c :: rest => (escaped? c).map fun atom => (atom, rest)

/-- The names of classes of ASCII characters. -/
def classNames : List String :=
  ["alnum", "alpha", "ascii", "blank", "cntrl", "digit", "graph", "lower", "print", "punct",
   "space", "upper", "word", "xdigit"]

/-- Read the name of a class between colons, and the bracket behind it: whether the class is
negated, and the rest. -/
def readClassName? : List Char → Option (Bool × List Char)
  | ':' :: rest =>
    let (negated, rest) := match rest with
      | '^' :: rest => (true, rest)
      | rest => (false, rest)
    let name := rest.takeWhile (· ≠ ':')
    match rest.drop name.length with
    | ':' :: ']' :: behind =>
      if classNames.contains (String.ofList name) then some (negated, behind) else none
    | _ => none
  | _ => none

/-- The item that a part is in a class. -/
def Atom.classItem? : Atom → Option ClassItem
  | .literal char => some (.literal char)
  | .kind negated => some (.kind negated)
  | _ => none

/-- The character that a part is. -/
def Atom.literal? : Atom → Option Literal
  | .literal char => some char
  | _ => none

/-- Read a part inside a class. -/
def readMember (ignoreBlank : Bool) : List Char → Option (Atom × List Char)
  | [] => none
  | '\\' :: rest => readEscape ignoreBlank rest
  | c :: rest => some (.literal ⟨c, false⟩, rest)

/-- The character behind a dash that decides whether the dash makes a range. If a comment comes
first, its first character decides. -/
def decider (ignoreBlank : Bool) (rest : List Char) : Option Char :=
  if ignoreBlank then
    match rest.dropWhile Text.isBlank with
    | '#' :: comment => (comment.dropWhile Text.isBlank).head?
    | rest => rest.head?
  else rest.head?

/-- Read an item of a class, or a range of two. A dash in front of a bracket or of another dash
makes no range. -/
def readRange (ignoreBlank : Bool) (rest : List Char) : Option (ClassItem × List Char) := do
  let (first, rest) ← readMember ignoreBlank rest
  match skip ignoreBlank rest with
  | '-' :: behind =>
    if decider ignoreBlank behind = some ']' ∨ decider ignoreBlank behind = some '-' then
      let item ← first.classItem?
      some (item, '-' :: behind)
    else
      let (last, rest) ← readMember ignoreBlank (skip ignoreBlank behind)
      let low ← first.literal?
      let high ← last.literal?
      if low.value ≤ high.value then some (.range low high, rest) else none
  | rest => do
    let item ← first.classItem?
    some (item, rest)

/-- How far a class has been read. -/
inductive Front where
  /-- A closing bracket or a dash stands for itself. -/
  | opened
  /-- A dash stands for itself. -/
  | dashes
  /-- The class has begun. -/
  | inside
  deriving Repr, DecidableEq

/-- A class that is being read. -/
structure ClassDraft where
  /-- How far it has been read. -/
  front : Front
  /-- The set in front of the last operator. -/
  left : Option ClassSet
  /-- The items behind it, the last one first. -/
  items : List ClassItem

namespace ClassDraft

/-- A class that has been opened. -/
def empty : ClassDraft := ⟨.opened, none, []⟩

/-- The draft with one more item. -/
def add (draft : ClassDraft) (item : ClassItem) : ClassDraft :=
  { draft with front := .inside, items := item :: draft.items }

/-- The set that has been read. -/
def set (draft : ClassDraft) : ClassSet :=
  let right := ClassSet.union draft.items.reverse
  match draft.left with
  | none => right
  | some left => .combined left right

/-- The draft behind an operator. -/
def operate (draft : ClassDraft) : ClassDraft := ⟨.inside, some draft.set, []⟩

end ClassDraft

/-- Whether a class is negated, and the rest behind that. -/
def readNegation (ignoreBlank : Bool) (rest : List Char) : Bool × List Char :=
  match skip ignoreBlank rest with
  | '^' :: rest => (true, rest)
  | rest => (false, rest)

/-- Read the rest of a class and its closing bracket. -/
def readClass (ignoreBlank : Bool) :
    Nat → ClassDraft → List Char → Option (ClassSet × List Char)
  | 0, _, _ => none
  | fuel + 1, draft, rest =>
    let goOn := readClass ignoreBlank fuel
    let char (c : Char) : ClassItem := .literal ⟨c, false⟩
    match skip ignoreBlank rest, draft.front with
    | '-' :: rest, .opened => goOn { draft.add (char '-') with front := .dashes } rest
    | '-' :: rest, .dashes => goOn { draft.add (char '-') with front := .dashes } rest
    | ']' :: rest, .opened => goOn (draft.add (char ']')) rest
    | ']' :: rest, _ => some (draft.set, rest)
    | '&' :: '&' :: rest, _ => goOn draft.operate rest
    | '-' :: '-' :: rest, _ => goOn draft.operate rest
    | '~' :: '~' :: rest, _ => goOn draft.operate rest
    | '[' :: rest, _ =>
      match readClassName? rest with
      | some (negated, rest) => goOn (draft.add (.named negated)) rest
      | none => do
        let (negated, rest) := readNegation ignoreBlank rest
        let (set, rest) ← goOn .empty rest
        goOn (draft.add (.nested negated set)) rest
    | rest, _ => do
      let (item, rest) ← readRange ignoreBlank rest
      goOn (draft.add item) rest

/-- What a reader has in front of it and what it remembers. -/
structure Cursor where
  /-- The rest of the pattern. -/
  rest : List Char
  /-- Whether blanks do not count. -/
  ignoreBlank : Bool
  /-- The names of the groups so far. -/
  names : List (List Char)

/-- Whether a group may have a name. -/
def isGroupName : List Char → Bool
  | [] => false
  | c :: rest =>
    (c = '_' || Text.isAlphabetic c) &&
      rest.all fun c => ['_', '.', '[', ']'].contains c || Text.isAlphanumeric c

/-- Read the name of a group up to its closing angle. -/
def readName (cursor : Cursor) : Option Cursor :=
  let name := cursor.rest.takeWhile (· ≠ '>')
  match cursor.rest.drop name.length with
  | '>' :: rest =>
    if isGroupName name && !cursor.names.contains name then
      some { cursor with rest, names := name :: cursor.names }
    else none
  | _ => none

/-- Whether no flag occurs twice. -/
def areDistinct : List Flag → Bool
  | [] => true
  | flag :: rest => !rest.contains flag && areDistinct rest

/-- The changes that some letters make: those behind a dash turn their flags off. No flag may
be named twice, and a dash needs a letter behind it. -/
def changes? (letters : List Char) : Option (List Change) := do
  let front := letters.takeWhile (· ≠ '-')
  let on ← front.mapM Flag.ofLetter?
  let off ← match letters.drop front.length with
    | [] => some []
    | [_] => none
    | _ :: behind => behind.mapM Flag.ofLetter?
  if areDistinct (on ++ off) then some (on.map (⟨·, true⟩) ++ off.map (⟨·, false⟩)) else none

/-- What an opening parenthesis begins. -/
inductive Opening where
  /-- Flags for the rest of the group that is open. -/
  | flags (changes : List Change) (behind : Cursor)
  /-- A group. -/
  | group (changes : List Change) (behind : Cursor)

/-- The cursor with the flags changed. -/
def Cursor.change (cursor : Cursor) (changes : List Change) : Cursor :=
  { cursor with ignoreBlank := Flag.after .ignoreBlank changes cursor.ignoreBlank }

/-- Read what stands behind an opening parenthesis up to the body of the group. -/
def readOpening (cursor : Cursor) : Option Opening :=
  match skip cursor.ignoreBlank cursor.rest with
  | '?' :: 'P' :: '<' :: rest => (readName { cursor with rest }).map (.group [])
  | '?' :: '<' :: rest => (readName { cursor with rest }).map (.group [])
  | '?' :: rest => do
    let letters := rest.takeWhile fun c => c ≠ ':' ∧ c ≠ ')'
    let changes ← changes? letters
    match rest.drop letters.length with
    | ':' :: rest => some (.group changes ({ cursor with rest }.change changes))
    | ')' :: rest =>
      if letters = [] then none
      else some (.flags changes ({ cursor with rest }.change changes))
    | _ => none
  | rest => some (.group [] { cursor with rest })

/-- The alternatives that are being read. -/
structure Draft where
  /-- The finished alternatives, the last one first. -/
  branches : List Tree
  /-- The parts of the last alternative, the last one first. -/
  items : List Tree

namespace Draft

/-- The parts as one pattern. -/
def sequence (draft : Draft) : Tree :=
  match draft.items with
  | [] => .empty
  | [item] => item
  | items => .sequence items.reverse

/-- All that has been read as one pattern. -/
def tree (draft : Draft) : Tree :=
  match draft.branches with
  | [] => draft.sequence
  | branches => .choice (draft.sequence :: branches).reverse

/-- The draft with one more part. -/
def add (draft : Draft) (item : Tree) : Draft := { draft with items := item :: draft.items }

/-- The draft at the beginning of the next alternative. -/
def branch (draft : Draft) : Draft := ⟨draft.sequence :: draft.branches, []⟩

/-- The draft with its last part repeated. Flags cannot be repeated. -/
def repeatLast? (draft : Draft) : Option Draft :=
  match draft.items with
  | [] => none
  | .flags _ :: _ => none
  | item :: items => some { draft with items := .repeated item :: items }

end Draft

/-- Read up to a closing parenthesis or the end of the pattern. -/
def readBody : Nat → Cursor → Draft → Option (Tree × Cursor)
  | 0, _, _ => none
  | fuel + 1, cursor, draft =>
    let goOn (rest : List Char) (draft : Draft) : Option (Tree × Cursor) :=
      readBody fuel { cursor with rest } draft
    match skip cursor.ignoreBlank cursor.rest with
    | [] => some (draft.tree, { cursor with rest := [] })
    | ')' :: rest => some (draft.tree, { cursor with rest := ')' :: rest })
    | '(' :: rest => do
      match ← readOpening { cursor with rest } with
      | .flags changes behind => readBody fuel behind (draft.add (.flags changes))
      | .group changes behind =>
        let (body, inside) ← readBody fuel behind ⟨[], []⟩
        match inside.rest with
        | ')' :: rest =>
          readBody fuel { cursor with rest, names := inside.names }
            (draft.add (.group changes body))
        | _ => none
    | '|' :: rest => goOn rest draft.branch
    | '[' :: rest => do
      let (negated, rest) := readNegation cursor.ignoreBlank rest
      let (set, rest) ← readClass cursor.ignoreBlank (rest.length + 1) .empty rest
      goOn rest (draft.add (.charClass negated set))
    | '\x7b' :: _ => none
    | '\\' :: rest => do
      let (atom, rest) ← readEscape cursor.ignoreBlank rest
      goOn rest (draft.add (.atom atom))
    | '.' :: rest => goOn rest (draft.add (.atom .dot))
    | c :: rest =>
      if c = '^' ∨ c = '$' then goOn rest (draft.add (.atom .anchor))
      else if c = '?' ∨ c = '*' ∨ c = '+' then do
        let repeated ← draft.repeatLast?
        let rest := match rest with
          | '?' :: rest => rest
          | rest => rest
        goOn rest repeated
      else goOn rest (draft.add (.atom (.literal ⟨c, false⟩)))

/-- Read a pattern. -/
def Tree.parse? (text : String) : Option Tree := do
  let chars := text.toList
  let (tree, cursor) ← readBody (chars.length + 1) ⟨chars, false, []⟩ ⟨[], []⟩
  if cursor.rest = [] then some tree else none

end HealthLedger.Log.Pattern
