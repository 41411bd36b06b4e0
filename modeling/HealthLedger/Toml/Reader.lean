import HealthLedger.Toml.Scalar
import HealthLedger.Toml.Table

/-!
# Reading a TOML document

A document is a list of lines: blank ones, headers, and keys with values. Arrays may go over
several lines, inline tables may not. `Entries.parse` reads the whole document or refuses it.
-/

namespace HealthLedger.Toml

/-- The characters behind blanks, line ends and comments. -/
def skipLines : Nat → List Char → List Char
  | 0, chars => chars
  | fuel + 1, chars =>
    let chars := skipComment (skipSpaces chars)
    match lineEnd? chars with
    | some rest => skipLines fuel rest
    | none => chars

/-- How deeply arrays and inline tables may be nested, and one. -/
def depthLimit : Nat := 80

mutual

/-- A value, with room for nesting. The recursion is bounded by the number of characters. -/
def value? : Nat → Nat → List Char → Option (Value × List Char)
  | 0, _, _ => none
  | fuel + 1, room, chars =>
    match chars with
    | '[' :: rest =>
      if room ≤ 1 then none
      else (items? fuel (room - 1) rest).map fun (items, rest) => (.array items, rest)
    | '{' :: rest =>
      if room ≤ 1 then none
      else do
        let (pairs, rest) ← pairs? fuel (room - 1) true (skipSpaces rest)
        let entries ← Entries.ofPairs pairs
        some (.inline (Item.memberValues entries), rest)
    | '"' :: _ => (string? chars).map fun (text, rest) => (.string text, rest)
    | '\'' :: _ => (string? chars).map fun (text, rest) => (.string text, rest)
    | _ => scalar? chars

/-- The items of an array up to its end. -/
def items? : Nat → Nat → List Char → Option (List Value × List Char)
  | 0, _, _ => none
  | fuel + 1, room, chars =>
    match skipLines chars.length chars with
    | ']' :: rest => some ([], rest)
    | chars => do
      let (item, rest) ← value? fuel room chars
      match skipLines rest.length rest with
      | ',' :: rest =>
        let (items, rest) ← items? fuel room rest
        some (item :: items, rest)
      | ']' :: rest => some ([item], rest)
      | _ => none

/-- The keys and values of an inline table up to its end; `first` says that none stands before. -/
def pairs? : Nat → Nat → Bool → List Char → Option (List (List String × Value) × List Char)
  | 0, _, _, _ => none
  | fuel + 1, room, first, chars =>
    match first, chars with
    | true, '}' :: rest => some ([], rest)
    | _, _ => do
      let (key, rest) ← key? chars
      let rest ← after? '=' rest
      let (value, rest) ← value? fuel room (skipSpaces rest)
      match skipSpaces rest with
      | ',' :: rest =>
        let (pairs, rest) ← pairs? fuel room false rest
        some ((key, value) :: pairs, rest)
      | '}' :: rest => some ([(key, value)], rest)
      | _ => none

end

/-- The root table and the path of the header above. -/
structure State where
  /-- The root table. -/
  root : Entries := []
  /-- The path of the header above, empty before the first one. -/
  path : List String := []

/-- Read a key and a value, up to the end of their line. -/
def State.readPair (state : State) (chars : List Char) : Option (State × List Char) := do
  let (key, rest) ← key? chars
  let rest ← after? '=' rest
  let (value, rest) ← value? (2 * rest.length + 2) depthLimit (skipSpaces rest)
  let rest ← endOfLine? rest
  let root ← state.root.inTable (·.give key value) state.path
  some ({ state with root }, rest)

/-- Read a header, from behind its opening brackets up to the end of its line. -/
def State.readHeader (state : State) (member : Bool) (chars : List Char) :
    Option (State × List Char) := do
  let (key, rest) ← key? chars
  let rest ← after? ']' rest
  let rest ← if member then after? ']' rest else some rest
  let rest ← endOfLine? rest
  let root ← if member then state.root.openMember key else state.root.openTable key
  some (⟨root, key⟩, rest)

/-- Read the lines of a document. Each takes a character at least. -/
def State.readLines : Nat → State → List Char → Option State
  | 0, state, chars => if chars.isEmpty then some state else none
  | fuel + 1, state, chars =>
    match skipSpaces chars with
    | [] => some state
    | '#' :: rest => (endOfLine? ('#' :: rest)).bind (State.readLines fuel state)
    | '\n' :: rest => State.readLines fuel state rest
    | '\r' :: '\n' :: rest => State.readLines fuel state rest
    | '[' :: '[' :: rest =>
      (state.readHeader true rest).bind fun (state, rest) => State.readLines fuel state rest
    | '[' :: rest =>
      (state.readHeader false rest).bind fun (state, rest) => State.readLines fuel state rest
    | chars => (state.readPair chars).bind fun (state, rest) => State.readLines fuel state rest

/-- The root table of a document. A byte order mark in front does not count. -/
def Entries.parse (text : String) : Option Entries :=
  let chars :=
    match text.toList with
    | '\uFEFF' :: rest => rest
    | chars => chars
  (State.readLines (chars.length + 1) {} chars).map (·.root)

end HealthLedger.Toml
