/-!
# Strings and keys of TOML

A string is basic or literal, on one line or on several. In a basic string a backslash begins
an escape; on several lines it may also end a line, and then it removes all blanks and line
ends up to the next character. A string on several lines drops a line end right behind its
opening marks and may end with two more quotation marks than its closing ones.
-/

namespace HealthLedger.Toml

/-- What is read from the front of some characters, and the characters behind it. -/
abbrev Front (α : Type) := Option (α × List Char)

/-- Whether a character is a blank within a line. -/
def isSpace (c : Char) : Bool := c = ' ' || c = '\t'

/-- The characters behind blanks. -/
def skipSpaces (chars : List Char) : List Char := chars.dropWhile isSpace

/-- Whether a character may stand in a comment or a string: a tab, or no control character. -/
def isText (c : Char) : Bool := c = '\t' || (0x20 ≤ c.toNat && c.toNat ≠ 0x7F)

/-- The characters behind a line end. -/
def lineEnd? : List Char → Option (List Char)
  | '\n' :: rest => some rest
  | '\r' :: '\n' :: rest => some rest
  | _ => none

/-- The characters behind a comment, if there is one. -/
def skipComment : List Char → List Char
  | '#' :: rest => rest.dropWhile isText
  | chars => chars

/-- The characters behind the rest of a line, which may hold only blanks and a comment. -/
def endOfLine? (chars : List Char) : Option (List Char) :=
  match skipComment (skipSpaces chars) with
  | [] => some []
  | rest => lineEnd? rest

/-- The number of a hexadecimal digit. -/
def hexDigit? (c : Char) : Option Nat :=
  if c.isDigit then some (c.toNat - 48)
  else if 'a' ≤ c && c ≤ 'f' then some (c.toNat - 87)
  else if 'A' ≤ c && c ≤ 'F' then some (c.toNat - 55)
  else none

/-- The number written by hexadecimal digits. -/
def hexNumber? (digits : List Char) : Option Nat :=
  digits.foldlM (fun n c => (hexDigit? c).map (n * 16 + ·)) 0

/-- The character whose code point is written in hexadecimal. -/
def codePoint? (digits : List Char) : Option Char :=
  (hexNumber? digits).bind fun n => if h : n.isValidChar then some (Char.ofNatAux n h) else none

/-- The character of a one-letter escape. -/
def simpleEscape? : Char → Option Char
  | 'b' => some '\x08'
  | 't' => some '\t'
  | 'n' => some '\n'
  | 'f' => some '\x0c'
  | 'r' => some '\r'
  | '"' => some '"'
  | '\\' => some '\\'
  | _ => none

/-- The rest of a basic string on one line. `done` holds its characters so far, the last one
first. -/
def basicString (done : List Char) : List Char → Front String
  | [] => none
  | '"' :: rest => some (String.ofList done.reverse, rest)
  | '\\' :: 'u' :: a :: b :: c :: d :: rest =>
    match codePoint? [a, b, c, d] with
    | some found => basicString (found :: done) rest
    | none => none
  | '\\' :: 'U' :: a :: b :: c :: d :: e :: f :: g :: h :: rest =>
    match codePoint? [a, b, c, d, e, f, g, h] with
    | some found => basicString (found :: done) rest
    | none => none
  | '\\' :: letter :: rest =>
    match simpleEscape? letter with
    | some found => basicString (found :: done) rest
    | none => none
  | c :: rest => if isText c && c != '\\' then basicString (c :: done) rest else none

/-- The closing marks of a string on several lines: up to two more marks belong to the string. -/
def closeLong (mark : Char) (done : List Char) (rest : List Char) : Front String :=
  let more := (rest.takeWhile (· = mark)).length
  let kept := if more < 2 then more else 2
  some (String.ofList (done.reverse ++ List.replicate kept mark), rest.drop kept)

/-- Whether the rest of a line holds only blanks. -/
def endsLine (chars : List Char) : Bool := (lineEnd? (skipSpaces chars)).isSome

/-- The rest of a basic string on several lines. `joining` says that blanks and line ends are
dropped. -/
def longBasicString (joining : Bool) (done : List Char) : List Char → Front String
  | [] => none
  | '"' :: '"' :: '"' :: rest => closeLong '"' done rest
  | '\n' :: rest => longBasicString joining (if joining then done else '\n' :: done) rest
  | '\r' :: '\n' :: rest => longBasicString joining (if joining then done else '\n' :: done) rest
  | '\\' :: 'u' :: a :: b :: c :: d :: rest =>
    match codePoint? [a, b, c, d] with
    | some found => longBasicString false (found :: done) rest
    | none => none
  | '\\' :: 'U' :: a :: b :: c :: d :: e :: f :: g :: h :: rest =>
    match codePoint? [a, b, c, d, e, f, g, h] with
    | some found => longBasicString false (found :: done) rest
    | none => none
  | '\\' :: next :: rest =>
    if endsLine (next :: rest) then longBasicString true done (next :: rest)
    else
      match simpleEscape? next with
      | some found => longBasicString false (found :: done) rest
      | none => none
  | c :: rest =>
    if joining && isSpace c then longBasicString true done rest
    else if isText c && c != '\\' then longBasicString false (c :: done) rest
    else none

/-- The rest of a literal string on one line. -/
def literalString (chars : List Char) : Front String :=
  let body := chars.takeWhile fun c => isText c && c != '\''
  match chars.drop body.length with
  | '\'' :: rest => some (String.ofList body, rest)
  | _ => none

/-- The rest of a literal string on several lines. -/
def longLiteralString (done : List Char) : List Char → Front String
  | [] => none
  | '\'' :: '\'' :: '\'' :: rest => closeLong '\'' done rest
  | '\n' :: rest => longLiteralString ('\n' :: done) rest
  | '\r' :: '\n' :: rest => longLiteralString ('\n' :: done) rest
  | c :: rest => if isText c then longLiteralString (c :: done) rest else none

/-- The characters behind a line end, if they begin with one. -/
def dropLineEnd (chars : List Char) : List Char := (lineEnd? chars).getD chars

/-- A string of any form. -/
def string? : List Char → Front String
  | '"' :: '"' :: '"' :: rest => longBasicString false [] (dropLineEnd rest)
  | '"' :: rest => basicString [] rest
  | '\'' :: '\'' :: '\'' :: rest => longLiteralString [] (dropLineEnd rest)
  | '\'' :: rest => literalString rest
  | _ => none

/-- Whether a character may stand in a key without quotation marks. -/
def isKeyChar (c : Char) : Bool := c.isAlphanum || c = '-' || c = '_'

/-- One part of a key. -/
def simpleKey? : List Char → Front String
  | '"' :: rest => basicString [] rest
  | '\'' :: rest => literalString rest
  | chars =>
    match chars.takeWhile isKeyChar with
    | [] => none
    | name => some (String.ofList name, chars.drop name.length)

/-- The parts of a key, separated by dots with blanks around them. -/
def keyParts? : Nat → List Char → Option (List String × List Char)
  | 0, _ => none
  | fuel + 1, chars => do
    let (name, rest) ← simpleKey? (skipSpaces chars)
    match skipSpaces rest with
    | '.' :: rest =>
      let (names, rest) ← keyParts? fuel rest
      some (name :: names, rest)
    | rest => some ([name], rest)

/-- One more than the greatest number of parts of a key. -/
def partLimit : Nat := 80

/-- A key and the blanks around it. -/
def key? (chars : List Char) : Front (List String) := keyParts? (partLimit - 1) chars

end HealthLedger.Toml
