import HealthLedger.Text.Percent

/-!
# Addresses

The absolute addresses of the schemes http and https, read in the lenient way of browsers:
blanks and control characters around the text and line breaks and tabs within it do not count,
a backslash is as good as a slash, and the slashes in front of the host may be missing. Segments
of one or two dots move within the path, and other characters are encoded where they must be.
What a request asks for is the path with the query; the fragment stays behind.
-/

namespace HealthLedger.Http

/-- The schemes of addresses that can be asked. -/
inductive Scheme where
  /-- Plain connections. -/
  | http
  /-- Encrypted connections. -/
  | https
  deriving Repr, DecidableEq

namespace Scheme

/-- The name of a scheme. -/
def name : Scheme → String
  | .http => "http"
  | .https => "https"

/-- The port that is taken if an address names none. -/
def port : Scheme → Nat
  | .http => 80
  | .https => 443

/-- The scheme of a name in any case. -/
def ofName? (name : List Char) : Option Scheme :=
  [Scheme.http, .https].find? fun scheme => scheme.name.toList = name.map Char.toLower

end Scheme

/-- An absolute address. -/
structure Url where
  /-- The scheme. -/
  scheme : Scheme
  /-- The host, as it was written. -/
  host : List Char
  /-- The port, unless it is the one of the scheme. -/
  port : Option Nat
  /-- The segments of the path. -/
  path : List (List Char)
  /-- What follows the question mark, if there is one. -/
  query : Option (List Char)
  /-- What follows the number sign, if there is one. -/
  fragment : Option (List Char)
  deriving Repr, DecidableEq

namespace Url

/-- The characters that are encoded in a fragment. -/
def reservedInFragment : List Char := [' ', '"', '<', '>', '`']

/-- The characters that are encoded in a query. -/
def reservedInQuery : List Char := [' ', '"', '#', '<', '>', '\'']

/-- The characters that are encoded in a path. -/
def reservedInPath : List Char := [' ', '"', '#', '<', '>', '?', '^', '`', '{', '}']

/-- The characters that do not occur in a host. -/
def forbiddenInHost : List Char := [' ', '#', '/', '<', '>', '?', '@', '[', '\\', ']', '^', '|']

/-- Whether a character does not count at the ends of an address. -/
def isMargin (c : Char) : Bool := c.toNat ≤ 0x20

/-- Whether a character does not count within an address. -/
def isBreak (c : Char) : Bool := c = '\t' || c = '\n' || c = '\r'

/-- Whether a character separates segments. -/
def isSlash (c : Char) : Bool := c = '/' || c = '\\'

/-- Whether a character ends the path. -/
def endsPath (c : Char) : Bool := c = '?' || c = '#'

/-- Whether a character ends the part with the host. -/
def endsAuthority (c : Char) : Bool := isSlash c || endsPath c

/-- The characters of an address that count. -/
def significant (chars : List Char) : List Char :=
  let started := chars.dropWhile isMargin
  ((started.reverse.dropWhile isMargin).reverse).filter (!isBreak ·)

/-- A port: nothing at all, or a number that fits 16 bits. -/
def port? (scheme : Scheme) : List Char → Option (Option Nat)
  | [] => some none
  | digits =>
    if digits.all Char.isDigit then
      let number := digits.foldl (fun n c => n * 10 + (c.toNat - 48)) 0
      if 65535 < number then none
      else some (if number = scheme.port then none else some number)
    else none

/-- Whether a text can be a host, with brackets or without. It is not checked further: a host that
names no machine lets nobody answer. -/
def isHost (host : List Char) : Bool :=
  let name := match host with
    | '[' :: rest => rest.dropLast
    | name => name
  !name.isEmpty &&
    name.all fun c => !(c.toNat < 0x20 || c.toNat = 0x7F || forbiddenInHost.contains c)

/-- The host with what follows it. Brackets hold a host with colons. -/
def splitHost : List Char → Option (List Char × List Char)
  | '[' :: rest =>
    match rest.dropWhile (· ≠ ']') with
    | _ :: after => some ('[' :: rest.takeWhile (· ≠ ']') ++ [']'], after)
    | [] => none
  | chars => some (chars.takeWhile (· ≠ ':'), chars.dropWhile (· ≠ ':'))

/-- The host and the port. What stands in front of an at sign does not name a host. -/
def hostAndPort? (scheme : Scheme) (authority : List Char) :
    Option (List Char × Option Nat) := do
  let (host, rest) ← splitHost (authority.reverse.takeWhile (· ≠ '@')).reverse
  let port ←
    match rest with
    | [] => some none
    | ':' :: digits => port? scheme digits
    | _ => none
  if isHost host then some (host, port) else none

/-- The pieces between slashes. -/
def segments : List Char → List (List Char)
  | [] => [[]]
  | c :: rest =>
    if isSlash c then [] :: segments rest
    else
      match segments rest with
      | first :: others => (c :: first) :: others
      | [] => [[c]]

/-- There is at least one piece. -/
theorem segments_ne_nil (chars : List Char) : segments chars ≠ [] := by
  induction chars with
  | nil => simp [segments]
  | cons c rest ih =>
    unfold segments
    split
    · simp
    · split <;> simp

/-- A segment with every encoded dot written as a dot. -/
def plainDots : List Char → List Char
  | '%' :: '2' :: 'e' :: rest => '.' :: plainDots rest
  | '%' :: '2' :: 'E' :: rest => '.' :: plainDots rest
  | c :: rest => c :: plainDots rest
  | [] => []

/-- Whether a segment names the place where it stands. -/
def isHere (segment : List Char) : Bool := plainDots segment = ['.']

/-- Whether a segment names the place above. -/
def isAbove (segment : List Char) : Bool := plainDots segment = ['.', '.']

/-- The path after some more segments. A last segment of dots leaves an empty one. -/
def walk (path : List (List Char)) : List (List Char) → List (List Char)
  | [] => path
  | [last] =>
    if isAbove last then path.dropLast ++ [[]]
    else if isHere last then path ++ [[]]
    else path ++ [last]
  | segment :: rest =>
    if isAbove segment then walk path.dropLast rest
    else if isHere segment then walk path rest
    else walk (path ++ [segment]) rest

/-- The path of a text that starts with a slash or is empty. -/
def pathOf (chars : List Char) : List (List Char) :=
  let rooted := match chars with
    | c :: rest => if isSlash c then rest else c :: rest
    | [] => []
  walk [] ((segments rooted).map (Text.Percent.encode reservedInPath))

/-- What follows a character, if the text starts with it. -/
def after? (c : Char) : List Char → Option (List Char)
  | first :: rest => if first = c then some rest else none
  | [] => none

/-- Read an absolute address. -/
def parse? (text : List Char) : Option Url := do
  let chars := significant text
  let scheme ← Scheme.ofName? (chars.takeWhile (· ≠ ':'))
  let rest ← after? ':' (chars.dropWhile (· ≠ ':'))
  let rest := rest.dropWhile isSlash
  let (host, port) ← hostAndPort? scheme (rest.takeWhile (!endsAuthority ·))
  let rest := rest.dropWhile (!endsAuthority ·)
  let path := pathOf (rest.takeWhile (!endsPath ·))
  let rest := rest.dropWhile (!endsPath ·)
  let query := (after? '?' (rest.takeWhile (· ≠ '#'))).map (Text.Percent.encode reservedInQuery)
  let fragment :=
    (after? '#' (rest.dropWhile (· ≠ '#'))).map (Text.Percent.encode reservedInFragment)
  some ⟨scheme, host, port, path, query, fragment⟩

/-- What a request for an address asks for: the path and the query. -/
def target (url : Url) : List Char :=
  url.path.flatMap ('/' :: ·) ++
    match url.query with
    | some query => '?' :: query
    | none => []

/-- The text of an address. -/
def text (url : Url) : List Char :=
  let port := match url.port with
    | some port => ':' :: (toString port).toList
    | none => []
  let fragment := match url.fragment with
    | some fragment => '#' :: fragment
    | none => []
  url.scheme.name.toList ++ "://".toList ++ url.host ++ port ++ url.target ++ fragment

/-- The greatest length of an address that can be asked. -/
def maxLength : Nat := 65534

/-- The address of a text, if it can be asked. -/
def ofText? (text : String) : Option Url :=
  (parse? text.toList).filter fun url => url.text.length ≤ maxLength

end Url

end HealthLedger.Http
