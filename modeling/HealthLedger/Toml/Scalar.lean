import HealthLedger.Number.Double
import HealthLedger.Time.Instant
import HealthLedger.Toml.Text
import HealthLedger.Toml.Value

/-!
# Numbers and times of TOML

An integer is decimal with an optional sign and no zero in front, or hexadecimal, octal or
binary behind a prefix, and lies within 64 bits. A float has a fraction or an exponent. A
single underscore may stand between two digits. A date must be one of the calendar, and a time
may follow it, with an offset or without.
-/

namespace HealthLedger.Toml

/-- Digits that may be separated by single underscores, behind the first one. -/
def moreDigits (isDigit : Char → Bool) : List Char → Option (List Char × List Char)
  | '_' :: c :: rest =>
    if isDigit c then (moreDigits isDigit rest).map fun (found, rest) => (c :: found, rest)
    else none
  | c :: rest =>
    if c = '_' then none
    else if isDigit c then (moreDigits isDigit rest).map fun (found, rest) => (c :: found, rest)
    else some ([], c :: rest)
  | [] => some ([], [])

/-- At least one digit, and more that may be separated by underscores. -/
def digits? (isDigit : Char → Bool) : List Char → Option (List Char × List Char)
  | c :: rest =>
    if isDigit c then (moreDigits isDigit rest).map fun (found, rest) => (c :: found, rest)
    else none
  | [] => none

/-- An optional sign: whether it is a minus. -/
def sign : List Char → Bool × List Char
  | '+' :: rest => (false, rest)
  | '-' :: rest => (true, rest)
  | chars => (false, chars)

/-- A decimal integer without its sign: a zero, or digits that do not begin with one. -/
def wholePart? : List Char → Option (List Char × List Char)
  | '0' :: rest => some (['0'], rest)
  | chars => digits? Char.isDigit chars

/-- The number written by digits of a base. -/
def numberOf (base : Nat) (digits : List Char) : Nat :=
  digits.foldl (fun n c => n * base + (hexDigit? c).getD 0) 0

/-- An integer from the least one of 64 bits to the greatest. -/
def within (n : Int) (rest : List Char) : Front Value :=
  if -9223372036854775808 ≤ n ∧ n ≤ 9223372036854775807 then some (.integer n, rest) else none

/-- An integer behind the prefix of a base. -/
def based? (base : Nat) (isDigit : Char → Bool) (chars : List Char) :
    Option (Value × List Char) := do
  let (digits, rest) ← digits? isDigit chars
  within (numberOf base digits) rest

/-- An integer. -/
def integer? : List Char → Option (Value × List Char)
  | '0' :: 'x' :: rest => based? 16 (fun c => (hexDigit? c).isSome) rest
  | '0' :: 'o' :: rest => based? 8 (fun c => '0' ≤ c && c ≤ '7') rest
  | '0' :: 'b' :: rest => based? 2 (fun c => c = '0' || c = '1') rest
  | chars => do
    let (negative, rest) := sign chars
    let (digits, rest) ← wholePart? rest
    let n : Int := numberOf 10 digits
    within (if negative then -n else n) rest

/-- The exponent of a float: its sign and its digits. -/
def exponent? : List Char → Option ((Bool × List Char) × List Char)
  | 'e' :: rest => digits rest
  | 'E' :: rest => digits rest
  | _ => none
where
  /-- The sign and the digits behind the letter. -/
  digits (chars : List Char) : Option ((Bool × List Char) × List Char) := do
    let (negative, rest) := sign chars
    let (found, rest) ← digits? Char.isDigit rest
    some ((negative, found), rest)

/-- The fraction of a float: the digits behind the point. -/
def fraction? : List Char → Option (List Char × List Char)
  | '.' :: rest => digits? Char.isDigit rest
  | _ => none

/-- Whether the decimal `digits * 10 ^ power` is beyond the largest double. The number of digits
decides unless it is close. -/
def isHuge (digits : List Char) (power : Int) : Bool :=
  let digits := digits.dropWhile (· = '0')
  let size := digits.length + power
  if digits.isEmpty then false
  else if 310 < size then true
  else if size < 300 then false
  else
    let n := numberOf 10 digits
    let (numerator, denominator) :=
      match power with
      | .ofNat p => (n * Nat.pow 10 p, 1)
      | .negSucc p => (n, Nat.pow 10 (p + 1))
    (Number.Double.ofRatio false numerator denominator).isNone

/-- The front of some characters up to where others begin. -/
def lexeme (chars rest : List Char) : String :=
  String.ofList (chars.take (chars.length - rest.length))

/-- A float with digits. It must not be beyond the largest double. -/
def decimalFloat? (chars : List Char) : Option (Value × List Char) := do
  let (negative, rest) := sign chars
  let (whole, rest) ← wholePart? rest
  let (fraction, rest) ←
    match rest with
    | '.' :: _ => fraction? rest
    | 'e' :: _ => some ([], rest)
    | 'E' :: _ => some ([], rest)
    | _ => none
  let ((down, power), rest) ←
    match rest with
    | 'e' :: _ => exponent? rest
    | 'E' :: _ => exponent? rest
    | _ => some ((false, []), rest)
  let power : Int := if down then -(numberOf 10 power : Int) else numberOf 10 power
  if !negative && isHuge (whole ++ fraction) (power - fraction.length) then none
  else some (.float (lexeme chars rest), rest)

/-- A float that is no number: infinity or the absence of one. -/
def specialFloat? (chars : List Char) : Option (Value × List Char) :=
  match (sign chars).2 with
  | 'i' :: 'n' :: 'f' :: rest => some (.float (lexeme chars rest), rest)
  | 'n' :: 'a' :: 'n' :: rest => some (.float (lexeme chars rest), rest)
  | _ => none

/-- A float. -/
def float? (chars : List Char) : Option (Value × List Char) :=
  (decimalFloat? chars).orElse fun _ => specialFloat? chars

/-- A number of exactly so many digits, within bounds. -/
def fixed? (width low high : Nat) (chars : List Char) : Option (Nat × List Char) :=
  let digits := chars.take width
  let n := numberOf 10 digits
  if digits.length = width && digits.all Char.isDigit && low ≤ n && n ≤ high then
    some (n, chars.drop width)
  else none

/-- The characters behind a given one. -/
def after? (c : Char) : List Char → Option (List Char)
  | found :: rest => if found = c then some rest else none
  | [] => none

/-- A date of the calendar. -/
def date? (chars : List Char) : Option (List Char) := do
  let (year, rest) ← fixed? 4 0 9999 chars
  let rest ← after? '-' rest
  let (month, rest) ← fixed? 2 1 12 rest
  let rest ← after? '-' rest
  let (_, rest) ← fixed? 2 1 (Time.daysInMonth year month) rest
  some rest

/-- A time of day, with any number of digits behind the point of its second. -/
def timeOfDay? (chars : List Char) : Option (List Char) := do
  let (_, rest) ← fixed? 2 0 23 chars
  let rest ← after? ':' rest
  let (_, rest) ← fixed? 2 0 59 rest
  let rest ← after? ':' rest
  let (_, rest) ← fixed? 2 0 60 rest
  match rest with
  | '.' :: c :: fraction =>
    if c.isDigit then some (fraction.dropWhile Char.isDigit) else none
  | '.' :: [] => none
  | rest => some rest

/-- An offset from UTC: the letter Z, or a sign, hours and minutes. -/
def offset? : List Char → Option (List Char)
  | 'Z' :: rest => some rest
  | 'z' :: rest => some rest
  | '+' :: rest => hoursAndMinutes rest
  | '-' :: rest => hoursAndMinutes rest
  | _ => none
where
  /-- Hours and minutes of an offset. -/
  hoursAndMinutes (chars : List Char) : Option (List Char) := do
    let (_, rest) ← fixed? 2 0 23 chars
    let rest ← after? ':' rest
    let (_, rest) ← fixed? 2 0 59 rest
    some rest

/-- A date, and a time of day and an offset if they follow. -/
def datedTime? (chars : List Char) : Option (List Char) := do
  let rest ← date? chars
  match rest with
  | c :: time =>
    if c = 'T' ∨ c = 't' ∨ c = ' ' then
      match timeOfDay? time with
      | some rest => some ((offset? rest).getD rest)
      | none => some (c :: time)
    else some (c :: time)
  | [] => some []

/-- A date, a time of day or both. -/
def datetime? (chars : List Char) : Option (Value × List Char) :=
  ((datedTime? chars).orElse fun _ => timeOfDay? chars).map fun rest =>
    (.datetime (lexeme chars rest), rest)

/-- A truth value. -/
def boolean? : List Char → Option (Value × List Char)
  | 't' :: 'r' :: 'u' :: 'e' :: rest => some (.boolean true, rest)
  | 'f' :: 'a' :: 'l' :: 's' :: 'e' :: rest => some (.boolean false, rest)
  | _ => none

/-- A scalar that is no string. -/
def scalar? (chars : List Char) : Option (Value × List Char) :=
  (boolean? chars).orElse fun _ =>
    (datetime? chars).orElse fun _ =>
      (float? chars).orElse fun _ => integer? chars

end HealthLedger.Toml
