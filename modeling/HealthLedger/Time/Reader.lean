import HealthLedger.Text.Blank
import HealthLedger.Time.Instant

/-!
# Reading an instant

The reader takes a date, a separator, a time of day and an offset from UTC. It is more lenient
than the form it is printed in: blanks may stand before numbers and around separators, numbers
may have fewer digits, a year with a sign may have more, the fraction of a second may have any
number of digits, of which nine count, and the hours and minutes of an offset may be separated
by colons and blanks or not at all. Every number is held against its range as soon as it is
read; whether the calendar has the date is asked at the end.
-/

namespace HealthLedger.Time

/-- A reason why a text is not an instant. -/
inductive Flaw where
  /-- The text ends too early. -/
  | premature
  /-- A character stands where it cannot. -/
  | invalid
  /-- A number is beyond its range, or the calendar has no such date. -/
  | outOfRange
  /-- Something follows the offset. -/
  | trailing
  /-- The instant lies outside the calendar in UTC. -/
  | impossible
  deriving Repr, DecidableEq

/-- The wording of a flaw. -/
def Flaw.message : Flaw → String
  | .premature => "premature end of input"
  | .invalid => "input contains invalid characters"
  | .outOfRange => "input is out of range"
  | .trailing => "trailing input"
  | .impossible => "no possible date and time matching input"

/-- A reader of the front of a text. -/
abbrev Reader := StateT (List Char) (Except Flaw)

namespace Reader

/-- Fail for a reason. -/
def fail {α : Type} (flaw : Flaw) : Reader α := fun _ => .error flaw

/-- Pass over blanks. -/
def blanks : Reader Unit := modify Text.trimStart

/-- Take a character. -/
def literal (c : Char) : Reader Unit := fun chars =>
  match chars with
  | [] => .error .premature
  | found :: rest => if found = c then .ok ((), rest) else .error .invalid

/-- The greatest number a reader can hold. -/
def greatest : Nat := 9223372036854775807

/-- Add up to `width` digits to a number; `width` is unlimited if `none`. -/
def digitsFrom (n : Nat) : Option Nat → List Char → Except Flaw (Nat × List Char)
  | _, [] => .ok (n, [])
  | width, c :: rest =>
    if c.isDigit && width != some 0 then
      let n := n * 10 + (c.toNat - 48)
      if greatest < n then .error .outOfRange
      else digitsFrom n (width.map (· - 1)) rest
    else .ok (n, c :: rest)

/-- Take a number of at least one digit and at most `width`. -/
def number (width : Option Nat) : Reader Nat := fun chars =>
  match chars with
  | [] => .error .premature
  | c :: _ => if c.isDigit then digitsFrom 0 width chars else .error .invalid

/-- Take a number of one or two digits in a range, with blanks before it. -/
def field (low high : Nat) : Reader Nat := do
  blanks
  let n ← number (some 2)
  if low ≤ n && n ≤ high then return n else fail .outOfRange

/-- Take a year: four digits at most, or any number of them behind a sign. -/
def year : Reader Int := do
  blanks
  let chars ← get
  let n : Int ←
    match chars with
    | '-' :: rest => do
      set rest
      let n ← number none
      pure (-(n : Int))
    | '+' :: rest => do
      set rest
      let n ← number none
      pure (n : Int)
    | _ => do
      let n ← number (some 4)
      pure (n : Int)
  if -2147483648 ≤ n ∧ n ≤ 2147483647 then return n else fail .outOfRange

/-- Take the character between a date and a time of day. -/
def separator : Reader Unit := fun chars =>
  match chars with
  | [] => .error .premature
  | c :: rest => if c = 'T' ∨ c = 't' ∨ c = ' ' then .ok ((), rest) else .error .invalid

/-- Take the fraction of a second, if there is one, in nanoseconds. -/
def fraction : Reader Nat := do
  match ← get with
  | '.' :: rest =>
    set rest
    let n ← number (some 9)
    let taken := rest.length - (← get).length
    modify fun chars => chars.dropWhile Char.isDigit
    return n * Nat.pow 10 (9 - taken)
  | _ => return 0

/-- Take two digits, of which the first is at most `tens`; a greater first digit is out of
range. -/
def twoDigits (tens : Nat) : Reader Nat := fun chars =>
  match chars with
  | [] => .error .premature
  | [c] => if c.utf8Size = 1 then .error .premature else .error .invalid
  | c :: d :: rest =>
    if c.isDigit && d.isDigit then
      if tens < c.toNat - 48 then .error .outOfRange
      else .ok ((c.toNat - 48) * 10 + (d.toNat - 48), rest)
    else .error .invalid

/-- Take the sign of an offset: whether it is negative. -/
def offsetSign : Reader Bool := fun chars =>
  match chars with
  | [] => .error .premature
  | '+' :: rest => .ok (false, rest)
  | '-' :: rest => .ok (true, rest)
  | '−' :: rest => .ok (true, rest)
  | _ => .error .invalid

/-- Take an offset from UTC, in seconds. -/
def offset : Reader Int := do
  match ← get with
  | 'Z' :: rest =>
    set rest
    return 0
  | 'z' :: rest =>
    set rest
    return 0
  | u :: t :: c :: rest =>
    if u.toUpper = 'U' ∧ t.toUpper = 'T' ∧ c.toUpper = 'C' then
      set rest
      return 0
    else signed
  | _ => signed
where
  /-- Take a sign, hours and minutes. -/
  signed : Reader Int := do
    let negative ← offsetSign
    let hours ← twoDigits 9
    modify fun chars => chars.dropWhile fun c => c = ':' || Text.isBlank c
    let minutes ← twoDigits 5
    let seconds : Int := hours * 3600 + minutes * 60
    return if negative then -seconds else seconds

end Reader

/-- A date and a time of day with an offset from UTC, as they are written. -/
structure Stamp where
  /-- The date. -/
  date : Date
  /-- The second of the day. -/
  second : Nat
  /-- The nanoseconds within the second. -/
  nano : Nat
  /-- The offset from UTC in seconds. -/
  offset : Int

/-- The reader of a stamp. -/
def stamp : Reader Stamp := do
  let year ← Reader.year
  Reader.blanks
  Reader.literal '-'
  let month ← Reader.field 1 12
  Reader.blanks
  Reader.literal '-'
  let day ← Reader.field 1 31
  Reader.separator
  let hour ← Reader.field 0 23
  Reader.blanks
  Reader.literal ':'
  let minute ← Reader.field 0 59
  Reader.blanks
  Reader.literal ':'
  let second ← Reader.field 0 60
  let nano ← Reader.fraction
  Reader.blanks
  let offset ← Reader.offset
  Reader.blanks
  let rest ← get
  unless rest.isEmpty do Reader.fail .trailing
  let leap := second / 60
  return ⟨⟨year, month, day⟩, hour * 3600 + minute * 60 + (second - leap),
    nano + leap * 1000000000, offset⟩

/-- The instant of a stamp. -/
def Stamp.instant (stamp : Stamp) : Except Flaw Instant :=
  if !stamp.date.isValid then .error .outOfRange
  else if 86400 ≤ stamp.offset.natAbs then .error .outOfRange
  else
    let seconds := (stamp.second : Int) - stamp.offset
    let day := stamp.date.toDays + seconds / 86400
    if firstDay ≤ day ∧ day ≤ lastDay then .ok ⟨day, (seconds % 86400).toNat, stamp.nano⟩
    else .error .impossible

/-- The instant of a text. -/
def Instant.parse (text : String) : Except Flaw Instant := do
  let (stamp, _) ← stamp.run text.toList
  stamp.instant

end HealthLedger.Time
