import HealthLedger.Time.Instant

/-!
# The text of an instant

An instant is written as a date, the letter `T`, a time of day and the letter `Z`. A year
beyond four digits or before the year zero has a sign. The fraction of the second is left out
if it is zero and has three, six or nine digits otherwise, the fewest that hold it. A leap
second is written as second 60.
-/

namespace HealthLedger.Time

/-- A number with zeros in front up to a number of digits. -/
def padded (width n : Nat) : String :=
  let digits := toString n
  String.ofList (List.replicate (width - digits.length) '0') ++ digits

/-- The text of a year. -/
def yearText (year : Int) : String :=
  if 0 ≤ year ∧ year ≤ 9999 then padded 4 year.natAbs
  else (if year < 0 then "-" else "+") ++ padded 4 year.natAbs

/-- The text of the fraction of a second, in nanoseconds. -/
def fractionText (nano : Nat) : String :=
  if nano = 0 then ""
  else if nano % 1000000 = 0 then "." ++ padded 3 (nano / 1000000)
  else if nano % 1000 = 0 then "." ++ padded 6 (nano / 1000)
  else "." ++ padded 9 nano

/-- The text of an instant. -/
def Instant.text (instant : Instant) : String :=
  let date := Date.ofDays instant.day
  let leap := instant.nano / 1000000000
  yearText date.year ++ "-" ++ padded 2 date.month ++ "-" ++ padded 2 date.day ++ "T" ++
    padded 2 (instant.second / 3600) ++ ":" ++ padded 2 (instant.second / 60 % 60) ++ ":" ++
    padded 2 (instant.second % 60 + leap) ++ fractionText (instant.nano % 1000000000) ++ "Z"

end HealthLedger.Time
