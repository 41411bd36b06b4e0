import HealthLedger.Json.Value

/-!
# Numbers as they are written

A numeral is the digits of a number before they are given a value. Digits are taken into a
word of 64 bits one by one. Whole digits that no longer fit count as a power of ten, and from
the first fraction digit that does not fit all are dropped. A numeral without fraction and
exponent is an integer if its digits fit and its sign leaves it within 64 bits, and any other
numeral is the double made of its digits and its power of ten.
-/

namespace HealthLedger.Json

/-- The digits of a number. -/
structure Numeral where
  /-- Whether a minus sign stands in front. -/
  negative : Bool
  /-- The digits before the point. -/
  whole : List Nat
  /-- The digits behind the point, if there is one. -/
  fraction : List Nat
  /-- The sign and the digits of the exponent, if there is one. -/
  exponent : Option (Bool × List Nat)
  deriving Repr, DecidableEq

namespace Numeral

/-- Take digits into a word of 64 bits while they fit; the digits left start with one that does
not. -/
def absorb (word : Nat) : List Nat → Nat × List Nat
  | [] => (word, [])
  | digit :: rest =>
    if word * 10 + digit < UInt64.size then absorb (word * 10 + digit) rest
    else (word, digit :: rest)

/-- The number written by some digits. -/
def digitsValue (digits : List Nat) : Nat := digits.foldl (fun n digit => n * 10 + digit) 0

/-- The word of all digits that fit, and the power of ten it stands for without the exponent. -/
def significand (numeral : Numeral) : Nat × Int :=
  let (word, dropped) := absorb 0 numeral.whole
  let (word, left) := absorb word numeral.fraction
  (word, (dropped.length : Int) - (numeral.fraction.length - left.length : Nat))

/-- The exponent with its sign. -/
def power (numeral : Numeral) : Int :=
  match numeral.exponent with
  | none => 0
  | some (true, digits) => -digitsValue digits
  | some (false, digits) => digitsValue digits

/-- The double of a numeral, if it is not beyond the largest. -/
def float? (numeral : Numeral) : Option Number :=
  let (word, scale) := numeral.significand
  (Number.Double.ofDecimal numeral.negative word (scale + numeral.power)).map .float

/-- The magnitude of the least integer. -/
def greatestMinus : Nat := 9223372036854775808

/-- The number of a numeral, if it is not beyond the largest double. A negative zero is a double,
because no integer has its sign. -/
def number? (numeral : Numeral) : Option Number :=
  match numeral.fraction, numeral.exponent, absorb 0 numeral.whole with
  | [], none, (word, []) =>
    if numeral.negative then
      if 0 < word ∧ word ≤ greatestMinus then some (.integer (-word)) else numeral.float?
    else some (.integer word)
  | _, _, _ => numeral.float?

/-- The greatest exponent that a reader goes on with. -/
def exponentLimit : Nat := 2147483647

/-- The number of exponent digits after which the exponent is over the limit. -/
def overLimit (word count : Nat) : List Nat → Option Nat
  | [] => none
  | digit :: rest =>
    if exponentLimit < word * 10 + digit then some (count + 1)
    else overLimit (word * 10 + digit) (count + 1) rest

/-- After how many exponent digits a numeral that is beyond the largest double is given up: the
first digit that makes the exponent too large, or all of them. -/
def givenUpAfter (numeral : Numeral) : Nat :=
  match numeral.exponent with
  | some (false, digits) => (overLimit 0 0 digits).getD digits.length
  | some (true, digits) => digits.length
  | none => 0

end Numeral

end HealthLedger.Json
