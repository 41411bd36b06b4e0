import HealthLedger.Log.Verbosity
import HealthLedger.Number.Shortest

/-!
# Values of fields in a log filter

A directive may ask for a field of an event to have a certain value. The value is a truth
value, an integer of 64 bits, a double or, if it is none of these, a pattern. `text` shows it
again, and `order` puts the values of one field in order.
-/

namespace HealthLedger.Log

/-- The value a field is compared with. -/
inductive FieldValue where
  /-- A truth value. -/
  | bool (value : Bool)
  /-- A double. -/
  | float (value : Number.Double)
  /-- A number beyond the largest double. -/
  | infinite (negative : Bool)
  /-- Not a number. -/
  | nan
  /-- A negative integer. -/
  | signed (value : Int)
  /-- An integer that is not negative. -/
  | unsigned (value : Nat)
  /-- A pattern. -/
  | pattern (text : String)
  deriving Repr, DecidableEq

namespace FieldValue

/-- The digits in front of some characters as a number, their count, and the characters behind. -/
def digits (chars : List Char) : Nat × Nat × List Char :=
  let found := chars.takeWhile Char.isDigit
  (found.foldl (fun n c => n * 10 + (c.toNat - 48)) 0, found.length, chars.drop found.length)

/-- The exponent of a decimal, which must be all that is left. -/
def exponent? : List Char → Option Int
  | [] => some 0
  | c :: rest =>
    if c ≠ 'e' ∧ c ≠ 'E' then none
    else
      let (negative, rest) := match rest with
        | '-' :: rest => (true, rest)
        | '+' :: rest => (false, rest)
        | rest => (false, rest)
      match digits rest with
      | (n, count, []) => if count = 0 then none else some (if negative then -n else n)
      | _ => none

/-- The nearest double of a decimal, rounded once. An exponent far from the digits is decided by
their number. -/
def nearest (negative : Bool) (n : Nat) (power : Int) : FieldValue :=
  let size := (toString n).length + power
  if n = 0 ∨ size < -330 then .float (.zero negative)
  else if 320 < size then .infinite negative
  else
    let (numerator, denominator) := match power with
      | .ofNat p => (n * Nat.pow 10 p, 1)
      | .negSucc p => (n, Nat.pow 10 (p + 1))
    match Number.Double.ofRatio negative numerator denominator with
    | some x => .float x
    | none => .infinite negative

/-- A decimal or the name of a special number. -/
def float? (text : String) : Option FieldValue :=
  let (negative, chars) := match text.toList with
    | '-' :: rest => (true, rest)
    | '+' :: rest => (false, rest)
    | chars => (false, chars)
  let word := String.ofList (chars.map Char.toLower)
  if word = "inf" ∨ word = "infinity" then some (.infinite negative)
  else if word = "nan" then some .nan
  else
    let (whole, wholeCount, rest) := digits chars
    let (n, count, places, rest) := match rest with
      | '.' :: rest =>
        let (fraction, places, rest) := digits rest
        (whole * Nat.pow 10 places + fraction, wholeCount + places, places, rest)
      | rest => (whole, wholeCount, 0, rest)
    if count = 0 then none
    else (exponent? rest).map fun power => nearest negative n (power - places)

/-- The greatest number that may stand behind a minus sign. -/
def greatestMinus : Nat := 9223372036854775808

/-- An integer of 64 bits. -/
def integer? (text : String) : Option FieldValue :=
  match text.toList with
  | '-' :: rest =>
    match digits rest with
    | (n, count, []) => if count = 0 ∨ greatestMinus < n then none else some (.signed (-n))
    | _ => none
  | _ => (Verbosity.number? text).bind fun n => if n < UInt64.size then some (.unsigned n) else none

/-- The value of a text. A text that is nothing else is a pattern. -/
def ofText (text : String) : FieldValue :=
  if text = "true" then .bool true
  else if text = "false" then .bool false
  else ((integer? text).orElse fun _ => float? text).getD (.pattern text)

/-- A double in positional notation, without a fraction if it is whole. -/
def plainText (x : Number.Double) : String :=
  let sign := if x.negative then "-" else ""
  if x.isZero then sign ++ "0"
  else
    let decimal := x.shortest
    let shown := toString decimal.digits
    let zeros (n : Nat) : String := String.ofList (List.replicate n '0')
    sign ++ match decimal.exponent with
      | .ofNat n => shown ++ zeros n
      | .negSucc n =>
        let places := n + 1
        if shown.length ≤ places then "0." ++ zeros (places - shown.length) ++ shown
        else
          let whole := shown.length - places
          String.ofList (shown.toList.take whole) ++ "." ++ String.ofList (shown.toList.drop whole)

/-- The text of a value. -/
def text : FieldValue → String
  | .bool value => toString value
  | .float value => plainText value
  | .infinite negative => if negative then "-inf" else "inf"
  | .nan => "NaN"
  | .signed value => toString value
  | .unsigned value => toString value
  | .pattern text => text

/-- The position of the kind of a value in the order of values. -/
def rank : FieldValue → Nat
  | .bool _ => 0
  | .float _ => 1
  | .infinite _ => 1
  | .nan => 2
  | .unsigned _ => 3
  | .signed _ => 4
  | .pattern _ => 5

/-- A number beyond all doubles, for comparisons. -/
def beyond : Int := Nat.pow 2 2200

/-- The order of two numbers within a kind, both scaled alike. -/
def scaled : FieldValue → Int
  | .bool value => if value then 1 else 0
  | .float value => if value.negative then -value.magnitude else value.magnitude
  | .infinite negative => if negative then -beyond else beyond
  | .signed value => value
  | .unsigned value => value
  | _ => 0

/-- The order of values: by kind, and within a kind by size or as texts. -/
def order (left right : FieldValue) : Ordering :=
  ((compare left.rank right.rank).then (compare left.scaled right.scaled)).then
    (match left, right with
      | .pattern left, .pattern right => compare left right
      | _, _ => .eq)

end FieldValue

end HealthLedger.Log
