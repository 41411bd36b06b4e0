import HealthLedger.Number.Double

/-!
# The shortest decimal of a double

Of all decimals that lie closer to a double than to its neighbours, the shortest has the
fewest digits, and of those it is the nearest. A decimal on the border of two doubles belongs
to the one with the even significand. The search takes the grids of one, two and more digits
in turn and looks at the two points of each grid that enclose the double.
-/

namespace HealthLedger.Number

/-- The decimal `digits * 10 ^ exponent`. -/
structure Decimal where
  /-- The digits as a number. -/
  digits : Nat
  /-- The power of ten of the last digit. -/
  exponent : Int
  deriving Repr, DecidableEq

namespace Decimal

/-- A decimal without zeros at its end; `fuel` bounds their number. -/
def dropZeros : Nat → Decimal → Decimal
  | 0, d => d
  | fuel + 1, d =>
    if d.digits ≠ 0 ∧ d.digits % 10 = 0 then dropZeros fuel ⟨d.digits / 10, d.exponent + 1⟩ else d

end Decimal

namespace Double

/-- The interval of reals that round to a double, in quarters of its last place. -/
structure Interval where
  /-- The lower end. -/
  low : Nat
  /-- The double itself. -/
  middle : Nat
  /-- The upper end. -/
  high : Nat
  /-- Whether the ends belong to the interval. -/
  closed : Bool

/-- The interval of a positive double. The doubles below a power of two lie closer together. -/
def interval (x : Double) : Interval where
  low := 4 * x.significand - (if x.significand = leastNormal ∧ x.exponent ≠ 0 then 1 else 2)
  middle := 4 * x.significand
  high := 4 * x.significand + 2
  closed := x.significand % 2 = 0

/-- Whether a fraction lies below a power of ten. -/
def belowPower (numerator denominator : Nat) : Int → Bool
  | .ofNat n => numerator < denominator * Nat.pow 10 n
  | .negSucc n => numerator * Nat.pow 10 (n + 1) < denominator

/-- The least power of ten above a positive fraction, at most `fuel` steps below `power`. -/
def powerAbove (numerator denominator : Nat) : Nat → Int → Int
  | 0, power => power
  | fuel + 1, power =>
    if belowPower numerator denominator (power - 1) then
      powerAbove numerator denominator fuel (power - 1)
    else power

/-- A grid of decimals beside the interval of a double, in one unit: the grid point `n` stands
at `n * across`, and a quarter of the last place of the double is `along`. -/
structure Grid where
  /-- The power of ten of the grid. -/
  power : Int
  /-- The distance of two grid points. -/
  across : Nat
  /-- A quarter of the last place. -/
  along : Nat

/-- The grid of one power of ten beside a double with the given exponent. -/
def Grid.ofPower (exponent : Nat) (power : Int) : Grid :=
  match power with
  | .ofNat n => ⟨power, 4 * leastDenominator * Nat.pow 10 n, Nat.pow 2 exponent⟩
  | .negSucc n => ⟨power, 4 * leastDenominator, Nat.pow 2 exponent * Nat.pow 10 (n + 1)⟩

/-- Whether a grid point lies in an interval. -/
def Grid.inside (grid : Grid) (ends : Interval) (n : Nat) : Bool :=
  let point := n * grid.across
  let low := ends.low * grid.along
  let high := ends.high * grid.along
  if ends.closed then low ≤ point && point ≤ high else low < point && point < high

/-- The grid point in the interval that is nearest to its middle, the even one from a tie. -/
def Grid.nearest? (grid : Grid) (ends : Interval) : Option Nat :=
  let below := ends.middle * grid.along / grid.across
  let twice := 2 * (ends.middle * grid.along % grid.across)
  match grid.inside ends below, grid.inside ends (below + 1) with
  | true, true =>
    if twice < grid.across ∨ (twice = grid.across ∧ below % 2 = 0) then some below
    else some (below + 1)
  | true, false => some below
  | false, true => some (below + 1)
  | false, false => none

/-- The first hit on the grids of `power` and, for `fuel` steps, of the powers below it. -/
def searchGrids (exponent : Nat) (ends : Interval) : Nat → Int → Decimal
  | 0, power => ⟨0, power⟩
  | fuel + 1, power =>
    match (Grid.ofPower exponent power).nearest? ends with
    | some n => ⟨n, power⟩
    | none => searchGrids exponent ends fuel (power - 1)

/-- The shortest decimal that reads back as a positive double. -/
def shortest (x : Double) : Decimal :=
  let top := powerAbove x.magnitude leastDenominator 640 309
  (searchGrids x.exponent x.interval 17 (top - 1)).dropZeros 20

/-- How the text of a double is laid out: positional notation from the decimal point at
`leftmost` to the decimal point at `rightmost`, both counted from before the first digit. -/
structure Layout where
  /-- The least position of the decimal point written positionally. -/
  leftmost : Int
  /-- The greatest position of the decimal point written positionally. -/
  rightmost : Int

/-- The layout of the numbers in documents: at most four zeros behind the point and at most
sixteen digits before it. -/
def documentLayout : Layout := ⟨-4, 16⟩

/-- The text of the digits with the decimal point after `point` of them. -/
def Layout.place (layout : Layout) (digits : String) (point : Int) : String :=
  let count : Int := digits.length
  let zeros (n : Int) : String := String.ofList (List.replicate n.toNat '0')
  if layout.leftmost ≤ point ∧ point ≤ 0 then "0." ++ zeros (-point) ++ digits
  else if 0 < point ∧ point ≤ layout.rightmost then
    if count ≤ point then digits ++ zeros (point - count) ++ ".0"
    else
      let chars := digits.toList
      String.ofList (chars.take point.toNat ++ '.' :: chars.drop point.toNat)
  else
    let lead := match digits.toList with
      | [] => ""
      | [d] => String.ofList [d]
      | d :: rest => String.ofList (d :: '.' :: rest)
    let power := point - 1
    lead ++ "e" ++ (if 0 ≤ power then "+" else "-") ++ toString power.natAbs

/-- The text of a double: its shortest decimal, never without a point or an exponent. -/
def text (x : Double) : String :=
  let sign := if x.negative then "-" else ""
  if x.isZero then sign ++ "0.0"
  else
    let decimal := x.shortest
    let digits := toString decimal.digits
    sign ++ documentLayout.place digits (decimal.exponent + digits.length)

end Double

end HealthLedger.Number
