/-!
# Finite doubles

A double is a sign, a significand below 2^53 and an exponent of two, all natural numbers, so
that its arithmetic is arithmetic of natural numbers. Every operation computes its exact
result as a fraction and rounds once, to the nearest double and from a tie to the even
significand. `none` stands for a result beyond the largest double.
-/

namespace HealthLedger.Number

/-- The double of magnitude `significand * 2 ^ exponent / 2 ^ 1074`. -/
structure Double where
  /-- Whether the sign is minus, which a zero may have too. -/
  negative : Bool
  /-- The significand, below 2^53, and at least 2^52 unless the exponent is zero. -/
  significand : Nat
  /-- The exponent of two over that of the least positive double. -/
  exponent : Nat
  deriving Repr, DecidableEq, Inhabited

namespace Double

/-- The magnitude of the least positive double is one over this number. -/
def leastDenominator : Nat := Nat.pow 2 1074

/-- The least significand of a double that is not close to zero. -/
def leastNormal : Nat := Nat.pow 2 52

/-- The exponent of the largest doubles. -/
def greatestExponent : Nat := 2045

/-- A positive quotient as the nearest integer, from a tie to the even one. -/
def roundQuotient (numerator denominator : Nat) : Nat :=
  let below := numerator / denominator
  let twice := 2 * (numerator % denominator)
  if twice < denominator then below
  else if denominator < twice then below + 1
  else if below % 2 = 0 then below else below + 1

/-- The rounded integer is at most half a unit away from the quotient. -/
theorem roundQuotient_near (numerator denominator : Nat) (positive : 0 < denominator) :
    2 * numerator ≤ (2 * roundQuotient numerator denominator + 1) * denominator ∧
      2 * roundQuotient numerator denominator * denominator ≤ 2 * numerator + denominator := by
  have split : denominator * (numerator / denominator) + numerator % denominator = numerator :=
    Nat.div_add_mod numerator denominator
  have remainder : numerator % denominator < denominator := Nat.mod_lt _ positive
  simp only [roundQuotient]
  generalize numerator / denominator = below at split ⊢
  generalize numerator % denominator = rest at split remainder ⊢
  subst split
  have whole : 2 * below * denominator = 2 * (denominator * below) := by
    rw [Nat.mul_assoc, Nat.mul_comm below]
  have above : 2 * (below + 1) * denominator = 2 * (denominator * below) + 2 * denominator := by
    rw [Nat.mul_assoc, Nat.add_mul, Nat.mul_comm below]
    omega
  split
  · rw [Nat.add_mul, whole]
    omega
  · split
    · rw [Nat.add_mul, above]
      omega
    · split
      · rw [Nat.add_mul, whole]
        omega
      · rw [Nat.add_mul, above]
        omega

/-- The double nearest to a fraction with the given sign. -/
def ofRatio (negative : Bool) (numerator denominator : Nat) : Option Double :=
  let scaled := numerator * leastDenominator
  let exponent := Nat.log2 (scaled / denominator) - 52
  let significand := roundQuotient scaled (denominator * Nat.pow 2 exponent)
  let (significand, exponent) :=
    if significand = 2 * leastNormal then (leastNormal, exponent + 1) else (significand, exponent)
  if exponent ≤ greatestExponent then some ⟨negative, significand, exponent⟩ else none

/-- The zero with the given sign. -/
def zero (negative : Bool) : Double := ⟨negative, 0, 0⟩

/-- Whether the magnitude is zero. -/
def isZero (x : Double) : Bool := x.significand = 0

/-- The exact magnitude, over `leastDenominator`. -/
def magnitude (x : Double) : Nat := x.significand * Nat.pow 2 x.exponent

/-- The double nearest to a natural number with the given sign. -/
def ofNat (negative : Bool) (n : Nat) : Option Double := ofRatio negative n 1

/-- The product of a double and a positive one. -/
def mul (x scale : Double) : Option Double :=
  ofRatio x.negative (x.magnitude * scale.magnitude) (leastDenominator * leastDenominator)

/-- The quotient of a double and a positive one. -/
def div (x scale : Double) : Option Double :=
  ofRatio x.negative x.magnitude scale.magnitude

/-- The greatest power of ten that is a double. -/
def greatestPower : Nat := 308

/-- The double nearest to a power of ten, up to the greatest. -/
def powerOfTen (n : Nat) : Double := (ofNat false (Nat.pow 10 n)).getD (zero false)

/-- A double divided by the greatest power of ten a number of times. -/
def divideTimes : Nat → Double → Double
  | 0, x => x
  | times + 1, x =>
    if x.isZero then x else divideTimes times ((x.div (powerOfTen greatestPower)).getD x)

/-- A double divided by a power of ten, in steps of the greatest power. -/
def scaleDown (x : Double) (n : Nat) : Double :=
  let times := (n - 1) / greatestPower
  let scaled := x.divideTimes times
  (scaled.div (powerOfTen (n - times * greatestPower))).getD scaled

/-- The double read from decimal digits: the digits and the power of ten are rounded each on
their own, and once more when they are put together. -/
def ofDecimal (negative : Bool) (digits : Nat) (exponent : Int) : Option Double :=
  (ofNat negative digits).bind fun x =>
    match exponent with
    | .negSucc n => some (x.scaleDown (n + 1))
    | .ofNat n =>
      if n ≤ greatestPower then x.mul (powerOfTen n) else if x.isZero then some x else none

end Double

end HealthLedger.Number
