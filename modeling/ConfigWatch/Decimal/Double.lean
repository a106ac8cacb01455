import ConfigWatch.Decimal.Shortest

/-!
# Double precision numbers

A double is its 64 bits, so that two doubles are the same datum exactly when their bits agree.
Equality of the numbers, their text and the rounding of decimals are functions of the bits, in
exact integer arithmetic.
-/

set_option autoImplicit false

namespace ConfigWatch

/-- A binary64 datum: a sign bit, eleven bits of exponent and fifty-two of fraction. -/
structure Double where
  bits : UInt64
deriving DecidableEq, Inhabited, Repr

namespace Double

def zero : Double := ⟨0⟩

def isNegative (d : Double) : Bool := d.bits.toNat / Nat.pow 2 63 == 1

def exponentField (d : Double) : Nat := d.bits.toNat / Nat.pow 2 52 % Nat.pow 2 11

def fraction (d : Double) : Nat := d.bits.toNat % Nat.pow 2 52

def isNaN (d : Double) : Bool := d.exponentField == 2047 && d.fraction != 0

def isInfinite (d : Double) : Bool := d.exponentField == 2047 && d.fraction == 0

def isZero (d : Double) : Bool := d.bits.toNat % Nat.pow 2 63 == 0

/-- Equality of numbers: the zeros are equal, and a NaN is equal to nothing. -/
def sameNumber (left right : Double) : Bool :=
  !left.isNaN && !right.isNaN && (left.bits == right.bits || (left.isZero && right.isZero))

/-- The significand of a finite datum, an integer below `2 ^ 53`. -/
def significand (d : Double) : Nat :=
  if d.exponentField = 0 then d.fraction else Nat.pow 2 52 + d.fraction

/-- The power of two that the significand of a finite datum is multiplied by. -/
def scale (d : Double) : Int :=
  if d.exponentField = 0 then -1074 else (d.exponentField : Int) - 1075

/-- The numbers that round to the magnitude of a finite datum: half a unit on either side, or a
quarter below a power of two. The ends round to an even significand. -/
def readsBack (d : Double) : Decimal.Interval :=
  let m := d.significand
  let below := if d.fraction = 0 ∧ 1 < d.exponentField then 4 * m - 1 else 4 * m - 2
  let quarter := d.scale - 2
  let up := if 0 ≤ quarter then Nat.pow 2 quarter.toNat else 1
  let down := if 0 ≤ quarter then 1 else Nat.pow 2 (-quarter).toNat
  ⟨below * up, 4 * m * up, (4 * m + 2) * up, down, m % 2 == 0⟩

/-- The fewest digits that read back as the magnitude of a finite datum. -/
def decimal (d : Double) : Decimal :=
  if d.isZero then ⟨0, 0⟩ else (d.readsBack.shortest?).getD ⟨0, 0⟩

def signChars (d : Double) : List Char := if d.isNegative then ['-'] else []

def chars (d : Double) : List Char :=
  if d.isNaN then "NaN".toList
  else if d.isInfinite then d.signChars ++ "inf".toList
  else d.signChars ++ d.decimal.positional

def toText (d : Double) : String := String.ofList d.chars

/-- Whether the debugging form keeps a number positional: zero, and magnitudes from `10 ^ -4` to
below `10 ^ 16`. -/
def isMiddling (decimal : Decimal) : Bool :=
  let leading := decimal.exponent + (Decimal.digitCount decimal.digits : Int) - 1
  decimal.digits == 0 || (-4 ≤ leading && leading < 16)

/-- The debugging form: a whole number keeps a decimal place, and very large and very small
magnitudes are written with an exponent. -/
def debugChars (d : Double) : List Char :=
  if d.isNaN || d.isInfinite then d.chars
  else
    let decimal := d.decimal
    let magnitude :=
      if !isMiddling decimal then decimal.scientific
      else if 0 ≤ decimal.exponent then decimal.positional ++ ".0".toList
      else decimal.positional
    d.signChars ++ magnitude

def infinity (negative : Bool) : Double :=
  ⟨if negative then 0xfff0000000000000 else 0x7ff0000000000000⟩

def nan : Double := ⟨0x7ff8000000000000⟩

def signedZero (negative : Bool) : Double := ⟨if negative then 0x8000000000000000 else 0⟩

/-- The quotient rounded to the nearest integer, a half to the even neighbour. -/
def roundToEven (numerator denominator : Nat) : Nat :=
  let quotient := numerator / denominator
  let twice := 2 * (numerator % denominator)
  if twice < denominator then quotient
  else if denominator < twice then quotient + 1
  else quotient + quotient % 2

/-- The double nearest to a positive fraction. The exponent is chosen so that the rounded
significand has fifty-three bits, or so that it is the least exponent there is. -/
def ofFraction (negative : Bool) (numerator denominator : Nat) : Double :=
  let estimate : Int := (numerator.log2 : Int) - (denominator.log2 : Int)
  let atLeast : Bool :=
    if 0 ≤ estimate then denominator * Nat.pow 2 estimate.toNat ≤ numerator
    else denominator ≤ numerator * Nat.pow 2 (-estimate).toNat
  let leading := if atLeast then estimate else estimate - 1
  let scale := max (leading - 52) (-1074)
  let significand :=
    if 0 ≤ scale then roundToEven numerator (denominator * Nat.pow 2 scale.toNat)
    else roundToEven (numerator * Nat.pow 2 (-scale).toNat) denominator
  let field := (scale + 1074).toNat * Nat.pow 2 52 + significand
  if 2047 * Nat.pow 2 52 ≤ field then infinity negative
  else ⟨UInt64.ofNat (field + if negative then Nat.pow 2 63 else 0)⟩

/-- The double nearest to a signed decimal. Decimals beyond the range of doubles are settled by
the place of their first digit. -/
def ofDecimal (negative : Bool) (decimal : Decimal) : Double :=
  if decimal.digits = 0 then signedZero negative
  else
    let leading := decimal.exponent + (Decimal.digitCount decimal.digits : Int)
    if 400 < leading then infinity negative
    else if leading < -400 then signedZero negative
    else
      let (up, down) := Decimal.Interval.powerOfTen decimal.exponent
      ofFraction negative (decimal.digits * up) down

def ofNat (value : Nat) : Double := if value = 0 then zero else ofFraction false value 1

/-- The double nearest to the product of the magnitudes of two finite data. -/
def product (left right : Double) : Double :=
  let digits := left.significand * right.significand
  let scale := left.scale + right.scale
  if digits = 0 then zero
  else if 0 ≤ scale then ofFraction false (digits * Nat.pow 2 scale.toNat) 1
  else ofFraction false digits (Nat.pow 2 (-scale).toNat)

/-- The magnitude of a finite datum, rounded down. -/
def floor (d : Double) : Nat :=
  if 0 ≤ d.scale then d.significand * Nat.pow 2 d.scale.toNat
  else d.significand / Nat.pow 2 (-d.scale).toNat

/-- The nearest natural number below `2 ^ 64`, a half away from zero. What lies outside the range
goes to its nearer end, and a NaN to zero. -/
def roundToWord (d : Double) : UInt64 :=
  if d.isNaN then 0
  else if d.isNegative then 0
  else if d.isInfinite then UInt64.ofNat (Nat.pow 2 64 - 1)
  else
    let rounded :=
      if 0 ≤ d.scale then d.significand * Nat.pow 2 d.scale.toNat
      else
        let unit := Nat.pow 2 (-d.scale).toNat
        (2 * d.significand + unit) / (2 * unit)
    UInt64.ofNat (min rounded (Nat.pow 2 64 - 1))

end Double

end ConfigWatch
