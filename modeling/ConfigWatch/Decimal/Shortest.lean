/-!
# Shortest decimals

Among the decimals that lie in an interval around a value, the one with the fewest digits, and
of those the one nearest to the value; of two equally near ones the greater. All arithmetic is on
natural numbers over a common denominator, so nothing is rounded on the way.
-/

set_option autoImplicit false

namespace ConfigWatch

/-- The number `digits · 10 ^ exponent`. -/
structure Decimal where
  digits : Nat
  exponent : Int
deriving DecidableEq, Repr

namespace Decimal

/-- The number of decimal digits of a number; zero has one. -/
def digitCount (value : Nat) : Nat := (Nat.toDigits 10 value).length

/-- Removes trailing zeros of the digits, at most `steps` of them. -/
def trimZeros : Nat → Decimal → Decimal
  | 0, decimal => decimal
  | steps + 1, decimal =>
    if decimal.digits ≠ 0 ∧ decimal.digits % 10 = 0 then
      trimZeros steps ⟨decimal.digits / 10, decimal.exponent + 1⟩
    else decimal

/-- A positive value between two ends, the three of them over one denominator. The ends belong
to the interval when it is closed. -/
structure Interval where
  low : Nat
  value : Nat
  high : Nat
  denominator : Nat
  closed : Bool

namespace Interval

def holds (interval : Interval) (numerator denominator : Nat) : Bool :=
  let scaled := numerator * interval.denominator
  if interval.closed then
    interval.low * denominator ≤ scaled && scaled ≤ interval.high * denominator
  else interval.low * denominator < scaled && scaled < interval.high * denominator

/-- The exponent of the first digit of the value: the greatest power of ten not above it. -/
def leadingExponent (interval : Interval) : Int :=
  if interval.denominator ≤ interval.value then
    (digitCount (interval.value / interval.denominator) : Int) - 1
  else
    -(digitCount ((interval.denominator - 1) / interval.value) : Int)

/-- The two powers of ten, one of them 1, whose quotient is `10 ^ exponent`. -/
def powerOfTen (exponent : Int) : Nat × Nat :=
  if 0 ≤ exponent then (Nat.pow 10 exponent.toNat, 1) else (1, Nat.pow 10 (-exponent).toNat)

/-- The multiple of `10 ^ exponent` that lies in the interval and is nearest to the value. Only
the two multiples around the value are candidates: if a multiple lies in the interval, so does
one of these. -/
def onGrid? (interval : Interval) (exponent : Int) : Option Decimal :=
  let (up, down) := powerOfTen exponent
  let unit := interval.denominator * up
  let scaled := interval.value * down
  let below := scaled / unit
  let above := below + 1
  let belowHolds := interval.holds (below * up) down
  let aboveHolds := interval.holds (above * up) down
  if belowHolds && aboveHolds then
    some ⟨if scaled - below * unit < above * unit - scaled then below else above, exponent⟩
  else if belowHolds then some ⟨below, exponent⟩
  else if aboveHolds then some ⟨above, exponent⟩
  else none

def search (interval : Interval) (leading : Int) : (tries digits : Nat) → Option Decimal
  | 0, _ => none
  | tries + 1, digits =>
    match interval.onGrid? (leading - digits) with
    | some decimal => some decimal
    | none => search interval leading tries (digits + 1)

/-- The shortest decimal in the interval, without trailing zeros, when seventeen digits suffice. -/
def shortest? (interval : Interval) : Option Decimal :=
  (interval.search interval.leadingExponent 17 0).map (fun decimal => decimal.trimZeros 20)

end Interval

/-- Positional text: no exponent, and a point only before a fractional part. -/
def positional (decimal : Decimal) : List Char :=
  let digits := Nat.toDigits 10 decimal.digits
  if 0 ≤ decimal.exponent then digits ++ List.replicate decimal.exponent.toNat '0'
  else
    let places := (-decimal.exponent).toNat
    if places < digits.length then
      digits.take (digits.length - places) ++ '.' :: digits.drop (digits.length - places)
    else '0' :: '.' :: (List.replicate (places - digits.length) '0' ++ digits)

/-- Text with one digit before the point and the exponent after `e`. -/
def scientific (decimal : Decimal) : List Char :=
  let digits := Nat.toDigits 10 decimal.digits
  let exponent := decimal.exponent + (digits.length : Int) - 1
  let mantissa := match digits with
    | first :: second :: rest => first :: '.' :: second :: rest
    | _ => digits
  mantissa ++ 'e' :: (toString exponent).toList

end Decimal

end ConfigWatch
