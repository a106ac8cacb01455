import ConfigWatch.Decimal.Double

/-!
# Numerals

Reads numbers from text: unsigned and signed integers of 64 bits, and doubles. A sign may stand in
front; nothing else is allowed around the digits.
-/

set_option autoImplicit false

namespace ConfigWatch.Numeral

def digit? (c : Char) : Option Nat :=
  if '0' ≤ c ∧ c ≤ '9' then some (c.toNat - '0'.toNat) else none

def isDigit (c : Char) : Bool := (digit? c).isSome

def ofDigits (base : Nat) (digits : List Nat) : Nat :=
  digits.foldl (fun total digit => total * base + digit) 0

def natural? (chars : List Char) : Option Nat :=
  if chars = [] then none else (chars.mapM digit?).map (ofDigits 10)

/-- Splits a sign off: whether it is a minus, and what follows it. -/
def splitSign : List Char → Bool × List Char
  | '-' :: rest => (true, rest)
  | '+' :: rest => (false, rest)
  | chars => (false, chars)

def applySign (negative : Bool) (magnitude : Nat) : Int :=
  if negative then -(magnitude : Int) else magnitude

def fitsInt64 (number : Int) : Bool := -(Int.pow 2 63) ≤ number && number < Int.pow 2 63

def int64? (chars : List Char) : Option Int := do
  let (negative, digits) := splitSign chars
  let magnitude ← natural? digits
  let number := applySign negative magnitude
  if fitsInt64 number then some number else none

/-- An unsigned integer of 64 bits. A plus sign may stand in front. -/
def uint64? (chars : List Char) : Option UInt64 := do
  let magnitude ← natural? (match chars with
    | '+' :: rest => rest
    | chars => chars)
  if magnitude < Nat.pow 2 64 then some (UInt64.ofNat magnitude) else none

def lowerLetter (c : Char) : Char :=
  if 'A' ≤ c ∧ c ≤ 'Z' then Char.ofNat (c.toNat + 32) else c

/-- The exponent at the end of a numeral; nothing stands for zero. -/
def exponent? : List Char → Option Int
  | [] => some 0
  | mark :: rest =>
    if lowerLetter mark = 'e' then
      let (negative, digits) := splitSign rest
      (natural? digits).map (applySign negative)
    else none

def splitFraction : List Char → List Char × List Char
  | '.' :: rest => rest.span isDigit
  | rest => ([], rest)

/-- A decimal without a sign: digits on at least one side of the point, then the exponent. -/
def decimal? (chars : List Char) : Option Decimal := do
  let (whole, rest) := chars.span isDigit
  let (fraction, rest) := splitFraction rest
  let digits ← natural? (whole ++ fraction)
  let exponent ← exponent? rest
  return ⟨digits, exponent - fraction.length⟩

/-- A double: a decimal, or a word for infinity or for no number, with or without a sign. -/
def double? (chars : List Char) : Option Double :=
  let (negative, magnitude) := splitSign chars
  let word := String.ofList (magnitude.map lowerLetter)
  if word = "inf" ∨ word = "infinity" then some (Double.infinity negative)
  else if word = "nan" then some Double.nan
  else (decimal? magnitude).map (Double.ofDecimal negative)

end ConfigWatch.Numeral
