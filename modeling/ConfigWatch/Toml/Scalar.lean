import ConfigWatch.Decimal.Numeral
import ConfigWatch.Settings.Setting
import ConfigWatch.Toml.Text

/-!
# Scalars of settings files

Truth values, integers in four bases, floating numbers, dates and times. A date or time is kept as
its text, in one form for all ways to write it.
-/

set_option autoImplicit false

namespace ConfigWatch.Toml

def isScalarChar (c : Char) : Bool := isKeyChar c || c == '+' || c == '.' || c == ':'

/-- Digits with single underscores between them. `wanted` says that a digit has to come next. -/
def joinDigits (isDigit : Char → Bool) : (wanted : Bool) → List Char → Option (List Char)
  | wanted, [] => if wanted then none else some []
  | wanted, c :: rest =>
    if isDigit c then (joinDigits isDigit false rest).map (c :: ·)
    else if c = '_' ∧ wanted = false then joinDigits isDigit true rest
    else none

def decimalDigits? (chars : List Char) : Option (List Char) := joinDigits Numeral.isDigit true chars

/-- The digits of a decimal integer, which has no zero in front. -/
def integerDigits? (chars : List Char) : Option (List Char) := do
  let digits ← decimalDigits? chars
  if digits.head? = some '0' ∧ 1 < digits.length then none else some digits

/-- An integer in a base of its own, after the letter for the base. -/
def based? (base : Nat) (chars : List Char) : Option Int := do
  let isDigit (c : Char) : Bool :=
    match Hex.digitValue? c with
    | some value => value < base
    | none => false
  let digits ← joinDigits isDigit true chars
  let number := Numeral.ofDigits base (digits.filterMap Hex.digitValue?)
  if Numeral.fitsInt64 number then some number else none

def integer? : List Char → Option Int
  | '0' :: 'x' :: rest => based? 16 rest
  | '0' :: 'o' :: rest => based? 8 rest
  | '0' :: 'b' :: rest => based? 2 rest
  | chars => do
    let (negative, magnitude) := Numeral.splitSign chars
    let digits ← integerDigits? magnitude
    let number := Numeral.applySign negative (← Numeral.natural? digits)
    if Numeral.fitsInt64 number then some number else none

/-- Whether a character starts the exponent of a floating number. -/
def marksExponent (c : Char) : Bool := c == 'e' || c == 'E'

def floatExponent? (chars : List Char) : Option Int := do
  let (negative, digits) := Numeral.splitSign chars
  let digits ← decimalDigits? digits
  return Numeral.applySign negative (← Numeral.natural? digits)

/-- A floating number, which has a fraction or an exponent. One beyond the greatest double is
refused. -/
def float? (chars : List Char) : Option Double := do
  let (negative, magnitude) := Numeral.splitSign chars
  if magnitude = "inf".toList then some (Double.infinity negative)
  else if magnitude = "nan".toList then some Double.nan
  else
    let (mantissa, exponent) := magnitude.span (fun c => !marksExponent c)
    let (whole, fraction) := mantissa.span (fun c => c != '.')
    if exponent = [] ∧ fraction = [] then none
    let whole ← integerDigits? whole
    let fraction ← match fraction with
      | [] => some []
      | _ :: digits => decimalDigits? digits
    let exponent ← match exponent with
      | [] => some 0
      | _ :: digits => floatExponent? digits
    let digits ← Numeral.natural? (whole ++ fraction)
    let number := Double.ofDecimal negative ⟨digits, exponent - fraction.length⟩
    if number = Double.infinity false then none else some number

/-- Reads a number of exactly as many digits as are given. -/
def readDigits (count : Nat) (chars : List Char) : Option (Nat × List Char) := do
  if chars.length < count then none
  let number ← Numeral.natural? (chars.take count)
  return (number, chars.drop count)

def readMark (mark : Char) : List Char → Option (List Char)
  | c :: rest => if c = mark then some rest else none
  | [] => none

def daysIn (year month : Nat) : Nat :=
  if month = 2 then
    if year % 4 = 0 ∧ (year % 100 ≠ 0 ∨ year % 400 = 0) then 29 else 28
  else if month = 4 ∨ month = 6 ∨ month = 9 ∨ month = 11 then 30
  else 31

def readDate (chars : List Char) : Option (List Char × List Char) := do
  let (year, rest) ← readDigits 4 chars
  let rest ← readMark '-' rest
  let (month, rest) ← readDigits 2 rest
  let rest ← readMark '-' rest
  let (day, rest) ← readDigits 2 rest
  if month = 0 ∨ 12 < month ∨ day = 0 ∨ daysIn year month < day then none
  else return (chars.take 10, rest)

/-- The text of a fraction of a second: at most nine digits, and no zeros at the end. -/
def fractionText (digits : List Char) : List Char :=
  let kept := ((digits.take 9).reverse.dropWhile (· == '0')).reverse
  if kept = [] then [] else '.' :: kept

def readTime (chars : List Char) : Option (List Char × List Char) := do
  let (hour, rest) ← readDigits 2 chars
  let rest ← readMark ':' rest
  let (minute, rest) ← readDigits 2 rest
  let rest ← readMark ':' rest
  let (second, rest) ← readDigits 2 rest
  if 23 < hour ∨ 59 < minute ∨ 60 < second then none
  match rest with
  | '.' :: rest =>
    let (digits, rest) := rest.span Numeral.isDigit
    if digits = [] then none else return (chars.take 8 ++ fractionText digits, rest)
  | rest => return (chars.take 8, rest)

/-- The text of an offset from universal time, which takes up all characters. -/
def offset? : List Char → Option (List Char)
  | [] => some []
  | ['Z'] | ['z'] => some ['Z']
  | sign :: rest => do
    if sign ≠ '+' ∧ sign ≠ '-' then none
    let (hour, minutes) ← readDigits 2 rest
    let minutes ← readMark ':' minutes
    let (minute, left) ← readDigits 2 minutes
    if 23 < hour ∨ 59 < minute ∨ left ≠ [] then none
    else return (if hour = 0 ∧ minute = 0 then '+' else sign) :: rest

/-- A time of the day with the offset after it, if there is one. -/
def timeWithOffset? (chars : List Char) : Option (List Char) := do
  let (time, rest) ← readTime chars
  let offset ← offset? rest
  return time ++ offset

def moment? (chars : List Char) : Option (List Char) :=
  match readDate chars with
  | some (date, []) => some date
  | some (date, mark :: rest) =>
    if mark = 'T' ∨ mark = 't' then (timeWithOffset? rest).map (fun time => date ++ 'T' :: time)
    else none
  | none =>
    match readTime chars with
    | some (time, []) => some time
    | _ => none

def scalarOf? (chars : List Char) : Option Setting :=
  if chars = "true".toList then some (.flag true)
  else if chars = "false".toList then some (.flag false)
  else
    match integer? chars, float? chars, moment? chars with
    | some number, _, _ => some (.int number)
    | none, some number, _ => some (.float number)
    | none, none, some moment => some (.text (String.ofList moment))
    | none, none, none => none

/-- Reads a scalar. A blank may stand between a date and a time. -/
def readScalarValue (chars : List Char) : Option (Setting × List Char) := do
  let (first, rest) := chars.span isScalarChar
  match readDate first, rest with
  | some (date, []), ' ' :: later =>
    let (second, after) := later.span isScalarChar
    match timeWithOffset? second with
    | some time => return (.text (String.ofList (date ++ 'T' :: time)), after)
    | none => return (.text (String.ofList date), rest)
  | _, _ =>
    let value ← scalarOf? first
    return (value, rest)

end ConfigWatch.Toml
