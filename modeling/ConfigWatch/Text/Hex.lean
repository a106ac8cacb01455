/-!
# Hexadecimal text of bytes

Each byte is written as two lowercase digits, the high one first.
-/

set_option autoImplicit false

namespace ConfigWatch

/-- A byte string, such as a payload checksum or an encoded message. -/
abbrev Bytes := List UInt8

namespace Hex

def digit (value : Nat) : Char :=
  if value < 10 then Char.ofNat ('0'.toNat + value) else Char.ofNat ('a'.toNat + (value - 10))

def digitValue? (c : Char) : Option Nat :=
  if '0' ≤ c ∧ c ≤ '9' then some (c.toNat - '0'.toNat)
  else if 'a' ≤ c ∧ c ≤ 'f' then some (c.toNat - 'a'.toNat + 10)
  else if 'A' ≤ c ∧ c ≤ 'F' then some (c.toNat - 'A'.toNat + 10)
  else none

def byteChars (byte : UInt8) : List Char :=
  [digit (byte.toNat / 16), digit (byte.toNat % 16)]

def chars (bytes : Bytes) : List Char := bytes.flatMap byteChars

def encode (bytes : Bytes) : String := String.ofList (chars bytes)

/-- Reads pairs of digits, the last of which may lack its high digit. Other characters are
refused. -/
def parseChars : List Char → Option Bytes
  | [] => some []
  | [low] => (digitValue? low).map (fun value => [UInt8.ofNat value])
  | high :: low :: rest => do
    let upper ← digitValue? high
    let lower ← digitValue? low
    let bytes ← parseChars rest
    return UInt8.ofNat (upper * 16 + lower) :: bytes

def decode (text : String) : Option Bytes := parseChars text.toList

/-- The digits of a number without leading zeros; zero has one digit. -/
def numeral (value : Nat) : List Char := Nat.toDigits 16 value

def word (value : UInt64) : String :=
  let digits := numeral value.toNat
  String.ofList (List.replicate (16 - digits.length) '0' ++ digits)

def parseWord (text : String) : Option UInt64 :=
  let digits := text.toList.mapM digitValue?
  digits.map (fun values => UInt64.ofNat (values.foldl (fun total value => total * 16 + value) 0))

end Hex

end ConfigWatch
