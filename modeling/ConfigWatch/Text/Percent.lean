import ConfigWatch.Text.Hex

/-!
# Percent escapes

A percent sign followed by two hexadecimal digits stands for a byte. Any other percent sign
stands for itself.
-/

set_option autoImplicit false

namespace ConfigWatch.Percent

def digit? (byte : UInt8) : Option Nat := Hex.digitValue? (Char.ofNat byte.toNat)

def escaped? (high low : UInt8) : Option UInt8 := do
  let high ← digit? high
  let low ← digit? low
  return UInt8.ofNat (high * 16 + low)

def decode : Bytes → Bytes
  | 0x25 :: high :: low :: rest =>
    match escaped? high low with
    | some byte => byte :: decode rest
    | none => 0x25 :: decode (high :: low :: rest)
  | byte :: rest => byte :: decode rest
  | [] => []

end ConfigWatch.Percent
