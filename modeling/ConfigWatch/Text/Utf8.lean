import ConfigWatch.Text.Hex

/-!
# UTF-8

Where a byte string stops being well-formed UTF-8. A fault starts at the first byte that does not
continue a character; it takes up as many bytes as could have begun one, unless the string ends
before that is known.
-/

set_option autoImplicit false

namespace ConfigWatch.Utf8

/-- A fault: how many bytes before it are well-formed, and how many bytes it takes up. -/
structure Fault where
  index : Nat
  length : Option Nat
deriving DecidableEq

def within (low high : UInt8) (byte : UInt8) : Bool := low ≤ byte && byte ≤ high

def following (first : UInt8) : Option (List (UInt8 → Bool)) :=
  let any := within 0x80 0xbf
  if first < 0x80 then some []
  else if within 0xc2 0xdf first then some [any]
  else if first = 0xe0 then some [within 0xa0 0xbf, any]
  else if first = 0xed then some [within 0x80 0x9f, any]
  else if within 0xe1 0xef first then some [any, any]
  else if first = 0xf0 then some [within 0x90 0xbf, any, any]
  else if within 0xf1 0xf3 first then some [any, any, any]
  else if first = 0xf4 then some [within 0x80 0x8f, any, any]
  else none

/-- Checks bytes against what they have to be like. A fault gives the number of bytes that fit,
the first byte included, or nothing when the bytes ran out. -/
def checkFollowing : (fitting : Nat) → List (UInt8 → Bool) → Bytes → Except (Option Nat) Bytes
  | _, [], bytes => .ok bytes
  | _, _ :: _, [] => .error none
  | fitting, test :: tests, byte :: rest =>
    if test byte then checkFollowing (fitting + 1) tests rest else .error (some fitting)

/-- The first fault of a byte string, of which `index` bytes were read before; `fuel` bounds the
number of characters. -/
def faultFrom : (fuel index : Nat) → Bytes → Option Fault
  | 0, _, _ => none
  | _, _, [] => none
  | fuel + 1, index, first :: rest =>
    match following first with
    | none => some ⟨index, some 1⟩
    | some tests =>
      match checkFollowing 1 tests rest with
      | .error length => some ⟨index, length⟩
      | .ok left => faultFrom fuel (index + 1 + tests.length) left

def fault? (bytes : Bytes) : Option Fault := faultFrom bytes.length 0 bytes

def Fault.message (fault : Fault) : String :=
  match fault.length with
  | some length =>
    "invalid utf-8 sequence of " ++ toString length ++ " bytes from index " ++ toString fault.index
  | none => "incomplete utf-8 byte sequence from index " ++ toString fault.index

def decode (bytes : Bytes) : Except Fault String :=
  match fault? bytes with
  | some fault => .error fault
  | none => .ok ((String.fromUTF8? ⟨bytes.toArray⟩).getD "")

def encode (text : String) : Bytes := text.toByteArray.data.toList

end ConfigWatch.Utf8
