import ConfigWatch.Text.Hex

/-!
# Variable length integers

Seven bits a byte, the low ones first; the high bit of a byte says that more follow. A 64 bit
word takes at most ten bytes, and the tenth holds one bit only.
-/

set_option autoImplicit false

namespace ConfigWatch.Wire.Varint

def encode (value : Nat) : Bytes :=
  if value < 128 then [UInt8.ofNat value]
  else UInt8.ofNat (value % 128 + 128) :: encode (value / 128)
termination_by value

/-- Reads a number of at most `places` bytes; the last place there is holds one bit only. -/
def readPlaces : (places : Nat) → Bytes → Option (Nat × Bytes)
  | 0, _ => none
  | _ + 1, [] => none
  | places + 1, byte :: rest =>
    if byte.toNat < 128 then
      if places = 0 ∧ 2 ≤ byte.toNat then none else some (byte.toNat, rest)
    else do
      let (high, rest) ← readPlaces places rest
      return (byte.toNat % 128 + 128 * high, rest)

def read (bytes : Bytes) : Option (Nat × Bytes) := readPlaces 10 bytes

end ConfigWatch.Wire.Varint
