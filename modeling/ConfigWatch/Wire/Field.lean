import ConfigWatch.Decimal.Double
import ConfigWatch.Wire.Varint

/-!
# Fields of encoded messages

An encoded message is a list of numbered fields. This layer splits a byte string into fields and
joins them again; what a field number means is left to the message.
-/

set_option autoImplicit false

namespace ConfigWatch.Wire

/-- The content of a field. A group is kept as a mark only, for no message has one. -/
inductive FieldValue where
  | varint (word : UInt64)
  | fixed64 (word : UInt64)
  | bytes (content : Bytes)
  | group
  | fixed32 (word : UInt32)
deriving DecidableEq

/-- A numbered field. -/
structure Field where
  number : Nat
  value : FieldValue
deriving DecidableEq

def nestingLimit : Nat := 100

def littleEndian : (length value : Nat) → Bytes
  | 0, _ => []
  | length + 1, value => UInt8.ofNat (value % 256) :: littleEndian length (value / 256)

def ofLittleEndian : Bytes → Nat
  | [] => 0
  | byte :: rest => byte.toNat + 256 * ofLittleEndian rest

namespace Field

def keyBytes (number wireType : Nat) : Bytes := Varint.encode (number * 8 + wireType)

def encode (field : Field) : Bytes :=
  match field.value with
  | .varint word => keyBytes field.number 0 ++ Varint.encode word.toNat
  | .fixed64 word => keyBytes field.number 1 ++ littleEndian 8 word.toNat
  | .bytes content => keyBytes field.number 2 ++ (Varint.encode content.length ++ content)
  | .group => []
  | .fixed32 word => keyBytes field.number 5 ++ littleEndian 4 word.toNat

/-- Splits a byte string after a number of bytes, when it has that many. -/
def takeExactly : (length : Nat) → Bytes → Option (Bytes × Bytes)
  | 0, bytes => some ([], bytes)
  | _ + 1, [] => none
  | length + 1, byte :: rest =>
    (takeExactly length rest).map (fun parts => (byte :: parts.1, parts.2))

/-- Reads a field number, which is at least one, and a wire type. -/
def readKey (bytes : Bytes) : Option (Nat × Nat × Bytes) := do
  let (key, rest) ← Varint.read bytes
  if Nat.pow 2 32 ≤ key then none
  else if key / 8 = 0 then none
  else return (key / 8, key % 8, rest)

def readPlain (wireType : Nat) (bytes : Bytes) : Option (FieldValue × Bytes) :=
  if wireType = 0 then do
    let (word, rest) ← Varint.read bytes
    return (.varint (UInt64.ofNat word), rest)
  else if wireType = 1 then do
    let (content, rest) ← takeExactly 8 bytes
    return (.fixed64 (UInt64.ofNat (ofLittleEndian content)), rest)
  else if wireType = 2 then do
    let (length, rest) ← Varint.read bytes
    let (content, rest) ← takeExactly length rest
    return (.bytes content, rest)
  else if wireType = 5 then do
    let (content, rest) ← takeExactly 4 bytes
    return (.fixed32 (UInt32.ofNat (ofLittleEndian content)), rest)
  else none

/-- Skips the fields of a group up to its end mark. `nesting` levels are left for the group and
what is inside it, and `fuel` bounds the number of fields. -/
def skipGroup : (fuel nesting number : Nat) → Bytes → Option Bytes
  | 0, _, _, _ => none
  | fuel + 1, nesting, number, bytes => do
    let (inner, wireType, rest) ← readKey bytes
    if wireType = 4 then
      if inner = number then some rest else none
    else if nesting ≤ 1 then none
    else if wireType = 3 then do
      let rest ← skipGroup fuel (nesting - 1) inner rest
      skipGroup fuel nesting number rest
    else do
      let (_, rest) ← readPlain wireType rest
      skipGroup fuel nesting number rest

def readValue (nesting number wireType : Nat) (bytes : Bytes) : Option (FieldValue × Bytes) :=
  if wireType = 3 then do
    if nesting = 0 then none
    let rest ← skipGroup bytes.length nesting number bytes
    return (.group, rest)
  else readPlain wireType bytes

/-- Splits a byte string into fields; `fuel` bounds their number. -/
def readAll (nesting : Nat) : (fuel : Nat) → Bytes → Option (List Field)
  | _, [] => some []
  | 0, _ :: _ => none
  | fuel + 1, bytes => do
    let (number, wireType, rest) ← readKey bytes
    let (value, rest) ← readValue nesting number wireType rest
    let fields ← readAll nesting fuel rest
    return ⟨number, value⟩ :: fields

/-- The fields of an encoded message. Every field takes at least one byte, so the length of the
message bounds their number. -/
def parse (nesting : Nat) (bytes : Bytes) : Option (List Field) :=
  readAll nesting bytes.length bytes

end Field

def encodeFields (fields : List Field) : Bytes := fields.flatMap Field.encode

end ConfigWatch.Wire
