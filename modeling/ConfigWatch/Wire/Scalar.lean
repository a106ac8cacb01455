import ConfigWatch.Text.Utf8
import ConfigWatch.Wire.Field

/-!
# Scalar fields

How the scalar types of messages travel in fields. A scalar that has its default value is left
out; a scalar is accepted only from a field of the wire type that its type is written with.
-/

set_option autoImplicit false

namespace ConfigWatch.Wire

namespace Field

def ofUInt32 (number : Nat) (word : UInt32) : List Field :=
  if word = 0 then [] else [⟨number, .varint word.toUInt64⟩]

def ofUInt64 (number : Nat) (word : UInt64) : List Field :=
  if word = 0 then [] else [⟨number, .varint word⟩]

/-- An enumeration number as a field, unless it is zero. Its sign fills the 64 bits. -/
def ofInt32 (number : Nat) (word : Int32) : List Field :=
  if word = 0 then [] else [⟨number, .varint word.toInt64.toUInt64⟩]

def ofInt64 (number : Nat) (word : Int64) : List Field :=
  if word = 0 then [] else [⟨number, .varint word.toUInt64⟩]

def ofBool (number : Nat) (truth : Bool) : List Field :=
  if truth then [⟨number, .varint 1⟩] else []

def ofDouble (number : Nat) (double : Double) : List Field :=
  if double.isZero then [] else [⟨number, .fixed64 double.bits⟩]

def ofBytes (number : Nat) (content : Bytes) : List Field :=
  if content = [] then [] else [⟨number, .bytes content⟩]

def ofText (number : Nat) (text : String) : List Field := ofBytes number (Utf8.encode text)

/-- A field for every string of a list, the empty ones too. -/
def ofTexts (number : Nat) (texts : List String) : List Field :=
  texts.map (fun text => ⟨number, .bytes (Utf8.encode text)⟩)

end Field

namespace FieldValue

def word? : FieldValue → Option UInt64
  | .varint word => some word
  | _ => none

def uint32? (value : FieldValue) : Option UInt32 := value.word?.map UInt64.toUInt32

def uint64? (value : FieldValue) : Option UInt64 := value.word?

def int32? (value : FieldValue) : Option Int32 :=
  value.word?.map (fun word => word.toUInt32.toInt32)

def int64? (value : FieldValue) : Option Int64 := value.word?.map UInt64.toInt64

def bool? (value : FieldValue) : Option Bool := value.word?.map (fun word => word != 0)

def double? : FieldValue → Option Double
  | .fixed64 word => some ⟨word⟩
  | _ => none

def bytes? : FieldValue → Option Bytes
  | .bytes content => some content
  | _ => none

def text? (value : FieldValue) : Option String :=
  value.bytes?.bind (fun content => String.fromUTF8? ⟨content.toArray⟩)

end FieldValue

end ConfigWatch.Wire
