import ConfigWatch.Wire.Scalar

/-!
# Messages

A message type says which fields a message has and what a field does to a message read so far:
the last value of a scalar wins, embedded messages merge, and unknown fields are skipped.
-/

set_option autoImplicit false

namespace ConfigWatch.Wire

/-- A type of messages. `merge` takes the nesting levels left, the message read so far and a
field of it. -/
class Message (α : Type) where
  initial : α
  fields : α → List Field
  merge : Nat → α → Field → Option α

namespace Message

variable {α : Type} [Message α]

def encode (message : α) : Bytes := encodeFields (fields message)

/-- Reads the fields of an encoded message into a message read so far. -/
def mergeBytes (nesting : Nat) (message : α) (bytes : Bytes) : Option α := do
  let fields ← Field.parse nesting bytes
  fields.foldlM (merge nesting) message

def decode (bytes : Bytes) : Option α := mergeBytes nestingLimit initial bytes

end Message

def Field.ofMessage {α : Type} [Message α] (number : Nat) (message : α) : Field :=
  ⟨number, .bytes (Message.encode message)⟩

/-- Reads an embedded message into the one read so far, or into the initial one. -/
def FieldValue.message? {α : Type} [Message α] (nesting : Nat) (current : Option α)
    (value : FieldValue) : Option α :=
  if nesting = 0 then none
  else value.bytes?.bind (Message.mergeBytes (nesting - 1) (current.getD Message.initial))

end ConfigWatch.Wire
