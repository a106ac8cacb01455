import ConfigWatch.Position
import ConfigWatch.Value.Basic

/-!
# Payload nodes

A payload is a list of nodes in pre-order. A container node gives the number of its direct
children, and every node the number of nodes between itself and its next sibling.
-/

set_option autoImplicit false

namespace ConfigWatch

/-- One node of a payload, with every field it may carry. Which of them count depends on the
value type. -/
structure Node where
  valueType : Int32 := 0
  keyType : Int32 := 0
  key : String := ""
  size : UInt32 := 0
  siblingOffset : UInt32 := 0
  text : String := ""
  bytes : Bytes := []
  int : Int64 := 0
  double : Double := Double.zero
  bool : Bool := false
  position : Option Position := none
deriving DecidableEq, Inhabited

/-- The kinds of nodes. -/
inductive ValueType where
  | undefined | null | text | bytes | int | double | bool | map | sequence
deriving DecidableEq

namespace ValueType

def code : ValueType → Int32
  | .undefined => 0
  | .null => 1
  | .text => 2
  | .bytes => 3
  | .int => 4
  | .double => 5
  | .bool => 6
  | .map => 7
  | .sequence => 8

def ofCode? (code : Int32) : Option ValueType :=
  if code = 0 then some .undefined
  else if code = 1 then some .null
  else if code = 2 then some .text
  else if code = 3 then some .bytes
  else if code = 4 then some .int
  else if code = 5 then some .double
  else if code = 6 then some .bool
  else if code = 7 then some .map
  else if code = 8 then some .sequence
  else none

end ValueType

/-- The kinds of keys: none, or a string. -/
inductive KeyType where
  | none | text
deriving DecidableEq

namespace KeyType

def code : KeyType → Int32
  | .none => 0
  | .text => 1

def ofCode? (code : Int32) : Option KeyType :=
  if code = 0 then some .none else if code = 1 then some .text else Option.none

end KeyType

/-- Why a payload does not decode. Every cause names the node it was found at. -/
inductive DecodeError where
  | unknownValueType (index : Nat) (code : Int32)
  | unknownKeyType (index : Nat) (code : Int32)
  | missingKey (index : Nat)
  | duplicateKey (index : Nat) (key : String)
  | outOfRange (index length : Nat)
  | tooDeep (index limit : Nat)
deriving DecidableEq

end ConfigWatch
