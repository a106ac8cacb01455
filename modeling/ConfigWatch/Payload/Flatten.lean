import ConfigWatch.Payload.Node

/-!
# Flattening

A value as a payload: its node followed by the payloads of its children, each of which starts
with a node that gives the way to its next sibling and, inside a map, the key.
-/

set_option autoImplicit false

namespace ConfigWatch.Payload

/-- Makes a payload an item of a sequence: its first node gives the number of nodes after it. -/
def asItem : List Node → List Node
  | [] => []
  | head :: rest => { head with siblingOffset := UInt32.ofNat rest.length } :: rest

def asEntry (key : String) : List Node → List Node
  | [] => []
  | head :: rest =>
    { head with
      keyType := KeyType.text.code, key := key, siblingOffset := UInt32.ofNat rest.length } :: rest

mutual

def flatten : Value → List Node
  | .undefined => [{ valueType := ValueType.undefined.code }]
  | .null => [{ valueType := ValueType.null.code }]
  | .text content => [{ valueType := ValueType.text.code, text := content }]
  | .bytes content => [{ valueType := ValueType.bytes.code, bytes := content }]
  | .int number => [{ valueType := ValueType.int.code, int := number }]
  | .double number => [{ valueType := ValueType.double.code, double := number }]
  | .bool truth => [{ valueType := ValueType.bool.code, bool := truth }]
  | .sequence items =>
    { valueType := ValueType.sequence.code, size := UInt32.ofNat items.length } ::
      flattenItems items
  | .map entries =>
    { valueType := ValueType.map.code, size := UInt32.ofNat entries.length } ::
      flattenEntries entries

def flattenItems : List Value → List Node
  | [] => []
  | item :: rest => asItem (flatten item) ++ flattenItems rest

def flattenEntries : List (String × Value) → List Node
  | [] => []
  | (key, value) :: rest => asEntry key (flatten value) ++ flattenEntries rest

end

end ConfigWatch.Payload
