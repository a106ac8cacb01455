import ConfigWatch.Payload.Node
import ConfigWatch.Text.Quoted

/-!
# Decoding

Reads a payload back into a value. Sizes and offsets come from a sender that is not trusted:
every index is checked against the payload, and nesting is limited to `maxDepth` levels below
the root.
-/

set_option autoImplicit false

namespace ConfigWatch

namespace Payload

/-- The deepest level below the root at which a node may stand. -/
def maxDepth : Nat := 128

/-- A decoded value with the places it was written at. -/
structure Decoded where
  value : Value
  positions : PositionTree
deriving Inhabited

def nodeAt (payload : Array Node) (index : Nat) : Except DecodeError Node :=
  match payload[index]? with
  | some node => .ok node
  | none => .error (.outOfRange index payload.size)

/-- The declared number of children, when that many nodes follow. -/
def declaredSize (payload : Array Node) (node : Node) (index : Nat) : Except DecodeError Nat :=
  if payload.size - index - 1 < node.size.toNat then
    .error (.outOfRange (index + node.size.toNat) payload.size)
  else .ok node.size.toNat

def entryKey (entry : Node) (index : Nat) : Except DecodeError String :=
  match KeyType.ofCode? entry.keyType with
  | some .text => .ok entry.key
  | some .none => .error (.missingKey index)
  | none => .error (.unknownKeyType index entry.keyType)

def nextSibling (node : Node) (index : Nat) : Nat := index + node.siblingOffset.toNat + 1

/-- Decodes `remaining` items of a sequence, the first at `index`. -/
def decodeItems (payload : Array Node) (child : Nat → Except DecodeError Decoded) :
    (remaining index : Nat) → Except DecodeError (List Decoded)
  | 0, _ => .ok []
  | remaining + 1, index => do
    let entry ← nodeAt payload index
    let item ← child index
    let rest ← decodeItems payload child remaining (nextSibling entry index)
    return item :: rest

/-- Decodes `remaining` entries of a map, the first at `index`, into the entries found before. -/
def decodeEntries (payload : Array Node) (child : Nat → Except DecodeError Decoded) :
    (remaining index : Nat) → List (String × Decoded) →
      Except DecodeError (List (String × Decoded))
  | 0, _, found => .ok found
  | remaining + 1, index, found => do
    let entry ← nodeAt payload index
    let key ← entryKey entry index
    let value ← child index
    if Value.hasKey key found then throw (.duplicateKey index key)
    decodeEntries payload child remaining (nextSibling entry index)
      (Value.insertEntry key value found)

/-- The place that a node records, when places are asked for. -/
def ownPosition (positions : Bool) (node : Node) : Option Position :=
  if positions then node.position else none

def leaf (positions : Bool) (node : Node) (value : Value) : Decoded :=
  ⟨value, .node (ownPosition positions node) [] []⟩

def sequenceOf (positions : Bool) (node : Node) (items : List Decoded) : Decoded :=
  ⟨.sequence (items.map Decoded.value),
    .node (ownPosition positions node) (if positions then items.map Decoded.positions else []) []⟩

def mapOf (positions : Bool) (node : Node) (entries : List (String × Decoded)) : Decoded :=
  ⟨.map (entries.map (fun entry => (entry.1, entry.2.value))),
    .node (ownPosition positions node) []
      (if positions then entries.map (fun entry => (entry.1, entry.2.positions)) else [])⟩

/-- Decodes the node at an index and its subtree, with `levels` more levels allowed, its own
included. -/
def decodeNode (payload : Array Node) (positions : Bool) :
    (levels index : Nat) → Except DecodeError Decoded
  | 0, index => .error (.tooDeep index maxDepth)
  | levels + 1, index => do
    let node ← nodeAt payload index
    match ValueType.ofCode? node.valueType with
    | none => .error (.unknownValueType index node.valueType)
    | some .undefined => return leaf positions node .undefined
    | some .null => return leaf positions node .null
    | some .text => return leaf positions node (.text node.text)
    | some .bytes => return leaf positions node (.bytes node.bytes)
    | some .int => return leaf positions node (.int node.int)
    | some .double => return leaf positions node (.double node.double)
    | some .bool => return leaf positions node (.bool node.bool)
    | some .map =>
      let size ← declaredSize payload node index
      let entries ← decodeEntries payload (decodeNode payload positions levels) size (index + 1) []
      return mapOf positions node entries
    | some .sequence =>
      let size ← declaredSize payload node index
      let items ← decodeItems payload (decodeNode payload positions levels) size (index + 1)
      return sequenceOf positions node items

/-- Decodes a payload, with the places of its values when `positions` is set. An empty payload
is the undefined value. -/
def decodeWith (positions : Bool) (payload : Array Node) : Except DecodeError Decoded :=
  if payload.isEmpty then .ok ⟨.undefined, .empty⟩
  else decodeNode payload positions (maxDepth + 1) 0

def decode (payload : Array Node) : Except DecodeError Value :=
  (decodeWith false payload).map Decoded.value

end Payload

namespace DecodeError

/-- What a reader is told about a payload that does not decode. -/
def message : DecodeError → String
  | .unknownValueType index code =>
    "Unknown value type " ++ toString code.toInt ++ " at element " ++ toString index
  | .unknownKeyType index code =>
    "Unknown key type " ++ toString code.toInt ++ " at element " ++ toString index
  | .missingKey index => "Map entry at element " ++ toString index ++ " has no string key"
  | .duplicateKey index key =>
    "Duplicated map key " ++ Quoted.quote key ++ " at element " ++ toString index
  | .outOfRange index length =>
    "Element " ++ toString index ++ " is out of range, payload holds " ++ toString length ++
      " elements"
  | .tooDeep index limit =>
    "Element " ++ toString index ++ " is nested deeper than " ++ toString limit ++ " levels"

end DecodeError

end ConfigWatch
