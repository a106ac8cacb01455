import ConfigWatch.Decimal.Double
import ConfigWatch.Text.Hex

/-!
# Configuration values

The values that documents hold. A map lists its entries in ascending order of their keys, which
`Value.Ordered` states; the operations here keep it.
-/

set_option autoImplicit false

namespace ConfigWatch

/-- A configuration value. -/
inductive Value where
  | undefined
  | null
  | text (content : String)
  | bytes (content : Bytes)
  | int (number : Int64)
  | double (number : Double)
  | bool (truth : Bool)
  | sequence (items : List Value)
  | map (entries : List (String × Value))

namespace Value

/-- What an absent document decodes to. -/
instance : Inhabited Value := ⟨.undefined⟩

section Entries

variable {α : Type}

def hasKey (key : String) (entries : List (String × α)) : Bool :=
  entries.any (fun entry => entry.1 == key)

/-- Puts an entry in its place in ascending order, in place of one with the same key. -/
def insertEntry (key : String) (value : α) : List (String × α) → List (String × α)
  | [] => [(key, value)]
  | (other, held) :: rest =>
    if key = other then (key, value) :: rest
    else if key < other then (key, value) :: (other, held) :: rest
    else (other, held) :: insertEntry key value rest

/-- The entries of a list of pairs, in ascending order; of two pairs with one key the last. -/
def entriesOfList (pairs : List (String × α)) : List (String × α) :=
  pairs.foldl (fun entries pair => insertEntry pair.1 pair.2 entries) []

def KeysAscend (entries : List (String × α)) : Prop :=
  (entries.map Prod.fst).Pairwise (· < ·)

end Entries

mutual

/-- Every map inside the value lists its keys in strictly ascending order. -/
def Ordered : Value → Prop
  | .sequence items => ItemsOrdered items
  | .map entries => KeysAscend entries ∧ EntriesOrdered entries
  | _ => True

def ItemsOrdered : List Value → Prop
  | [] => True
  | item :: rest => Ordered item ∧ ItemsOrdered rest

def EntriesOrdered : List (String × Value) → Prop
  | [] => True
  | (_, value) :: rest => Ordered value ∧ EntriesOrdered rest

end

mutual

/-- The number of values in a value: itself, and all that are nested in it. -/
def count : Value → Nat
  | .sequence items => 1 + countItems items
  | .map entries => 1 + countEntries entries
  | _ => 1

def countItems : List Value → Nat
  | [] => 0
  | item :: rest => count item + countItems rest

def countEntries : List (String × Value) → Nat
  | [] => 0
  | (_, value) :: rest => count value + countEntries rest

end

mutual

/-- How many levels lie below a value: none below one without children. -/
def height : Value → Nat
  | .sequence items => heightItems items
  | .map entries => heightEntries entries
  | _ => 0

def heightItems : List Value → Nat
  | [] => 0
  | item :: rest => max (height item + 1) (heightItems rest)

def heightEntries : List (String × Value) → Nat
  | [] => 0
  | (_, value) :: rest => max (height value + 1) (heightEntries rest)

end

mutual

/-- Whether two values are equal as numbers, strings and structures. Doubles are compared as
numbers, so a value with a NaN inside equals nothing. -/
def sameValue : Value → Value → Bool
  | .undefined, .undefined => true
  | .null, .null => true
  | .text left, .text right => left == right
  | .bytes left, .bytes right => left == right
  | .int left, .int right => left == right
  | .double left, .double right => left.sameNumber right
  | .bool left, .bool right => left == right
  | .sequence left, .sequence right => sameItems left right
  | .map left, .map right => sameEntries left right
  | _, _ => false

def sameItems : List Value → List Value → Bool
  | [], [] => true
  | left :: lefts, right :: rights => sameValue left right && sameItems lefts rights
  | _, _ => false

/-- Whether two lists of entries are equal entry by entry. -/
def sameEntries : List (String × Value) → List (String × Value) → Bool
  | [], [] => true
  | (leftKey, left) :: lefts, (rightKey, right) :: rights =>
    leftKey == rightKey && sameValue left right && sameEntries lefts rights
  | _, _ => false

end

def get? : Value → String → Option Value
  | .map entries, key => (entries.find? (fun entry => entry.1 == key)).map Prod.snd
  | _, _ => none

def getPath? (value : Value) (path : List String) : Option Value :=
  path.foldlM get? value

def text? : Value → Option String
  | .text content => some content
  | _ => none

def bytes? : Value → Option Bytes
  | .bytes content => some content
  | _ => none

def int? : Value → Option Int64
  | .int number => some number
  | _ => none

def double? : Value → Option Double
  | .double number => some number
  | _ => none

def bool? : Value → Option Bool
  | .bool truth => some truth
  | _ => none

def sequence? : Value → Option (List Value)
  | .sequence items => some items
  | _ => none

def map? : Value → Option (List (String × Value))
  | .map entries => some entries
  | _ => none

def isNull : Value → Bool
  | .null => true
  | _ => false

def isUndefined : Value → Bool
  | .undefined => true
  | _ => false

end Value

end ConfigWatch
