/-!
# Source positions

Where a value was written, and the tree of such places that accompanies a decoded value.
-/

set_option autoImplicit false

namespace ConfigWatch

/-- A place in one of the server's source files. -/
structure Position where
  source : UInt32 := 0
  line : UInt32 := 0
  column : UInt32 := 0
deriving DecidableEq, Inhabited, Repr

namespace Position

/-- The place written as source, line and column between colons. -/
def toText (position : Position) : String :=
  toString position.source.toNat ++ ":" ++ toString position.line.toNat ++ ":" ++
    toString position.column.toNat

end Position

/-- The places of a value and of the values inside it. A sequence has a tree for each item, a
map one for each entry. -/
inductive PositionTree where
  | node (position : Option Position) (items : List PositionTree)
      (entries : List (String × PositionTree))

namespace PositionTree

def empty : PositionTree := .node none [] []

instance : Inhabited PositionTree := ⟨empty⟩

def position : PositionTree → Option Position
  | .node position _ _ => position

def items : PositionTree → List PositionTree
  | .node _ items _ => items

def entries : PositionTree → List (String × PositionTree)
  | .node _ _ entries => entries

/-- Whether the tree knows no place at its root and has no branches. -/
def isEmpty (tree : PositionTree) : Bool :=
  tree.position.isNone && tree.items.isEmpty && tree.entries.isEmpty

def item? (tree : PositionTree) (index : Nat) : Option PositionTree := tree.items[index]?

def entry? (tree : PositionTree) (key : String) : Option PositionTree :=
  (tree.entries.find? (fun entry => entry.1 == key)).map Prod.snd

end PositionTree

end ConfigWatch
