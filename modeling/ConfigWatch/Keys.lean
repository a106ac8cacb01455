/-!
# Keys

What names a namespace, a document inside it, and a version of a namespace. Versions are ordered
only within one namespace id; a version of another id always replaces the one at hand.
-/

set_option autoImplicit false

namespace ConfigWatch

/-- Items of a list between brackets, separated by commas; an empty list has no brackets. -/
def bracketed (items : List String) : String :=
  if items = [] then "" else "[" ++ String.intercalate "," items ++ "]"

/-- A namespace: a root path and the overrides applied to it. -/
structure NamespaceKey where
  root : String := ""
  overrides : List String := []
deriving DecidableEq, Inhabited, Repr

/-- A document of a namespace, in some flavors. -/
structure DocumentKey where
  document : String := ""
  flavors : List String := []
deriving DecidableEq, Inhabited, Repr

/-- A version of a namespace. -/
structure Version where
  namespaceId : UInt64 := 0
  number : UInt32 := 0
deriving DecidableEq, Inhabited, Repr

namespace NamespaceKey

/-- The root path, followed by the overrides between brackets. -/
def toText (key : NamespaceKey) : String := key.root ++ bracketed key.overrides

end NamespaceKey

namespace DocumentKey

/-- The document, followed by the flavors between brackets. -/
def toText (key : DocumentKey) : String := key.document ++ bracketed key.flavors

def isBare (key : DocumentKey) : Bool := key.flavors.isEmpty

end DocumentKey

namespace Version

def toText (version : Version) : String :=
  toString version.namespaceId.toNat ++ "@" ++ toString version.number.toNat

def compare? (left right : Version) : Option Ordering :=
  if left.namespaceId = right.namespaceId then some (compare left.number.toNat right.number.toNat)
  else none

/-- Whether a version replaces the one at hand: it is greater, or of another namespace id. -/
def supersedes (version current : Version) : Bool :=
  match version.compare? current with
  | some ordering => ordering == .gt
  | none => true

end Version

end ConfigWatch
