import ConfigWatch.Decimal.Double
import ConfigWatch.Table

/-!
# Settings as they are found

A setting as a file or the environment gives it, before it is known what it is for. Settings
from several places are laid over one another: tables are merged entry by entry, anything else is
replaced.
-/

set_option autoImplicit false

namespace ConfigWatch

/-- A setting as it is found. -/
inductive Setting where
  | absent
  | flag (truth : Bool)
  | int (number : Int)
  | float (number : Double)
  | text (content : String)
  | list (items : List Setting)
  | table (entries : List (String × Setting))

namespace Setting

instance : Inhabited Setting := ⟨.absent⟩

/-- The lowercase of a character, as far as it can matter for a name in ASCII: besides the
letters from `A` to `Z` only the Kelvin sign has an ASCII letter as its lowercase. -/
def lowerChar (c : Char) : Char :=
  if 'A' ≤ c ∧ c ≤ 'Z' then Char.ofNat (c.toNat + 32)
  else if c = '\u212a' then 'k'
  else c

def lower (name : String) : String := String.ofList (name.toList.map lowerChar)

def entries : Setting → List (String × Setting)
  | .table entries => entries
  | _ => []

def items : Setting → List Setting
  | .list items => items
  | _ => []

mutual

/-- Lays a setting over the one under a name of a table. A target that is no table becomes one. -/
def overlay (target : Setting) (name : String) : Setting → Setting
  | .table incoming =>
    let held := (Table.lookup (lower name) target.entries).getD (.table [])
    .table (Table.assign (lower name) (overlayAll held incoming) target.entries)
  | setting => .table (Table.assign (lower name) setting target.entries)

def overlayAll (target : Setting) : List (String × Setting) → Setting
  | [] => target
  | (name, setting) :: rest => overlayAll (overlay target name setting) rest

end

/-- The item of a list that an index means; negative ones count from the end. -/
def indexIn (size : Nat) (index : Int) : Option Nat :=
  if 0 ≤ index then some index.toNat
  else if index.natAbs ≤ size then some (size - index.natAbs)
  else none

def setItem (items : List Setting) (index : Nat) (setting : Setting) : List Setting :=
  (items ++ List.replicate (index + 1 - items.length) Setting.absent).set index setting

end Setting

end ConfigWatch
