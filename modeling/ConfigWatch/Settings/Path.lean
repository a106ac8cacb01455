import ConfigWatch.Decimal.Numeral
import ConfigWatch.Settings.Setting

/-!
# Paths

The name of a setting may be a path: names joined by points, and indices between brackets. A
name that is no path stands for itself.
-/

set_option autoImplicit false

namespace ConfigWatch

/-- One step from a setting to a part of it. -/
inductive PathStep where
  | child (name : String)
  | item (index : Int)
deriving DecidableEq

namespace PathStep

def isNameChar (c : Char) : Bool :=
  ('a' ≤ c && c ≤ 'z') || ('A' ≤ c && c ≤ 'Z') || ('0' ≤ c && c ≤ '9') ||
    c == ' ' || c == '_' || c == '-'

def readName (chars : List Char) : Option (String × List Char) :=
  let (name, rest) := chars.span isNameChar
  if name = [] then none else some (String.ofList name, rest)

/-- Reads an index between blanks, up to the closing bracket. -/
def readIndex (chars : List Char) : Option (Int × List Char) := do
  let (inside, rest) := chars.span (fun c => c != ']')
  let core := ((inside.dropWhile (· == ' ')).reverse.dropWhile (· == ' ')).reverse
  let index ← match core with
    | '+' :: _ => none
    | _ => Numeral.int64? core
  return (index, rest.drop 1)

/-- Reads the steps after the first name. Every step takes a character at least. -/
def readSteps : (fuel : Nat) → List Char → Option (List PathStep)
  | _, [] => some []
  | 0, _ => none
  | fuel + 1, '.' :: rest => do
    let (name, rest) ← readName rest
    let steps ← readSteps fuel rest
    return .child name :: steps
  | fuel + 1, '[' :: rest => do
    if !rest.contains ']' then none
    let (index, rest) ← readIndex rest
    let steps ← readSteps fuel rest
    return .item index :: steps
  | _ + 1, _ => none

def readPath (name : String) : Option (String × List PathStep) := do
  let (first, rest) ← readName name.toList
  let steps ← readSteps rest.length rest
  return (first, steps)

end PathStep

namespace Setting

/-- Lays a setting over the part of another one that some steps lead to. What is missing on the
way is made. -/
def overlayAt (setting : Setting) : PathStep → List PathStep → Setting → Setting
  | .child name, [], target => overlay target name setting
  | .child name, next :: rest, target =>
    let held := (Table.lookup (lower name) target.entries).getD .absent
    .table (Table.assign (lower name) (overlayAt setting next rest held) target.entries)
  | .item index, steps, target =>
    match indexIn target.items.length index with
    | none => target
    | some index =>
      let placed := match steps with
        | [] => setting
        | next :: rest => overlayAt setting next rest (target.items[index]?.getD .absent)
      .list (setItem target.items index placed)

/-- Lays a setting over the one that a name stands for, as a path if it is one. -/
def overlayNamed (target : Setting) (name : String) (setting : Setting) : Setting :=
  match PathStep.readPath name with
  | some (first, steps) => overlayAt setting (.child first) steps target
  | none => overlay target name setting

/-- Lays the entries of a layer over the settings below it. -/
def overlayLayer (settings : Setting) (layer : List (String × Setting)) : Setting :=
  layer.foldl (fun settings entry => overlayNamed settings entry.1 entry.2) settings

end Setting

end ConfigWatch
