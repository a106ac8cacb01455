import ConfigWatch.Settings.Setting

/-!
# Trees of tables

The tables of a settings file while it is read. Where a table comes from decides what may still be
added to it: a table is written under a header once, and a table made by the parts of a key only
takes further keys of that kind.
-/

set_option autoImplicit false

namespace ConfigWatch.Toml

/-- Where a table comes from. -/
inductive TableOrigin where
  /-- It lies on the way to a table with a header. -/
  | implied
  /-- It was made by the parts of a key. -/
  | dotted
  /-- It has a header of its own. -/
  | written
deriving DecidableEq

/-- An entry of a table under construction. -/
inductive Node where
  | value (setting : Setting)
  | table (origin : TableOrigin) (entries : List (String × Node))
  /-- A list of tables, each with a header of its own. -/
  | tables (elements : List Node)

abbrev Entries := List (String × Node)

namespace Entries

def changeLast (change : Entries → Option Entries) (elements : List Node) : Option (List Node) :=
  match elements.getLast? with
  | some (.table origin inner) =>
    (change inner).map (fun changed => elements.dropLast ++ [.table origin changed])
  | _ => none

/-- Applies a change to the table at the end of a path. Tables missing on the way are implied; a
list of tables stands for its last one. -/
def changeAt (change : Entries → Option Entries) : List String → Entries → Option Entries
  | [], entries => change entries
  | key :: path, entries =>
    match Table.lookup key entries with
    | none =>
      (changeAt change path []).map
        (fun inner => Table.assign key (.table .implied inner) entries)
    | some (.table origin inner) =>
      (changeAt change path inner).map
        (fun inner => Table.assign key (.table origin inner) entries)
    | some (.tables elements) =>
      (changeLast (changeAt change path) elements).map
        (fun elements => Table.assign key (.tables elements) entries)
    | some (.value _) => none

/-- Opens a table with a header. An implied table is written from now on; no other table is
opened twice. -/
def openTable (key : String) (entries : Entries) : Option Entries :=
  match Table.lookup key entries with
  | none => some (Table.assign key (.table .written []) entries)
  | some (.table .implied inner) => some (Table.assign key (.table .written inner) entries)
  | some _ => none

def openElement (key : String) (entries : Entries) : Option Entries :=
  match Table.lookup key entries with
  | none => some (Table.assign key (.tables [.table .written []]) entries)
  | some (.tables elements) =>
    some (Table.assign key (.tables (elements ++ [.table .written []])) entries)
  | some _ => none

/-- Adds a value under a key, unless the key is taken or the table takes no values. -/
def addValue (accepts : Bool) (key : String) (setting : Setting) (entries : Entries) :
    Option Entries :=
  if accepts && (Table.lookup key entries).isNone then
    some (Table.assign key (.value setting) entries)
  else none

/-- Adds a value under a key of several parts. The parts before the last lead through tables that
were made in the same way. `accepts` says whether the table at hand takes values itself. -/
def addDotted (setting : Setting) (key : String) :
    (accepts : Bool) → List String → Entries → Option Entries
  | accepts, [], entries => addValue accepts key setting entries
  | _, part :: path, entries =>
    match Table.lookup part entries with
    | none =>
      (addDotted setting key true path []).map
        (fun inner => Table.assign part (.table .dotted inner) entries)
    | some (.table origin inner) =>
      if origin = .written then none
      else
        (addDotted setting key (origin == .dotted) path inner).map
          (fun inner => Table.assign part (.table origin inner) entries)
    | some (.tables elements) =>
      (changeLast (addDotted setting key false path) elements).map
        (fun elements => Table.assign part (.tables elements) entries)
    | some (.value _) => none

end Entries

mutual

def Node.toSetting : Node → Setting
  | .value setting => setting
  | .table _ entries => .table (Entries.toSettings entries)
  | .tables elements => .list (Node.allToSettings elements)

def Entries.toSettings : List (String × Node) → List (String × Setting)
  | [] => []
  | (key, node) :: rest => (key, node.toSetting) :: Entries.toSettings rest

def Node.allToSettings : List Node → List Setting
  | [] => []
  | node :: rest => node.toSetting :: Node.allToSettings rest

end

end ConfigWatch.Toml
