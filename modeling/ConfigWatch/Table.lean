/-!
# Tables

A finite map kept as its list of bindings, with at most one binding for each key. Lookups are
by decidable equality of keys, so a table over any key type evaluates, and the binding order is
the order of first insertion.
-/

set_option autoImplicit false

namespace ConfigWatch

/-- A finite map from keys to values; no key is bound twice. -/
structure Table (κ ν : Type) where
  entries : List (κ × ν)
  keys_nodup : (entries.map Prod.fst).Nodup := by simp

namespace Table

variable {κ ν : Type}

instance [DecidableEq κ] [DecidableEq ν] : DecidableEq (Table κ ν) := fun left right =>
  match left, right with
  | ⟨xs, _⟩, ⟨ys, _⟩ =>
    if same : xs = ys then isTrue (by subst same; rfl)
    else isFalse (fun equal => same (congrArg Table.entries equal))

def empty : Table κ ν := { entries := [] }

instance : Inhabited (Table κ ν) := ⟨empty⟩

def keys (table : Table κ ν) : List κ := table.entries.map Prod.fst

def values (table : Table κ ν) : List ν := table.entries.map Prod.snd

def size (table : Table κ ν) : Nat := table.entries.length

section Lookup

variable [DecidableEq κ]

/-- The value bound to a key in a list of bindings, the first one if there are several. -/
def lookup (key : κ) : List (κ × ν) → Option ν
  | [] => none
  | (bound, value) :: rest => if bound = key then some value else lookup key rest

def get? (table : Table κ ν) (key : κ) : Option ν := lookup key table.entries

def contains (table : Table κ ν) (key : κ) : Bool := (table.get? key).isSome

/-- Replaces the binding of a key where it stands, or adds one at the end. -/
def assign (key : κ) (value : ν) : List (κ × ν) → List (κ × ν)
  | [] => [(key, value)]
  | (bound, old) :: rest =>
    if bound = key then (bound, value) :: rest else (bound, old) :: assign key value rest

theorem mem_keys_assign {key other : κ} {value : ν} {bindings : List (κ × ν)} :
    other ∈ (assign key value bindings).map Prod.fst ↔
      other = key ∨ other ∈ bindings.map Prod.fst := by
  induction bindings with
  | nil => simp [assign]
  | cons head rest ih =>
    obtain ⟨bound, old⟩ := head
    by_cases same : bound = key
    · subst same
      simp [assign]
    · simp only [assign, if_neg same, List.map_cons, List.mem_cons, ih]
      constructor
      · rintro (here | here | here)
        · exact .inr (.inl here)
        · exact .inl here
        · exact .inr (.inr here)
      · rintro (here | here | here)
        · exact .inr (.inl here)
        · exact .inl here
        · exact .inr (.inr here)

theorem nodup_keys_assign {key : κ} {value : ν} {bindings : List (κ × ν)}
    (distinct : (bindings.map Prod.fst).Nodup) :
    ((assign key value bindings).map Prod.fst).Nodup := by
  induction bindings with
  | nil => simp [assign]
  | cons head rest ih =>
    obtain ⟨bound, old⟩ := head
    simp only [List.map_cons, List.nodup_cons] at distinct
    by_cases same : bound = key
    · simpa only [assign, if_pos same, List.map_cons, List.nodup_cons] using distinct
    · simp only [assign, if_neg same, List.map_cons, List.nodup_cons]
      refine ⟨?_, ih distinct.2⟩
      rw [mem_keys_assign]
      rintro (here | here)
      · exact same here
      · exact distinct.1 here

/-- Binds a key to a value, in place of any value it was bound to. -/
def insert (table : Table κ ν) (key : κ) (value : ν) : Table κ ν :=
  ⟨assign key value table.entries, nodup_keys_assign table.keys_nodup⟩

end Lookup

def filter (table : Table κ ν) (keep : κ → ν → Bool) : Table κ ν :=
  ⟨table.entries.filter (fun entry => keep entry.1 entry.2),
    (List.Sublist.map Prod.fst List.filter_sublist).nodup table.keys_nodup⟩

def erase [DecidableEq κ] (table : Table κ ν) (key : κ) : Table κ ν :=
  table.filter (fun bound _ => !decide (bound = key))

def mapValues {μ : Type} (table : Table κ ν) (change : κ → ν → μ) : Table κ μ :=
  ⟨table.entries.map (fun entry => (entry.1, change entry.1 entry.2)), by
    have same : (table.entries.map (fun entry => (entry.1, change entry.1 entry.2))).map Prod.fst =
        table.entries.map Prod.fst := by simp [Function.comp_def]
    rw [same]
    exact table.keys_nodup⟩

def modify [DecidableEq κ] (table : Table κ ν) (key : κ) (change : ν → ν) : Table κ ν :=
  table.mapValues (fun bound value => if bound = key then change value else value)

/-- Binds the pairs of a list one after the other, so that the last pair of a key wins. -/
def ofList [DecidableEq κ] (pairs : List (κ × ν)) : Table κ ν :=
  pairs.foldl (fun table pair => table.insert pair.1 pair.2) empty

end Table

end ConfigWatch
