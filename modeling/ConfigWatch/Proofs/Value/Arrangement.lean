import ConfigWatch.Value.Basic
import Mathlib.Data.List.Nodup

/-!
# Arrangement of maps

A sender may list the entries of a map in any order. The value they stand for lists them in
ascending order of their keys; a value that is ordered stands for itself.
-/

set_option autoImplicit false

namespace ConfigWatch.Value

mutual

/-- The value with the entries of every map inside it in ascending order of their keys. -/
def arranged : Value → Value
  | .sequence items => .sequence (arrangedItems items)
  | .map entries => .map (entriesOfList (arrangedEntries entries))
  | value => value

def arrangedItems : List Value → List Value
  | [] => []
  | item :: rest => arranged item :: arrangedItems rest

def arrangedEntries : List (String × Value) → List (String × Value)
  | [] => []
  | (key, value) :: rest => (key, arranged value) :: arrangedEntries rest

end

mutual

/-- No map inside the value has a key twice. -/
def KeysDiffer : Value → Prop
  | .sequence items => KeysOfItemsDiffer items
  | .map entries => (entries.map Prod.fst).Nodup ∧ KeysOfEntriesDiffer entries
  | _ => True

def KeysOfItemsDiffer : List Value → Prop
  | [] => True
  | item :: rest => KeysDiffer item ∧ KeysOfItemsDiffer rest

def KeysOfEntriesDiffer : List (String × Value) → Prop
  | [] => True
  | (_, value) :: rest => KeysDiffer value ∧ KeysOfEntriesDiffer rest

end

section Entries

variable {α β : Type}

theorem map_insertEntry (view : α → β) (key : String) (value : α) (entries : List (String × α)) :
    (insertEntry key value entries).map (Prod.map id view) =
      insertEntry key (view value) (entries.map (Prod.map id view)) := by
  induction entries with
  | nil => rfl
  | cons entry rest ih =>
    obtain ⟨other, held⟩ := entry
    simp only [insertEntry, List.map_cons, Prod.map_apply, id_eq]
    split_ifs
    · rfl
    · rfl
    · simp [ih]

/-- An entry whose key is greater than all others comes last. -/
theorem insertEntry_last {key : String} {value : α} {entries : List (String × α)}
    (greatest : ∀ entry ∈ entries, entry.1 < key) :
    insertEntry key value entries = entries ++ [(key, value)] := by
  induction entries with
  | nil => rfl
  | cons entry rest ih =>
    obtain ⟨other, held⟩ := entry
    obtain ⟨less, restLess⟩ := List.forall_mem_cons.mp greatest
    rw [insertEntry, if_neg (String.ne_of_lt less).symm, if_neg (String.lt_asymm less), ih restLess]
    rfl

theorem entriesOfList_ascending {entries : List (String × α)} (ascend : KeysAscend entries) :
    entriesOfList entries = entries := by
  have onwards (later earlier : List (String × α)) (ascend : KeysAscend (earlier ++ later)) :
      later.foldl (fun entries pair => insertEntry pair.1 pair.2 entries) earlier =
        earlier ++ later := by
    induction later generalizing earlier with
    | nil => simp
    | cons entry rest ih =>
      have greatest : ∀ other ∈ earlier, other.1 < entry.1 := by
        intro other member
        rw [KeysAscend, List.map_append, List.pairwise_append] at ascend
        exact ascend.2.2 _ (List.mem_map_of_mem member) _ (by simp)
      rw [List.foldl_cons, insertEntry_last greatest, ih _ (by simpa using ascend)]
      simp
  exact onwards entries [] ascend

end Entries

mutual

theorem Ordered.arranged : {value : Value} → value.Ordered → value.arranged = value
  | .sequence items, ordered => by
    rw [Value.arranged, ItemsOrdered.arranged ordered]
  | .map entries, ordered => by
    rw [Value.arranged, EntriesOrdered.arranged ordered.2, entriesOfList_ascending ordered.1]
  | .undefined, _ | .null, _ | .text _, _ | .bytes _, _ | .int _, _ | .double _, _
    | .bool _, _ => rfl

theorem ItemsOrdered.arranged :
    {items : List Value} → ItemsOrdered items → arrangedItems items = items
  | [], _ => rfl
  | _ :: _, ordered => by
    rw [arrangedItems, Ordered.arranged ordered.1, ItemsOrdered.arranged ordered.2]

theorem EntriesOrdered.arranged :
    {entries : List (String × Value)} → EntriesOrdered entries → arrangedEntries entries = entries
  | [], _ => rfl
  | (_, _) :: _, ordered => by
    rw [arrangedEntries, Ordered.arranged ordered.1, EntriesOrdered.arranged ordered.2]

end

mutual

theorem Ordered.keysDiffer : {value : Value} → value.Ordered → value.KeysDiffer
  | .sequence _, ordered => ItemsOrdered.keysDiffer ordered
  | .map _, ordered =>
    ⟨ordered.1.imp String.ne_of_lt, EntriesOrdered.keysDiffer ordered.2⟩
  | .undefined, _ | .null, _ | .text _, _ | .bytes _, _ | .int _, _ | .double _, _
    | .bool _, _ => trivial

theorem ItemsOrdered.keysDiffer :
    {items : List Value} → ItemsOrdered items → KeysOfItemsDiffer items
  | [], _ => trivial
  | _ :: _, ordered => ⟨Ordered.keysDiffer ordered.1, ItemsOrdered.keysDiffer ordered.2⟩

theorem EntriesOrdered.keysDiffer :
    {entries : List (String × Value)} → EntriesOrdered entries → KeysOfEntriesDiffer entries
  | [], _ => trivial
  | (_, _) :: _, ordered => ⟨Ordered.keysDiffer ordered.1, EntriesOrdered.keysDiffer ordered.2⟩

end

/-! ## Another order of entries -/

section Reordering

variable {α : Type}

/-- Entries with different keys find their places in either order. -/
theorem insertEntry_comm {key other : String} (differ : key ≠ other) (value held : α)
    (entries : List (String × α)) :
    insertEntry key value (insertEntry other held entries) =
      insertEntry other held (insertEntry key value entries) := by
  induction entries with
  | nil => grind [insertEntry]
  | cons entry rest ih => grind [insertEntry]

theorem entriesOfList_perm {listed entries : List (String × α)} (same : listed.Perm entries)
    (distinct : (listed.map Prod.fst).Nodup) : entriesOfList listed = entriesOfList entries := by
  refine same.foldl_eq' (fun left leftMember right rightMember found => ?_) []
  by_cases keys : left.1 = right.1
  · obtain rfl := List.inj_on_of_nodup_map distinct leftMember rightMember keys
    rfl
  · exact insertEntry_comm (Ne.symm keys) right.2 left.2 found

end Reordering

theorem arrangedEntries_eq_map (entries : List (String × Value)) :
    arrangedEntries entries = entries.map (Prod.map id arranged) := by
  induction entries with
  | nil => rfl
  | cons entry rest ih => rw [arrangedEntries, ih]; rfl

theorem keysOfEntriesDiffer_iff {entries : List (String × Value)} :
    KeysOfEntriesDiffer entries ↔ ∀ entry ∈ entries, entry.2.KeysDiffer := by
  induction entries with
  | nil => simp [KeysOfEntriesDiffer]
  | cons entry rest ih => rw [KeysOfEntriesDiffer, ih, List.forall_mem_cons]

theorem heightEntries_perm {listed entries : List (String × Value)} (same : listed.Perm entries) :
    heightEntries listed = heightEntries entries := by
  induction same with
  | nil => rfl
  | cons entry _ ih => rw [heightEntries, ih, heightEntries]
  | swap left right rest => 
    simp only [heightEntries]
    omega
  | trans _ _ first second => exact first.trans second

end ConfigWatch.Value
