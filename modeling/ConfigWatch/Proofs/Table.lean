import ConfigWatch.Table

/-!
# Lookups in tables

What every operation on a table does to the value bound to a key. A table is known by its
lookups, up to the order of its bindings.
-/

set_option autoImplicit false

namespace ConfigWatch.Table

variable {κ ν : Type}

theorem eq_empty {table : Table κ ν} (none : table.entries = []) : table = empty := by
  obtain ⟨entries, distinct⟩ := table
  cases none
  rfl

variable [DecidableEq κ]

@[simp] theorem get?_empty (key : κ) : (empty : Table κ ν).get? key = none := rfl

private theorem lookup_eq_some_iff {bindings : List (κ × ν)}
    (distinct : (bindings.map Prod.fst).Nodup) (key : κ) (value : ν) :
    lookup key bindings = some value ↔ (key, value) ∈ bindings := by
  induction bindings with
  | nil => simp [lookup]
  | cons binding rest ih =>
    obtain ⟨bound, held⟩ := binding
    simp only [List.map_cons, List.nodup_cons] at distinct
    by_cases same : bound = key
    · subst same
      have absent : (bound, value) ∉ rest := fun member =>
        distinct.1 (List.mem_map.mpr ⟨_, member, rfl⟩)
      simp [lookup, absent, eq_comm]
    · rw [lookup, if_neg same, ih distinct.2]
      simp [Ne.symm same]

theorem get?_eq_some_iff {table : Table κ ν} {key : κ} {value : ν} :
    table.get? key = some value ↔ (key, value) ∈ table.entries :=
  lookup_eq_some_iff table.keys_nodup key value

private theorem lookup_assign (key other : κ) (value : ν) (bindings : List (κ × ν)) :
    lookup other (assign key value bindings) =
      if other = key then some value else lookup other bindings := by
  induction bindings with
  | nil => simp [assign, lookup, eq_comm]
  | cons binding rest ih =>
    obtain ⟨bound, held⟩ := binding
    by_cases same : bound = key
    · subst same
      by_cases here : other = bound
      · simp [assign, lookup, here]
      · simp [assign, lookup, here, Ne.symm here]
    · rw [assign, if_neg same]
      by_cases here : bound = other
      · subst here
        simp [lookup, same]
      · simp only [lookup, if_neg here, ih]

theorem get?_insert (table : Table κ ν) (key other : κ) (value : ν) :
    (table.insert key value).get? other = if other = key then some value else table.get? other :=
  lookup_assign key other value table.entries

theorem get?_filter (table : Table κ ν) (keep : κ → ν → Bool) (key : κ) :
    (table.filter keep).get? key = (table.get? key).filter (keep key) := by
  apply Option.ext
  intro value
  rw [get?_eq_some_iff, Option.filter_eq_some_iff, get?_eq_some_iff]
  exact List.mem_filter

theorem get?_erase (table : Table κ ν) (key other : κ) :
    (table.erase key).get? other = if other = key then none else table.get? other := by
  rw [erase, get?_filter]
  by_cases same : other = key <;> cases table.get? other <;> simp [same]

private theorem lookup_map {μ : Type} (change : κ → ν → μ) (key : κ) (bindings : List (κ × ν)) :
    lookup key (bindings.map (fun binding => (binding.1, change binding.1 binding.2))) =
      (lookup key bindings).map (change key) := by
  induction bindings with
  | nil => rfl
  | cons binding rest ih =>
    obtain ⟨bound, held⟩ := binding
    by_cases same : bound = key
    · subst same
      simp [lookup]
    · simp [lookup, same, ih]

theorem get?_mapValues {μ : Type} (table : Table κ ν) (change : κ → ν → μ) (key : κ) :
    (table.mapValues change).get? key = (table.get? key).map (change key) :=
  lookup_map change key table.entries

theorem get?_modify (table : Table κ ν) (key other : κ) (change : ν → ν) :
    (table.modify key change).get? other =
      if other = key then (table.get? other).map change else table.get? other := by
  rw [modify, get?_mapValues]
  by_cases same : other = key <;> cases table.get? other <;> simp [same]

theorem mem_values_iff {table : Table κ ν} {value : ν} :
    value ∈ table.values ↔ ∃ key, table.get? key = some value := by
  simp only [values, List.mem_map, Prod.exists, exists_eq_right, get?_eq_some_iff]

theorem values_pairwise {table : Table κ ν} {related : ν → ν → Prop}
    (relates : ∀ key value other held, table.get? key = some value →
      table.get? other = some held → key ≠ other → related value held) :
    table.values.Pairwise related := by
  have keys : table.entries.Pairwise (fun left right => left.1 ≠ right.1) :=
    List.pairwise_map.mp table.keys_nodup
  refine List.pairwise_map.mpr (keys.imp_of_mem ?_)
  intro left right leftMember rightMember differ
  exact relates left.1 left.2 right.1 right.2 (get?_eq_some_iff.mpr leftMember)
    (get?_eq_some_iff.mpr rightMember) differ

/-! ## Values that are changed throughout -/

section MapValues

variable {μ : Type}

private theorem assign_map (change : κ → ν → μ) (key : κ) (value : ν) (bindings : List (κ × ν)) :
    (assign key value bindings).map (fun binding => (binding.1, change binding.1 binding.2)) =
      assign key (change key value)
        (bindings.map (fun binding => (binding.1, change binding.1 binding.2))) := by
  induction bindings with
  | nil => rfl
  | cons binding rest ih =>
    obtain ⟨bound, held⟩ := binding
    by_cases same : bound = key
    · subst same
      simp [assign]
    · simp [assign, same, ih]

omit [DecidableEq κ] in
theorem ext_entries {left right : Table κ ν} (same : left.entries = right.entries) :
    left = right := by
  obtain ⟨entries, distinct⟩ := left
  cases same
  rfl

theorem mapValues_insert (table : Table κ ν) (change : κ → ν → μ) (key : κ) (value : ν) :
    (table.insert key value).mapValues change =
      (table.mapValues change).insert key (change key value) :=
  ext_entries (assign_map change key value table.entries)

omit [DecidableEq κ] in
theorem mapValues_filter (table : Table κ ν) (change : κ → ν → μ) {keep : κ → ν → Bool}
    (keeps : κ → μ → Bool) (agree : ∀ key value, keeps key (change key value) = keep key value) :
    (table.filter keep).mapValues change = (table.mapValues change).filter keeps := by
  refine ext_entries ?_
  simp only [mapValues, filter, List.filter_map, Function.comp_def, agree]

theorem mapValues_erase (table : Table κ ν) (change : κ → ν → μ) (key : κ) :
    (table.erase key).mapValues change = (table.mapValues change).erase key :=
  mapValues_filter table change _ (fun _ _ => rfl)

theorem mapValues_modify (table : Table κ ν) (change : κ → ν → μ) (key : κ) {alter : ν → ν}
    (alters : μ → μ) (agree : ∀ value, change key (alter value) = alters (change key value)) :
    (table.modify key alter).mapValues change = (table.mapValues change).modify key alters := by
  refine ext_entries ?_
  simp only [modify, mapValues, List.map_map]
  refine List.map_congr_left (fun binding _ => ?_)
  by_cases same : binding.1 = key
  · simp [← same, same ▸ agree]
  · simp [same]

omit [DecidableEq κ] in
theorem mapValues_mapValues {ρ : Type} (table : Table κ ν) (first : κ → ν → μ)
    (second : κ → μ → ρ) :
    (table.mapValues first).mapValues second =
      table.mapValues (fun key value => second key (first key value)) := by
  apply ext_entries
  simp only [mapValues, List.map_map]
  rfl

omit [DecidableEq κ] in
/-- Of two filters in turn the first makes no difference if it keeps whatever the second keeps. -/
theorem filter_filter_of_imp (table : Table κ ν) {first second : κ → ν → Bool}
    (wider : ∀ key value, second key value = true → first key value = true) :
    (table.filter first).filter second = table.filter second := by
  apply ext_entries
  simp only [filter, List.filter_filter]
  apply List.filter_congr
  rintro ⟨key, value⟩ -
  cases passes : second key value with
  | false => rfl
  | true => exact wider key value passes

omit [DecidableEq κ] in
theorem values_mapValues (table : Table κ ν) (change : ν → μ) :
    (table.mapValues (fun _ => change)).values = table.values.map change := by
  simp only [values, mapValues, List.map_map]
  rfl

omit [DecidableEq κ] in
@[simp] theorem size_mapValues (table : Table κ ν) (change : κ → ν → μ) :
    (table.mapValues change).size = table.size :=
  List.length_map _

@[simp] theorem contains_mapValues (table : Table κ ν) (change : κ → ν → μ) (key : κ) :
    (table.mapValues change).contains key = table.contains key := by
  rw [contains, get?_mapValues, Option.isSome_map, contains]

/-- A change that leaves every value of a table leaves the table. -/
theorem mapValues_same {table : Table κ ν} {change : κ → ν → ν}
    (same : ∀ key value, table.get? key = some value → change key value = value) :
    table.mapValues change = table := by
  refine ext_entries ((List.map_congr_left (fun binding member => ?_)).trans (List.map_id _))
  rw [same binding.1 binding.2 (get?_eq_some_iff.mpr member)]
  rfl

end MapValues

end ConfigWatch.Table
