import ConfigWatch.Value.Basic

/-!
# Levels of a value

How far below the root the values inside a value stand, in pre-order: a value comes before what
is nested in it, items in their order and entries in the order of their keys.
-/

set_option autoImplicit false

namespace ConfigWatch.Value

mutual

/-- The levels below the root of a value and of all that are nested in it, in pre-order. -/
def levels : Value → List Nat
  | .sequence items => 0 :: (levelsOfItems items).map (· + 1)
  | .map entries => 0 :: (levelsOfEntries entries).map (· + 1)
  | _ => [0]

def levelsOfItems : List Value → List Nat
  | [] => []
  | item :: rest => levels item ++ levelsOfItems rest

def levelsOfEntries : List (String × Value) → List Nat
  | [] => []
  | (_, value) :: rest => levels value ++ levelsOfEntries rest

end

mutual

theorem length_levels : (value : Value) → value.levels.length = value.count
  | .sequence items => by
    simp [levels, count, length_levelsOfItems items, Nat.add_comm]
  | .map entries => by
    simp [levels, count, length_levelsOfEntries entries, Nat.add_comm]
  | .undefined | .null | .text _ | .bytes _ | .int _ | .double _ | .bool _ => rfl

theorem length_levelsOfItems :
    (items : List Value) → (levelsOfItems items).length = countItems items
  | [] => rfl
  | item :: rest => by
    simp [levelsOfItems, countItems, length_levels item, length_levelsOfItems rest]

theorem length_levelsOfEntries :
    (entries : List (String × Value)) → (levelsOfEntries entries).length = countEntries entries
  | [] => rfl
  | (_, value) :: rest => by
    simp [levelsOfEntries, countEntries, length_levels value, length_levelsOfEntries rest]

end

/-! ## The first at a level -/

/-- The position of the first number in a list that is a given level. -/
def firstOf? (level : Nat) (levels : List Nat) : Option Nat :=
  levels.findIdx? (fun other => other == level)

/-- The pre-order position of the first value at a level. -/
def firstAt? (level : Nat) (value : Value) : Option Nat := firstOf? level value.levels

theorem firstOf?_append (level : Nat) (left right : List Nat) :
    firstOf? level (left ++ right) =
      (firstOf? level left).or ((firstOf? level right).map (· + left.length)) :=
  List.findIdx?_append

theorem firstOf?_below (level : Nat) (levels : List Nat) :
    firstOf? (level + 1) (0 :: levels.map (· + 1)) = (firstOf? level levels).map (· + 1) := by
  have same : (fun other => other == level + 1) ∘ (· + 1) = fun other => other == level := by
    funext other
    simp
  rw [firstOf?, List.findIdx?_cons, List.findIdx?_map, same]
  rfl

theorem firstAt?_zero (value : Value) : firstAt? 0 value = some 0 := by
  cases value <;> rfl

/-! ## No level is left out -/

/-- All levels above a level are among some levels as well. -/
def NoneLeftOut (levels : List Nat) : Prop :=
  ∀ level ∈ levels, ∀ lower ≤ level, lower ∈ levels

private theorem NoneLeftOut.append {left right : List Nat} (first : NoneLeftOut left)
    (second : NoneLeftOut right) : NoneLeftOut (left ++ right) := by
  intro level member lower le
  rcases List.mem_append.mp member with here | there
  · exact List.mem_append_left _ (first level here lower le)
  · exact List.mem_append_right _ (second level there lower le)

private theorem NoneLeftOut.below {levels : List Nat} (all : NoneLeftOut levels) :
    NoneLeftOut (0 :: levels.map (· + 1)) := by
  intro level member lower le
  cases lower with
  | zero => exact List.mem_cons_self
  | succ lower =>
    rcases List.mem_cons.mp member with rfl | deeper
    · exact absurd le (Nat.not_succ_le_zero lower)
    · obtain ⟨inner, held, rfl⟩ := List.mem_map.mp deeper
      have above := all inner held lower (Nat.le_of_succ_le_succ le)
      exact List.mem_cons_of_mem _ (List.mem_map_of_mem above)

mutual

theorem levels_noneLeftOut : (value : Value) → NoneLeftOut value.levels
  | .sequence items => (levelsOfItems_noneLeftOut items).below
  | .map entries => (levelsOfEntries_noneLeftOut entries).below
  | .undefined | .null | .text _ | .bytes _ | .int _ | .double _ | .bool _ => by
    intro level member lower le
    obtain rfl := List.mem_singleton.mp member
    exact Nat.le_zero.mp le ▸ member

theorem levelsOfItems_noneLeftOut : (items : List Value) → NoneLeftOut (levelsOfItems items)
  | [] => fun _ member => nomatch member
  | item :: rest => (levels_noneLeftOut item).append (levelsOfItems_noneLeftOut rest)

theorem levelsOfEntries_noneLeftOut :
    (entries : List (String × Value)) → NoneLeftOut (levelsOfEntries entries)
  | [] => fun _ member => nomatch member
  | (_, value) :: rest => (levels_noneLeftOut value).append (levelsOfEntries_noneLeftOut rest)

end

theorem firstAt?_eq_none {limit : Nat} {value : Value}
    (shallow : ∀ level ∈ value.levels, level ≤ limit) : value.firstAt? (limit + 1) = none := by
  rw [firstAt?, firstOf?, List.findIdx?_eq_none_iff]
  intro level member
  have le := shallow level member
  exact beq_eq_false_iff_ne.mpr (by omega)

/-- Where something lies too deep, something lies just too deep. -/
theorem exists_firstAt? {limit : Nat} {value : Value}
    (deep : ∃ level ∈ value.levels, limit < level) :
    ∃ index, value.firstAt? (limit + 1) = some index := by
  obtain ⟨level, member, deeper⟩ := deep
  have member := levels_noneLeftOut value level member (limit + 1) deeper
  refine Option.isSome_iff_exists.mp ?_
  rw [firstAt?, firstOf?, List.findIdx?_isSome, List.any_eq_true]
  exact ⟨_, member, beq_self_eq_true _⟩

/-! ## Levels and height -/

mutual

theorem le_height : (value : Value) → ∀ level ∈ value.levels, level ≤ value.height
  | .sequence items, level, member => by
    rcases List.mem_cons.mp member with rfl | below
    · exact Nat.zero_le _
    · obtain ⟨inner, there, rfl⟩ := List.mem_map.mp below
      exact lt_heightItems items inner there
  | .map entries, level, member => by
    rcases List.mem_cons.mp member with rfl | below
    · exact Nat.zero_le _
    · obtain ⟨inner, there, rfl⟩ := List.mem_map.mp below
      exact lt_heightEntries entries inner there
  | .undefined, _, member | .null, _, member | .text _, _, member | .bytes _, _, member
    | .int _, _, member | .double _, _, member | .bool _, _, member =>
    Nat.le_of_eq (List.mem_singleton.mp member)

theorem lt_heightItems : (items : List Value) →
    ∀ level ∈ levelsOfItems items, level < heightItems items
  | [], _, member => nomatch member
  | item :: rest, level, member => by
    rw [heightItems]
    rcases List.mem_append.mp member with here | later
    · have le := le_height item level here
      omega
    · have lt := lt_heightItems rest level later
      omega

theorem lt_heightEntries : (entries : List (String × Value)) →
    ∀ level ∈ levelsOfEntries entries, level < heightEntries entries
  | [], _, member => nomatch member
  | (_, value) :: rest, level, member => by
    rw [heightEntries]
    rcases List.mem_append.mp member with here | later
    · have le := le_height value level here
      omega
    · have lt := lt_heightEntries rest level later
      omega

end

private theorem max_mem_below {deepest depth : Nat} {inner later : List Nat}
    (here : deepest ∈ inner) (there : depth ∈ 0 :: later.map (· + 1)) :
    max (deepest + 1) depth ∈ 0 :: (inner ++ later).map (· + 1) := by
  rw [List.map_append]
  rcases Nat.le_total depth (deepest + 1) with le | le
  · rw [Nat.max_eq_left le]
    exact List.mem_cons_of_mem _ (List.mem_append_left _ (List.mem_map_of_mem here))
  · rw [Nat.max_eq_right le]
    rcases List.mem_cons.mp there with none | below
    · omega
    · exact List.mem_cons_of_mem _ (List.mem_append_right _ below)

mutual

theorem height_mem_levels : (value : Value) → value.height ∈ value.levels
  | .sequence items => heightItems_mem items
  | .map entries => heightEntries_mem entries
  | .undefined | .null | .text _ | .bytes _ | .int _ | .double _ | .bool _ =>
    List.mem_singleton_self _

theorem heightItems_mem : (items : List Value) →
    heightItems items ∈ 0 :: (levelsOfItems items).map (· + 1)
  | [] => List.mem_singleton_self _
  | item :: rest => max_mem_below (height_mem_levels item) (heightItems_mem rest)

theorem heightEntries_mem : (entries : List (String × Value)) →
    heightEntries entries ∈ 0 :: (levelsOfEntries entries).map (· + 1)
  | [] => List.mem_singleton_self _
  | (_, value) :: rest => max_mem_below (height_mem_levels value) (heightEntries_mem rest)

end

theorem firstAt?_eq_none_iff {limit : Nat} {value : Value} :
    value.firstAt? (limit + 1) = none ↔ value.height ≤ limit := by
  constructor
  · intro absent
    refine Nat.le_of_not_lt (fun deep => ?_)
    obtain ⟨index, found⟩ := exists_firstAt? ⟨_, height_mem_levels value, deep⟩
    rw [absent] at found
    cases found
  · intro shallow
    exact firstAt?_eq_none (fun level member => Nat.le_trans (le_height value level member) shallow)

end ConfigWatch.Value
