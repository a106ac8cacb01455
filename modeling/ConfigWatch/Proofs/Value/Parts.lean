import ConfigWatch.Value.Basic
import Mathlib.Algebra.GroupWithZero.Nat
import Mathlib.Algebra.Order.BigOperators.Group.List

/-!
# Parts of a value

The values nested in a value, each with the key under which it stands if it stands in a map. In
pre-order a part comes before all that is nested in it, items in their order and entries in the
order of their keys. So a part and what is nested in it stand together without a gap.
-/

set_option autoImplicit false

namespace ConfigWatch.Value

/-- A value where it stands in another. -/
structure Part where
  key : Option String
  value : Value

/-- What is directly nested in a value. -/
def children : Value → List Part
  | .sequence items => items.map (Part.mk none)
  | .map entries => entries.map (fun entry => ⟨some entry.1, entry.2⟩)
  | _ => []

mutual

def partsUnder (key : Option String) : Value → List Part
  | .sequence items => ⟨key, .sequence items⟩ :: partsOfItems items
  | .map entries => ⟨key, .map entries⟩ :: partsOfEntries entries
  | value => [⟨key, value⟩]

def partsOfItems : List Value → List Part
  | [] => []
  | item :: rest => partsUnder none item ++ partsOfItems rest

def partsOfEntries : List (String × Value) → List Part
  | [] => []
  | (key, value) :: rest => partsUnder (some key) value ++ partsOfEntries rest

end

/-- A part and all that is nested in it, in pre-order. -/
def Part.all (part : Part) : List Part := partsUnder part.key part.value

/-- A value and all that is nested in it, in pre-order. -/
def parts (value : Value) : List Part := Part.all ⟨none, value⟩

/-! ## Induction on what is nested -/

section Induction

variable {motive : Value → Prop}

mutual

private theorem holds
    (step : ∀ value, (∀ child ∈ value.children, motive child.value) → motive value) :
    (value : Value) → motive value
  | .sequence items => by
    apply step
    intro child member
    obtain ⟨item, inside, rfl⟩ := List.mem_map.mp member
    exact holds_item step items item inside
  | .map entries => by
    apply step
    intro child member
    obtain ⟨entry, inside, rfl⟩ := List.mem_map.mp member
    exact holds_entry step entries entry inside
  | .undefined | .null | .text _ | .bytes _ | .int _ | .double _ | .bool _ => by
    apply step
    intro child member
    cases member

private theorem holds_item
    (step : ∀ value, (∀ child ∈ value.children, motive child.value) → motive value) :
    (items : List Value) → ∀ item ∈ items, motive item
  | [], _, member => by cases member
  | first :: rest, item, member => by
    cases List.mem_cons.mp member with
    | inl same => exact same ▸ holds step first
    | inr later => exact holds_item step rest item later

private theorem holds_entry
    (step : ∀ value, (∀ child ∈ value.children, motive child.value) → motive value) :
    (entries : List (String × Value)) → ∀ entry ∈ entries, motive entry.2
  | [], _, member => by cases member
  | (_, value) :: rest, entry, member => by
    cases List.mem_cons.mp member with
    | inl same => exact same ▸ holds step value
    | inr later => exact holds_entry step rest entry later

end

/-- What holds of a value once it holds of all that is directly nested in it, holds of all. -/
theorem induction_on_children
    (step : ∀ value, (∀ child ∈ value.children, motive child.value) → motive value)
    (value : Value) : motive value := holds step value

end Induction

theorem Part.induction {motive : Part → Prop}
    (step : ∀ part, (∀ child ∈ part.value.children, motive child) → motive part) (part : Part) :
    motive part := by
  obtain ⟨key, value⟩ := part
  induction value using induction_on_children generalizing key with
  | step value ih =>
    apply step
    intro child member
    exact ih child member child.key

/-! ## Pre-order -/

private theorem partsOfItems_eq (items : List Value) :
    partsOfItems items = (items.map (Part.mk none)).flatMap Part.all := by
  induction items with
  | nil => rfl
  | cons item rest ih =>
    rw [partsOfItems, ih]
    rfl

private theorem partsOfEntries_eq (entries : List (String × Value)) :
    partsOfEntries entries =
      (entries.map (fun entry => (⟨some entry.1, entry.2⟩ : Part))).flatMap Part.all := by
  induction entries with
  | nil => rfl
  | cons entry rest ih =>
    rw [partsOfEntries, ih]
    rfl

theorem Part.all_eq (part : Part) : part.all = part :: part.value.children.flatMap Part.all := by
  obtain ⟨key, value⟩ := part
  cases value with
  | sequence items => exact congrArg (List.cons _) (partsOfItems_eq items)
  | map entries => exact congrArg (List.cons _) (partsOfEntries_eq entries)
  | _ => rfl

theorem count_eq (value : Value) :
    value.count = 1 + (value.children.map (fun child => child.value.count)).sum := by
  have items (items : List Value) : countItems items = (items.map count).sum := by
    induction items with
    | nil => rfl
    | cons item rest ih => simp [countItems, ih]
  have entries (entries : List (String × Value)) :
      countEntries entries = (entries.map (fun entry => entry.2.count)).sum := by
    induction entries with
    | nil => rfl
    | cons entry rest ih => simp [countEntries, ih]
  cases value with
  | sequence list => simp [count, children, items, Function.comp_def]
  | map list => simp [count, children, entries, Function.comp_def]
  | _ => rfl

theorem length_children_lt (value : Value) : value.children.length < value.count := by
  have least : ∀ number ∈ value.children.map (fun child => child.value.count), 1 ≤ number := by
    intro number member
    obtain ⟨child, _, rfl⟩ := List.mem_map.mp member
    rw [count_eq]
    exact Nat.le_add_right 1 _
  have le := List.length_le_sum_of_one_le _ least
  rw [List.length_map] at le
  rw [count_eq]
  omega

theorem Part.length_all (part : Part) : part.all.length = part.value.count := by
  induction part using Part.induction with
  | step part ih =>
    rw [Part.all_eq, count_eq, List.length_cons, List.length_flatMap, List.map_congr_left ih,
      Nat.add_comm]

/-- What stands at an index of some lists in a row stands in one of them. -/
private theorem exists_of_getElem?_flatMap {α β : Type} {f : α → List β} {list : List α}
    {index : Nat} {found : β} (there : (list.flatMap f)[index]? = some found) :
    ∃ before middle after inside, list = before ++ middle :: after ∧
      index = (before.flatMap f).length + inside ∧ (f middle)[inside]? = some found := by
  induction list generalizing index with
  | nil => cases there
  | cons first rest ih =>
    rw [List.flatMap_cons] at there
    by_cases here : index < (f first).length
    · rw [List.getElem?_append_left here] at there
      exact ⟨[], first, rest, index, rfl, (Nat.zero_add index).symm, there⟩
    · rw [List.getElem?_append_right (Nat.le_of_not_lt here)] at there
      obtain ⟨before, middle, after, inside, rfl, place, held⟩ := ih there
      refine ⟨first :: before, middle, after, inside, rfl, ?_, held⟩
      rw [List.flatMap_cons, List.length_append]
      omega

private theorem exists_split {α : Type} {list : List α} {place : Nat} {held : α}
    (here : list[place]? = some held) :
    ∃ before after, list = before ++ held :: after ∧ before.length = place := by
  obtain ⟨room, rfl⟩ := List.getElem?_eq_some_iff.mp here
  refine ⟨list.take place, list.drop (place + 1), ?_, List.length_take_of_le (Nat.le_of_lt room)⟩
  rw [List.getElem_cons_drop, List.take_append_drop]

namespace Part

variable {part inner child other : Part} {index depth place : Nat} {before after : List Part}

theorem all_zero (part : Part) : part.all[0]? = some part := by
  rw [all_eq]
  rfl

/-- What is nested in a child follows after the children before. -/
theorem getElem?_child (split : part.value.children = before ++ child :: after)
    (there : child.all[depth]? = some other) :
    part.all[1 + (before.flatMap all).length + depth]? = some other := by
  have inside := (List.getElem?_eq_some_iff.mp there).1
  rw [all_eq, split, Nat.add_assoc, Nat.add_comm 1, List.getElem?_cons_succ, List.flatMap_append,
    List.getElem?_append_right (Nat.le_add_right _ _), Nat.add_sub_cancel_left, List.flatMap_cons,
    List.getElem?_append_left inside]
  exact there

/-- A part and what is nested in it stand together in the pre-order of whatever holds it. -/
theorem getElem?_within (found : part.all[index]? = some inner)
    (there : inner.all[depth]? = some other) : part.all[index + depth]? = some other := by
  induction part using Part.induction generalizing index with
  | step part ih =>
    cases index with
    | zero =>
      obtain rfl := Option.some.inj (part.all_zero.symm.trans found)
      rw [Nat.zero_add]
      exact there
    | succ index =>
      rw [all_eq, List.getElem?_cons_succ] at found
      obtain ⟨before, child, after, inside, split, rfl, held⟩ := exists_of_getElem?_flatMap found
      have member : child ∈ part.value.children := by simp [split]
      have deeper := ih child member held
      have here := getElem?_child split deeper
      rw [← here]
      congr 1
      omega

theorem count_le (found : part.all[index]? = some inner) :
    index + inner.value.count ≤ part.value.count := by
  have positive : inner.value.count ≠ 0 := by
    rw [count_eq]
    omega
  obtain ⟨last, same⟩ := Nat.exists_eq_succ_of_ne_zero positive
  obtain ⟨final, there⟩ : ∃ final, inner.all[last]? = some final := by
    rw [← Option.isSome_iff_exists, isSome_getElem?, length_all]
    omega
  have inside := (List.getElem?_eq_some_iff.mp (getElem?_within found there)).1
  rw [length_all] at inside
  omega

/-! ## Where children stand -/

/-- How far after a part one of its children stands: after the part itself and all that is nested
in the children before. -/
def reach (part : Part) (place : Nat) : Nat :=
  1 + ((part.value.children.take place).map (fun child => child.value.count)).sum

/-- After its last child a part and what is nested in it are over. -/
theorem reach_length (part : Part) :
    part.reach part.value.children.length = part.value.count := by
  rw [reach, List.take_length, count_eq]

/-- From one child to the next it is as far as there are values in it. -/
theorem reach_succ (here : part.value.children[place]? = some child) :
    part.reach (place + 1) = part.reach place + child.value.count := by
  rw [reach, List.take_add_one, here, List.map_append, List.sum_append_nat, ← Nat.add_assoc]
  simp [reach]

private theorem reach_split (split : part.value.children = before ++ child :: after) :
    part.reach before.length = 1 + (before.flatMap all).length := by
  rw [reach, split, List.take_left, List.length_flatMap]
  simp only [length_all]

/-- The children of a part stand where they are reached from it. -/
theorem getElem?_reach (found : part.all[index]? = some inner)
    (here : inner.value.children[place]? = some child) :
    part.all[index + inner.reach place]? = some child := by
  obtain ⟨before, after, split, rfl⟩ := exists_split here
  apply getElem?_within found
  rw [reach_split split]
  exact getElem?_child split child.all_zero

/-- Whatever is nested in a part is a child of the part or of something nested in it. -/
theorem exists_parent (found : part.all[index]? = some inner) (nested : index ≠ 0) :
    ∃ start parent place, part.all[start]? = some parent ∧
      parent.value.children[place]? = some inner ∧ index = start + parent.reach place := by
  induction part using Part.induction generalizing index with
  | step part ih =>
    obtain ⟨index, rfl⟩ := Nat.exists_eq_succ_of_ne_zero nested
    rw [all_eq, Nat.succ_eq_add_one, List.getElem?_cons_succ] at found
    obtain ⟨before, child, after, inside, split, rfl, held⟩ := exists_of_getElem?_flatMap found
    by_cases top : inside = 0
    · subst top
      obtain rfl := Option.some.inj (child.all_zero.symm.trans held)
      refine ⟨0, part, before.length, part.all_zero, by simp [split], ?_⟩
      rw [reach_split split]
      omega
    · have member : child ∈ part.value.children := by simp [split]
      obtain ⟨start, parent, place, stands, here, rfl⟩ := ih child member held top
      refine ⟨_, parent, place, getElem?_child split stands, here, ?_⟩
      omega

end Part

/-! ## Order of keys -/

private theorem itemsOrdered_iff {items : List Value} :
    ItemsOrdered items ↔ ∀ item ∈ items, item.Ordered := by
  induction items with
  | nil => simp [ItemsOrdered]
  | cons item rest ih => rw [ItemsOrdered, ih, List.forall_mem_cons]

private theorem entriesOrdered_iff {entries : List (String × Value)} :
    EntriesOrdered entries ↔ ∀ entry ∈ entries, entry.2.Ordered := by
  induction entries with
  | nil => simp [EntriesOrdered]
  | cons entry rest ih => rw [EntriesOrdered, ih, List.forall_mem_cons]

theorem Ordered.child {value : Value} (ordered : value.Ordered) {child : Part}
    (member : child ∈ value.children) : child.value.Ordered := by
  cases value with
  | sequence items =>
    obtain ⟨item, inside, rfl⟩ := List.mem_map.mp member
    exact itemsOrdered_iff.mp ordered item inside
  | map entries =>
    obtain ⟨entry, inside, rfl⟩ := List.mem_map.mp member
    exact entriesOrdered_iff.mp ordered.2 entry inside
  | _ => cases member

theorem Part.ordered {part inner : Part} (ordered : part.value.Ordered)
    (member : inner ∈ part.all) : inner.value.Ordered := by
  induction part using Part.induction with
  | step part ih =>
    rw [Part.all_eq] at member
    cases List.mem_cons.mp member with
    | inl same => exact same ▸ ordered
    | inr nested =>
      obtain ⟨child, here, inside⟩ := List.mem_flatMap.mp nested
      exact ih child here (ordered.child here) inside

/-- The keys under which children stand ascend. -/
theorem Ordered.keys_ascend {value : Value} (ordered : value.Ordered) :
    (value.children.filterMap Part.key).Pairwise (· < ·) := by
  cases value with
  | sequence items => simp [children, List.filterMap_map]
  | map entries =>
    have keys : (entries.map Prod.fst).Pairwise (· < ·) := ordered.1
    simpa [children, List.filterMap_map, Function.comp_def] using keys
  | _ => exact List.Pairwise.nil

end ConfigWatch.Value
