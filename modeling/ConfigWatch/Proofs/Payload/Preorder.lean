import ConfigWatch.Payload.Flatten
import ConfigWatch.Proofs.Payload.Layouts
import ConfigWatch.Proofs.Value.Parts

/-!
# Flattening follows the pre-order

A flattened value has one node for each part of the value, in pre-order. The node of a part that is
nested gives the key of the part and leads past everything nested in it, to the next child of the
same container or to the end of the container.
-/

set_option autoImplicit false

namespace ConfigWatch.Payload

/-- The node of a value by itself: its type, its content and the number of its children. -/
def bareNode : Value → Node
  | .undefined => { valueType := ValueType.undefined.code }
  | .null => { valueType := ValueType.null.code }
  | .text content => { valueType := ValueType.text.code, text := content }
  | .bytes content => { valueType := ValueType.bytes.code, bytes := content }
  | .int number => { valueType := ValueType.int.code, int := number }
  | .double number => { valueType := ValueType.double.code, double := number }
  | .bool truth => { valueType := ValueType.bool.code, bool := truth }
  | .sequence items =>
    { valueType := ValueType.sequence.code, size := UInt32.ofNat items.length }
  | .map entries => { valueType := ValueType.map.code, size := UInt32.ofNat entries.length }

/-- The node of a part that is nested: it has the key, and leads past what is nested in the part. -/
def nestedNode (part : Value.Part) : Node :=
  { bareNode part.value with
    keyType := if part.key.isSome then KeyType.text.code else KeyType.none.code
    key := part.key.getD ""
    siblingOffset := UInt32.ofNat (part.value.count - 1) }

def asChild : Option String → List Node → List Node
  | none => asItem
  | some key => asEntry key

theorem flatten_eq (value : Value) :
    flatten value = bareNode value ::
      value.children.flatMap (fun child => asChild child.key (flatten child.value)) := by
  have items (items : List Value) : flattenItems items =
      (items.map (Value.Part.mk none)).flatMap
        (fun child => asChild child.key (flatten child.value)) := by
    induction items with
    | nil => rfl
    | cons item rest ih =>
      rw [flattenItems, ih]
      rfl
  have entries (entries : List (String × Value)) : flattenEntries entries =
      (entries.map (fun entry => (⟨some entry.1, entry.2⟩ : Value.Part))).flatMap
        (fun child => asChild child.key (flatten child.value)) := by
    induction entries with
    | nil => rfl
    | cons entry rest ih =>
      rw [flattenEntries, ih]
      rfl
  cases value with
  | sequence list => exact congrArg (List.cons _) (items list)
  | map list => exact congrArg (List.cons _) (entries list)
  | _ => rfl

private theorem asChild_cons (part : Value.Part) (rest : List Node)
    (length : rest.length = part.value.count - 1) :
    asChild part.key (bareNode part.value :: rest) = nestedNode part :: rest := by
  obtain ⟨key, value⟩ := part
  cases key with
  | none =>
    rw [asChild, asItem, nestedNode, ← length]
    cases value <;> rfl
  | some key =>
    rw [asChild, asEntry, nestedNode, ← length]
    cases value <;> rfl

theorem asChild_flatten (part : Value.Part) :
    asChild part.key (flatten part.value) = part.all.map nestedNode := by
  induction part using Value.Part.induction with
  | step part ih =>
    have below : part.value.children.flatMap
          (fun child => asChild child.key (flatten child.value)) =
        (part.value.children.flatMap Value.Part.all).map nestedNode := by
      rw [List.map_flatMap]
      exact List.flatMap_congr ih
    have length := part.length_all
    rw [Value.Part.all_eq, List.length_cons] at length
    rw [flatten_eq, below, asChild_cons, Value.Part.all_eq, List.map_cons]
    rw [List.length_map]
    omega

/-- The nodes of a flattened value are those of its parts in pre-order. -/
theorem flatten_eq_parts (value : Value) :
    flatten value = bareNode value :: value.parts.tail.map nestedNode := by
  rw [flatten_eq, Value.parts, Value.Part.all_eq, List.tail_cons, List.map_flatMap]
  congr 1
  exact List.flatMap_congr (fun child _ => asChild_flatten child)

/-! ## What the nodes say -/

/-- A node says of a part what it is, how many children it has, and under which key it stands. -/
structure Describes (node : Node) (part : Value.Part) : Prop where
  carries : Carries node part.value
  size : node.size.toNat = part.value.children.length
  keyed : node.keyType = KeyType.text.code ∧ part.key = some node.key ∨
    node.keyType = KeyType.none.code ∧ node.key = "" ∧ part.key = none

private theorem bareNode_size {value : Value} (few : value.count < 2 ^ 32) :
    (bareNode value).size.toNat = value.children.length := by
  have size := UInt32.toNat_ofNat_of_lt' (Nat.lt_trans value.length_children_lt few)
  cases value with
  | sequence items => simpa [Value.children, bareNode] using size
  | map entries => simpa [Value.children, bareNode] using size
  | _ => rfl

private theorem bareNode_carries {value : Value} (few : value.count < 2 ^ 32) :
    Carries (bareNode value) value := by
  have size := bareNode_size few
  cases value with
  | sequence items => exact ⟨rfl, size.trans (List.length_map _)⟩
  | map entries => exact ⟨rfl, size.trans (List.length_map _)⟩
  | undefined | null => exact rfl
  | _ => exact ⟨rfl, rfl⟩

private theorem bareNode_describes {value : Value} (few : value.count < 2 ^ 32) :
    Describes (bareNode value) ⟨none, value⟩ := by
  refine ⟨bareNode_carries few, bareNode_size few, .inr ?_⟩
  cases value <;> exact ⟨rfl, rfl, rfl⟩

private theorem nestedNode_describes {part : Value.Part} (few : part.value.count < 2 ^ 32) :
    Describes (nestedNode part) part := by
  obtain ⟨key, value⟩ := part
  constructor
  case carries =>
    have carries := bareNode_carries few
    cases value <;> exact carries
  case size => exact bareNode_size few
  case keyed =>
    cases key with
    | none => exact .inr ⟨rfl, rfl, rfl⟩
    | some key => exact .inl ⟨rfl, rfl⟩

private theorem nestedNode_offset {part : Value.Part} (few : part.value.count < 2 ^ 32) :
    (nestedNode part).siblingOffset.toNat + 1 = part.value.count := by
  have positive := part.value.length_children_lt
  have offset := UInt32.toNat_ofNat_of_lt' (Nat.lt_of_le_of_lt (Nat.sub_le _ 1) few)
  rw [nestedNode, offset]
  omega

private theorem keyType_nestedNode_iff {value : Value} {child : Value.Part}
    (member : child ∈ value.children) :
    (nestedNode child).keyType = KeyType.text.code ↔ ∃ entries, value = .map entries := by
  cases value with
  | sequence items =>
    obtain ⟨item, _, rfl⟩ := List.mem_map.mp member
    constructor
    · intro keyed
      cases keyed
    · rintro ⟨entries, same⟩
      cases same
  | map entries =>
    obtain ⟨entry, _, rfl⟩ := List.mem_map.mp member
    exact iff_of_true rfl ⟨entries, rfl⟩
  | _ => cases member

/-- A nested node stands where its part stands in the pre-order. -/
theorem getElem?_flatten {value : Value} {index : Nat} {node : Node}
    (there : (flatten value)[index]? = some node) (nested : index ≠ 0) :
    ∃ part, value.parts[index]? = some part ∧ node = nestedNode part := by
  obtain ⟨index, rfl⟩ := Nat.exists_eq_succ_of_ne_zero nested
  rw [flatten_eq_parts, Nat.succ_eq_add_one, List.getElem?_cons_succ, List.getElem?_map] at there
  obtain ⟨part, found, rfl⟩ := Option.map_eq_some_iff.mp there
  rw [List.getElem?_tail] at found
  exact ⟨part, found, rfl⟩

private theorem flatten_describes {value : Value} (few : value.count < 2 ^ 32) :
    List.Forall₂ Describes (flatten value) value.parts := by
  have split : value.parts = ⟨none, value⟩ :: value.parts.tail := by
    rw [Value.parts, Value.Part.all_eq, List.tail_cons]
  rw [flatten_eq_parts, split, List.tail_cons]
  apply List.Forall₂.cons (bareNode_describes few)
  rw [List.forall₂_map_left_iff, List.forall₂_same]
  intro part member
  obtain ⟨index, found⟩ := List.mem_iff_getElem?.mp (List.mem_of_mem_tail member)
  have within := Value.Part.count_le found
  exact nestedNode_describes (Nat.lt_of_le_of_lt (Nat.le_trans (Nat.le_add_left _ _) within) few)

/-- Flattening lays out a value as the format of payloads says: one node for each part in
pre-order, entries in ascending order of their keys. Every node but the first belongs to a child
of a container, and leads to the next child of the container or to its end. -/
theorem flatten_follows_preorder {value : Value} (ordered : value.Ordered)
    (few : value.count < 2 ^ 32) :
    (flatten value).length = value.count ∧
      List.Forall₂ Describes (flatten value) value.parts ∧
      (∀ part ∈ value.parts, (part.value.children.filterMap Value.Part.key).Pairwise (· < ·)) ∧
      ∀ index node, (flatten value)[index]? = some node → index ≠ 0 →
        ∃ start parent place child, value.parts[start]? = some parent ∧
          parent.value.children[place]? = some child ∧ value.parts[index]? = some child ∧
          (node.keyType = KeyType.text.code ↔ ∃ entries, parent.value = .map entries) ∧
          node.siblingOffset.toNat + 1 = child.value.count ∧
          ((∃ next, parent.value.children[place + 1]? = some next ∧
              value.parts[index + node.siblingOffset.toNat + 1]? = some next) ∨
            (parent.value.children.length = place + 1 ∧
              index + node.siblingOffset.toNat + 1 = start + parent.value.count)) := by
  have describes := flatten_describes few
  refine ⟨describes.length_eq.trans (Value.Part.length_all _), describes, ?_, ?_⟩
  · intro part member
    exact (Value.Part.ordered ordered member).keys_ascend
  · intro index node there nested
    obtain ⟨child, found, rfl⟩ := getElem?_flatten there nested
    have within := Value.Part.count_le found
    have offset := nestedNode_offset
      (Nat.lt_of_le_of_lt (Nat.le_trans (Nat.le_add_left _ _) within) few)
    obtain ⟨start, parent, place, stands, here, rfl⟩ := Value.Part.exists_parent found nested
    refine ⟨start, parent, place, child, stands, here, found,
      keyType_nestedNode_iff (List.mem_of_getElem? here), offset, ?_⟩
    have onwards : start + parent.reach place + (nestedNode child).siblingOffset.toNat + 1 =
        start + parent.reach (place + 1) := by
      rw [Value.Part.reach_succ here]
      omega
    rw [onwards]
    cases after : parent.value.children[place + 1]? with
    | some next => exact .inl ⟨next, rfl, Value.Part.getElem?_reach stands after⟩
    | none =>
      have room := (List.getElem?_eq_some_iff.mp here).1
      have last : parent.value.children.length = place + 1 :=
        Nat.le_antisymm (List.getElem?_eq_none_iff.mp after) room
      exact .inr ⟨last, by rw [← last, Value.Part.reach_length]⟩

private def nestedHosts : Value :=
  .map [("hosts", .sequence [.text "a", .map [("port", .int 80)]]), ("ratio", .null)]

/-- The last item of the sequence leads to the entry after the sequence, and so does the sequence
itself; the last entry leads to the end. -/
theorem flatten_follows_preorder_hosts :
    nestedHosts.Ordered ∧ nestedHosts.count < 2 ^ 32 ∧
      List.Forall₂ Describes (flatten nestedHosts) nestedHosts.parts ∧
      (flatten nestedHosts).map Node.siblingOffset = [0, 3, 0, 1, 0, 0] := by
  have ordered : nestedHosts.Ordered := by
    simp only [nestedHosts, Value.Ordered, Value.EntriesOrdered, Value.ItemsOrdered,
      Value.KeysAscend, List.map_cons, List.map_nil, and_true, true_and]
    decide
  have few : nestedHosts.count < 2 ^ 32 := by decide
  obtain ⟨_, describes, _, _⟩ := flatten_follows_preorder ordered few
  exact ⟨ordered, few, describes, by decide⟩

end ConfigWatch.Payload
